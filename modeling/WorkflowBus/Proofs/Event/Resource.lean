/-
The entities that events are filed under.

An event names the type of an entity and, if it has one, an identifier.  What it carries is
seen in its JSON object, where each type of entity has a field of its own.  The two agree but
for connections that are attempted or have failed: these carry no connection, and are filed
as the connection that has the identifier of the user.
-/

import WorkflowBus.Event.Basic

namespace WorkflowBus

namespace ResourceType

/-- The field in which a fact carries the identifier of an entity of the type. -/
def idField : ResourceType → String
  | .user => "user_id"
  | .session => "session_id"
  | .providerConnection => "connection_id"

end ResourceType

namespace Fact

def idOf? (fact : Fact) (resourceType : ResourceType) : Option Json :=
  fact.toJson.get? resourceType.idField

/-- The fact is filed under the entity of its type that it carries, or under none if it
carries none. -/
def FiledAsCarried (fact : Fact) : Prop :=
  fact.resourceId?.map Uuid.toJson = fact.idOf? fact.resourceType

end Fact

/-- A connection to a provider that has not come about. -/
def EventType.Unconnected (eventType : EventType) : Prop :=
  eventType = .lifecycle .providerConnection .attempted ∨
    eventType = .lifecycle .providerConnection .failed

theorem WorkflowFact.filedAsCarried {fact : WorkflowFact}
    (connected : ¬fact.eventType.Unconnected) : (Fact.lifecycle fact).FiledAsCarried := by
  cases fact with
  | providerConnectionAttempted userId slug => exact absurd (Or.inl rfl) connected
  | providerConnectionFailed userId slug reason => exact absurd (Or.inr rfl) connected
  | _ => rfl

theorem OperationalFact.filedAsCarried (fact : OperationalFact) :
    (Fact.telemetry fact).FiledAsCarried := by
  cases fact <;> rfl

namespace Fact

variable {fact : Fact}

theorem filedAsCarried (connected : ¬fact.eventType.Unconnected) : fact.FiledAsCarried := by
  cases fact with
  | lifecycle fact => exact fact.filedAsCarried connected
  | telemetry fact => exact fact.filedAsCarried

/-- A connection that has not come about is filed under its user. -/
theorem resource_of_unconnected (unconnected : fact.eventType.Unconnected) :
    fact.resourceType = .providerConnection ∧ fact.idOf? .providerConnection = none ∧
      ∃ userId, fact.resourceId? = some userId ∧ fact.idOf? .user = some userId.toJson := by
  cases fact with
  | telemetry fact => rcases unconnected with same | same <;> cases same
  | lifecycle fact =>
      cases fact with
      | providerConnectionAttempted userId slug => exact ⟨rfl, rfl, userId, rfl, rfl⟩
      | providerConnectionFailed userId slug reason => exact ⟨rfl, rfl, userId, rfl, rfl⟩
      | _ => rcases unconnected with same | same <;> cases same

theorem filedAsCarried_iff : fact.FiledAsCarried ↔ ¬fact.eventType.Unconnected := by
  refine ⟨?_, filedAsCarried⟩
  intro filed unconnected
  obtain ⟨type, nothing, userId, given, _user⟩ := resource_of_unconnected unconnected
  unfold FiledAsCarried at filed
  rw [type, nothing, given] at filed
  cases filed

end Fact

namespace Event

/-- An event is filed under the entity that it carries, exactly if it is no connection that
is attempted or has failed.  Such an event carries no connection, and the identifier that it
is filed under as a connection is that of its user. -/
theorem resource_carried_iff (event : Event) :
    (event.resource.2.map Uuid.toJson = event.fact.toJson.get? event.resource.1.idField ↔
        ¬event.eventType.Unconnected) ∧
      (event.eventType.Unconnected →
        event.resource.1 = .providerConnection ∧
          event.fact.toJson.get? ResourceType.providerConnection.idField = none ∧
          ∃ userId, event.resource.2 = some userId ∧
            event.fact.toJson.get? ResourceType.user.idField = some userId.toJson) :=
  ⟨Fact.filedAsCarried_iff, Fact.resource_of_unconnected⟩

def connectionAttempt : Event where
  id := .numbered 1
  occurredAt := .epoch
  fact := .lifecycle (.providerConnectionAttempted (.numbered 2) "plaid")

theorem connectionAttempt_unconnected :
    connectionAttempt.eventType.Unconnected ∧
      connectionAttempt.resource.1 = .providerConnection ∧
      ∃ userId, connectionAttempt.resource.2 = some userId ∧
        connectionAttempt.fact.toJson.get? ResourceType.user.idField = some userId.toJson := by
  have unconnected : connectionAttempt.eventType.Unconnected := Or.inl rfl
  obtain ⟨type, _nothing, user⟩ := (resource_carried_iff connectionAttempt).2 unconnected
  exact ⟨unconnected, type, user⟩

theorem connectionAttempt_misfiled :
    connectionAttempt.resource = (.providerConnection, some (.numbered 2)) ∧
      connectionAttempt.fact.toJson.get? ResourceType.providerConnection.idField = none :=
  ⟨rfl, rfl⟩

end Event
end WorkflowBus
