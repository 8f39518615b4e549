/-
Events: facts with an identity and a time.

Two events are the same event when their identifiers are equal, whatever they
say; two events with the same fact are distinct all the same.
-/

import WorkflowBus.Event.Format

namespace WorkflowBus

structure Event where
  id : Uuid
  occurredAt : Instant
  fact : Fact

namespace Event

/-- Two events are the same when they have the same identifier. -/
def same (left right : Event) : Bool :=
  left.id == right.id

def create (supply : IdSupply) (now : Instant) (fact : Fact) : Event × IdSupply :=
  let (id, supply) := supply.draw
  ({ id := id, occurredAt := now, fact := fact }, supply)

def eventType (event : Event) : EventType :=
  event.fact.eventType

def family (event : Event) : Family :=
  event.eventType.family

def actorId? (event : Event) : Option Uuid :=
  event.fact.actorId?

def resource (event : Event) : ResourceType × Option Uuid :=
  (event.fact.resourceType, event.fact.resourceId?)

/-- The payload of an event: the family of its fact and the fact. -/
def payloadJson (event : Event) : Json :=
  .obj [("family", .str event.family.name), ("event", event.fact.toJson)]

def toJson (event : Event) : Json :=
  .obj [("id", event.id.toJson), ("occurred_at", event.occurredAt.toJson),
    ("payload", event.payloadJson)]

/-- Reads a payload.  An object may give the family by any written name, and the
event type by its place in the family; a payload written as a list has the plain
texts of both. -/
def factOfPayload? : Json → Option Fact
  | .obj members => do
      let family ← Family.ofName? (← (← members.lookup "family").name?)
      Fact.ofJson? family true (← members.lookup "event")
  | .arr [name, fact] => do Fact.ofJson? (← Family.ofName? (← name.text?)) false fact
  | _ => none

def ofJson? (json : Json) : Option Event := do
  match ← json.fields? ["id", "occurred_at", "payload"] with
  | [id, occurredAt, payload] =>
      return {
        id := ← Json.required? Uuid.ofJson? id
        occurredAt := ← Json.required? Instant.ofJson? occurredAt
        fact := ← Json.required? factOfPayload? payload }
  | _ => none

end Event
end WorkflowBus
