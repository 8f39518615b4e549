/-
What handlers work with.

The collaborators are what the handlers of the categories are built from.  The
services add what all parts share: the supply of identifiers, the time, the
traces, and the journal in which scripted handlers note their calls.  For one
publish call a caller may lend its audit session and tell the operation it is
part of.
-/

import WorkflowBus.Handler.Id
import WorkflowBus.Audit.Trail
import WorkflowBus.Log
import WorkflowBus.Notification
import WorkflowBus.SessionStore

namespace WorkflowBus

structure Collaborators where
  audit : AuditTrail
  notifications : NotificationSender
  sessions : SessionStore
  log : LogSink

namespace Collaborators

/-- Collaborators that live in this process: notifications and log records are
traced. -/
def inProcess : Collaborators where
  audit := .empty
  notifications := .ofDelivery .traced
  sessions := .empty
  log := .tracing

end Collaborators

/-- A call of a scripted handler: who was called for which event, and what the
call lent. -/
structure JournalEntry where
  handler : HandlerId
  eventId : Uuid
  hadContext : Bool
  operation : Option OperationContext

namespace JournalEntry

def toJson (entry : JournalEntry) : Json :=
  .obj [("probe", .str entry.handler.text), ("event_id", entry.eventId.toJson),
    ("had_context", .bool entry.hadContext),
    ("operation", (entry.operation.map OperationContext.toJson).getD .null)]

end JournalEntry

/-- The collaborators in use, with perhaps a second set of them that is set aside,
and what all parts share. -/
structure Services extends Collaborators where
  aside : Option Collaborators
  ids : IdSupply
  now : Instant
  traces : List Trace
  journal : List JournalEntry

namespace Services

def start (collaborators : Collaborators) (ids : IdSupply) (now : Instant) : Services where
  toCollaborators := collaborators
  aside := none
  ids := ids
  now := now
  traces := []
  journal := []

/-- Puts the collaborators that are set aside in use, and sets those in use aside.
Without a second set everything stays as it is. -/
def exchanged (services : Services) : Services :=
  match services.aside with
  | some collaborators =>
      { services with
        toCollaborators := collaborators
        aside := some services.toCollaborators }
  | none => services

theorem exchanged_exchanged (services : Services) : services.exchanged.exchanged = services := by
  unfold exchanged
  cases same : services.aside with
  | none => simp only [same]
  | some collaborators => cases services; cases same; rfl

def withTraces (services : Services) (traces : List Trace) : Services :=
  { services with traces := services.traces ++ traces }

def emit (services : Services) (record : LogRecord) : Services :=
  let (log, traces) := services.log.emit record
  { services with log := log }.withTraces traces

def recordAudit (services : Services) (record : AuditRecord) :
    Except AuditError Uuid × Services :=
  let (answer, audit, ids) := services.audit.record services.now services.ids record
  (answer, { services with audit := audit, ids := ids })

def send (services : Services) (notification : Notification) :
    Except NotificationError Unit × Services :=
  let (answer, notifications, traces) := services.notifications.send services.now notification
  (answer, { services with notifications := notifications }.withTraces traces)

def revoke (services : Services) (revocation : Revocation) :
    Except SessionStoreError Nat × Services :=
  let (answer, sessions) := services.sessions.revoke revocation
  (answer, { services with sessions := sessions })

def openSession (services : Services) (userId : Uuid) : Uuid × Services :=
  let (sessionId, sessions, ids) := services.sessions.openSession services.ids userId
  (sessionId, { services with sessions := sessions, ids := ids })

end Services

/-- What the caller of one publish call lends: its open audit session, and the
operation that the call is part of. -/
structure DispatchContext where
  session : AuditSession
  operation : Option OperationContext

/-- Everything within reach of a handler during one publish call. -/
structure Scope where
  services : Services
  context : Option DispatchContext

namespace Scope

def operation? (scope : Scope) : Option OperationContext := do
  (← scope.context).operation

def mapServices (scope : Scope) (change : Services → Services) : Scope :=
  { scope with services := change scope.services }

def recordInSession (scope : Scope) (context : DispatchContext) (record : AuditRecord) :
    Except AuditError Uuid × Scope :=
  let (answer, session, ids) := context.session.record scope.services.ids record
  (answer,
    { services := { scope.services with ids := ids }
      context := some { context with session := session } })

/-- Writes a record where the call wants it: to the lent session if there is one,
and else to the trail. -/
def recordAudit (scope : Scope) (record : AuditRecord) : Except AuditError Uuid × Scope :=
  match scope.context with
  | some context => scope.recordInSession context record
  | none =>
      let (answer, services) := scope.services.recordAudit record
      (answer, { scope with services := services })

end Scope
end WorkflowBus
