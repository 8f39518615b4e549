/-
The handlers of the four categories.

Logging writes one structured log record for every event.  Audit records every event under
the action of the entry of the registry that owns its event type.  Notification writes to
users whose workflow has succeeded, and invalidation revokes sessions and cached credentials
once a workflow that makes them unsafe has succeeded.
-/

import WorkflowBus.Handler.Basic
import WorkflowBus.Registry.Basic

namespace WorkflowBus
namespace LoggingHandler

def headline : EventType → LogLevel × String
  | .lifecycle _ .attempted => (.info, "Workflow attempted")
  | .lifecycle _ .succeeded => (.info, "Workflow succeeded")
  | .lifecycle _ .failed => (.warn, "Workflow failed")
  | .telemetry kind =>
      if kind.isSecurityRelevant then (.warn, "Security-relevant activity")
      else (.debug, "Operational event")

/-- The record of an event, with the correlation identifier of the operation that
it is part of. -/
def recordFor (event : Event) (operation : Option OperationContext) : LogRecord :=
  let (level, message) := headline event.eventType
  (LogRecord.ofMessage level message)
    |>.field "event_type" event.eventType.className
    |>.field "event_id" event.id.text
    |>.field "workflow" event.eventType.registryName
    |>.field "occurred_at" event.occurredAt.offsetText
    |>.field? "actor_id" (event.actorId?.map Uuid.text)
    |>.field? "reason" event.fact.failureReason?
    |>.field? "correlation_id"
      ((operation.bind OperationContext.correlationId).map Uuid.text)

def handler : Handler :=
  .atomic fun event scope =>
    (scope.mapServices (·.emit (recordFor event scope.operation?)), none)

end LoggingHandler

namespace AuditHandler

def redactedFields : List String :=
  ["verification_token"]

/-- A fact's object with sorted keys and without redacted fields. -/
def metadata (fact : Fact) : Json :=
  .obj (redactedFields.foldl (fun members key => Json.eraseKey key members)
    (Json.sortedMembers fact.members))

/-- The record of an event without what the call tells; the owning entry has to
require audit. -/
def recordFor (registry : Registry) (event : Event) : Except HandlerError AuditRecord :=
  match registry.owner? event.eventType with
  | none => .error (.unregistered event.eventType)
  | some entry =>
      if entry.requires .audit then
        let (resourceType, resourceId) := event.resource
        .ok <|
          (AuditRecord.ofAction (entry.auditActionFor event.eventType) event.id event.occurredAt)
            |>.withActor event.actorId?
            |>.withResource resourceType.name (resourceId.map Uuid.text)
            |>.withMetadata (metadata event.fact)
      else .error (.unsupported Category.audit.name event.eventType)

def inOperation (record : AuditRecord) : Option OperationContext → AuditRecord
  | some operation => record.withOperation operation
  | none => record

def writtenTrace (event : Event) (id : Uuid) : Trace where
  level := .debug
  message := "Audit record written"
  fields := [("audit_id", id.text), ("event_id", event.id.text),
    ("event_type", event.eventType.className)]

def handler (registry : Registry) : Handler :=
  .atomic fun event scope =>
    match recordFor registry event with
    | .error error => (scope, some (.answered error))
    | .ok record =>
        match scope.recordAudit (inOperation record scope.operation?) with
        | (.error error, scope) => (scope, some (.answered (.audit error)))
        | (.ok id, scope) => (scope.mapServices (·.withTraces [writtenTrace event id]), none)

end AuditHandler

namespace NotificationHandler

def notificationFor? (event : Event) : Option Notification :=
  match event.fact with
  | .lifecycle (.userRegistrationSucceeded userId email verificationToken) =>
      some {
        template := .emailVerification
        recipient := email
        payload := .ofMembers
          [("user_id", userId.toJson), ("verification_token", .str verificationToken)] }
  | .lifecycle (.emailVerificationSucceeded userId email) =>
      some {
        template := .welcome
        recipient := email
        payload := .ofMembers [("user_id", userId.toJson)] }
  | .lifecycle (.passwordChangeSucceeded userId email initiatedBy) =>
      some {
        template := .passwordChanged
        recipient := email
        payload := .ofMembers
          [("user_id", userId.toJson), ("initiated_by", .str initiatedBy),
            ("changed_at", event.occurredAt.toJson)] }
  | .lifecycle (.passwordResetSucceeded userId email) =>
      some {
        template := .passwordResetCompleted
        recipient := email
        payload := .ofMembers
          [("user_id", userId.toJson), ("reset_at", event.occurredAt.toJson)] }
  | _ => none

def sentTrace (event : Event) (notification : Notification) : Trace where
  level := .debug
  message := "Notification sent"
  fields := [("template", notification.template.name), ("event_id", event.id.text)]

def handler : Handler :=
  .atomic fun event scope =>
    match notificationFor? event with
    | none =>
        (scope, some (.answered (.unsupported Category.notification.name event.eventType)))
    | some notification =>
        match scope.services.send notification with
        | (.error error, services) =>
            ({ scope with services := services }, some (.answered (.notification error)))
        | (.ok (), services) =>
            ({ scope with services := services.withTraces [sentTrace event notification] }, none)

end NotificationHandler

namespace InvalidationHandler

def revocationFor? (event : Event) : Option Revocation :=
  match event.fact with
  | .lifecycle (.passwordChangeSucceeded userId _ _)
  | .lifecycle (.passwordResetSucceeded userId _) => some (.allUserSessions userId)
  | .lifecycle (.userLogoutSucceeded _ sessionId) => some (.session sessionId)
  | .lifecycle (.providerDisconnectionSucceeded _ connectionId _) =>
      some (.providerCredentials connectionId)
  | _ => none

def revokedTrace (event : Event) (revocation : Revocation) (removed : Nat) : Trace where
  level := .info
  message := "Revoked sessions"
  fields := [("subject", revocation.text), ("revoked", toString removed),
    ("event_id", event.id.text)]

def handler : Handler :=
  .atomic fun event scope =>
    match revocationFor? event with
    | none =>
        (scope, some (.answered (.unsupported Category.invalidation.name event.eventType)))
    | some revocation =>
        match scope.services.revoke revocation with
        | (.error error, services) =>
            ({ scope with services := services }, some (.answered (.invalidation error)))
        | (.ok removed, services) =>
            ({ scope with
                services := services.withTraces [revokedTrace event revocation removed] }, none)

end InvalidationHandler

namespace Category

def handler (registry : Registry) : Category → Handler
  | .logging => LoggingHandler.handler
  | .audit => AuditHandler.handler registry
  | .notification => NotificationHandler.handler
  | .invalidation => InvalidationHandler.handler

end Category

end WorkflowBus
