/-
Audit records: what the trail is told about one event.
-/

import WorkflowBus.Event.Basic
import WorkflowBus.OperationContext

namespace WorkflowBus

structure AuditRecord where
  eventId : Uuid
  action : String
  actorId : Option Uuid
  resourceType : String
  resourceId : Option String
  metadata : Json
  correlationId : Option Uuid
  clientIp : Option IpAddress
  userAgent : Option String
  occurredAt : Instant

namespace AuditRecord

def ofAction (action : String) (eventId : Uuid) (occurredAt : Instant) : AuditRecord where
  eventId := eventId
  action := action
  actorId := none
  resourceType := ""
  resourceId := none
  metadata := .null
  correlationId := none
  clientIp := none
  userAgent := none
  occurredAt := occurredAt

def withActor (record : AuditRecord) (actorId : Option Uuid) : AuditRecord :=
  { record with actorId := actorId }

def withResource (record : AuditRecord) (resourceType : String) (resourceId : Option String) :
    AuditRecord :=
  { record with resourceType := resourceType, resourceId := resourceId }

def withMetadata (record : AuditRecord) (metadata : Json) : AuditRecord :=
  { record with metadata := metadata }

/-- The record with what an operation's context tells; the user of the request
stands in for an actor who is not known. -/
def withOperation (record : AuditRecord) (context : OperationContext) : AuditRecord :=
  { record with
    correlationId := context.correlationId
    clientIp := context.clientIp
    userAgent := context.userAgent
    actorId := record.actorId <|> context.requestUserId }

def toJson (record : AuditRecord) : Json :=
  .obj [("event_id", record.eventId.toJson),
    ("action", .str record.action),
    ("actor_id", .ofText? (record.actorId.map Uuid.text)),
    ("resource_type", .str record.resourceType),
    ("resource_id", .ofText? record.resourceId),
    ("metadata", record.metadata),
    ("correlation_id", .ofText? (record.correlationId.map Uuid.text)),
    ("client_ip", .ofText? (record.clientIp.map IpAddress.text)),
    ("user_agent", .ofText? record.userAgent),
    ("occurred_at", record.occurredAt.toJson)]

def ofJson? (json : Json) : Option AuditRecord := do
  match ← json.fields? ["event_id", "action", "actor_id", "resource_type", "resource_id",
      "metadata", "correlation_id", "client_ip", "user_agent", "occurred_at"] with
  | [eventId, action, actorId, resourceType, resourceId, metadata, correlationId, clientIp,
      userAgent, occurredAt] =>
      return {
        eventId := ← Json.required? Uuid.ofJson? eventId
        action := ← Json.required? Json.text? action
        actorId := ← Json.optional? Uuid.ofJson? actorId
        resourceType := ← Json.required? Json.text? resourceType
        resourceId := ← Json.optional? Json.text? resourceId
        metadata := ← metadata
        correlationId := ← Json.optional? Uuid.ofJson? correlationId
        clientIp := ← Json.optional? IpAddress.ofJson? clientIp
        userAgent := ← Json.optional? Json.text? userAgent
        occurredAt := ← Json.required? Instant.ofJson? occurredAt }
  | _ => none

end AuditRecord
end WorkflowBus
