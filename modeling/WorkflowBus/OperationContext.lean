/-
Who triggered an operation and from where.

The context travels with a dispatch for the audit trail and the log.  All its
parts may be absent.
-/

import WorkflowBus.IpAddress.Reading
import WorkflowBus.Uuid

namespace WorkflowBus

structure OperationContext where
  requestUserId : Option Uuid
  sessionId : Option Uuid
  correlationId : Option Uuid
  clientIp : Option IpAddress
  userAgent : Option String
deriving DecidableEq

namespace OperationContext

def empty : OperationContext where
  requestUserId := none
  sessionId := none
  correlationId := none
  clientIp := none
  userAgent := none

def withRequestUser (context : OperationContext) (userId : Uuid) : OperationContext :=
  { context with requestUserId := some userId }

def withSession (context : OperationContext) (sessionId : Uuid) : OperationContext :=
  { context with sessionId := some sessionId }

def withCorrelationId (context : OperationContext) (correlationId : Uuid) : OperationContext :=
  { context with correlationId := some correlationId }

def withClientIp (context : OperationContext) (clientIp : IpAddress) : OperationContext :=
  { context with clientIp := some clientIp }

def withUserAgent (context : OperationContext) (userAgent : String) : OperationContext :=
  { context with userAgent := some userAgent }

/-- The correlation identifier, which is drawn from the supply and kept in the
context when there is none yet. -/
def ensureCorrelationId (context : OperationContext) (supply : IdSupply) :
    Uuid × OperationContext × IdSupply :=
  match context.correlationId with
  | some correlationId => (correlationId, context, supply)
  | none =>
      let (correlationId, supply) := supply.draw
      (correlationId, context.withCorrelationId correlationId, supply)

def toJson (context : OperationContext) : Json :=
  .obj <|
    [("request_user_id", context.requestUserId.map Uuid.toJson),
      ("session_id", context.sessionId.map Uuid.toJson),
      ("correlation_id", context.correlationId.map Uuid.toJson),
      ("client_ip", context.clientIp.map IpAddress.toJson),
      ("user_agent", context.userAgent.map Json.str)].filterMap
      fun (name, value) => value.map (name, ·)

def ofJson? (json : Json) : Option OperationContext := do
  match ← json.fields?
      ["request_user_id", "session_id", "correlation_id", "client_ip", "user_agent"] with
  | [requestUserId, sessionId, correlationId, clientIp, userAgent] =>
      return {
        requestUserId := ← Json.optional? Uuid.ofJson? requestUserId
        sessionId := ← Json.optional? Uuid.ofJson? sessionId
        correlationId := ← Json.optional? Uuid.ofJson? correlationId
        clientIp := ← Json.optional? IpAddress.ofJson? clientIp
        userAgent := ← Json.optional? Json.text? userAgent }
  | _ => none

end OperationContext
end WorkflowBus
