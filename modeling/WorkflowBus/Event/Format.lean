/-
The JSON form of facts.

A fact is an object that names its event type and then its fields in their
declared order; the address of a session's client is left out when there is
none.  Reading goes by the same list of field names for both written forms of a
record, by name and by position.
-/

import WorkflowBus.Event.Fact

namespace WorkflowBus

namespace EventType

def fieldNames : EventType → List String
  | .lifecycle .userRegistration .attempted => ["email"]
  | .lifecycle .userRegistration .succeeded => ["user_id", "email", "verification_token"]
  | .lifecycle .userRegistration .failed => ["email", "reason"]
  | .lifecycle .userLogin .attempted => ["email"]
  | .lifecycle .userLogin .succeeded => ["user_id", "email", "session_id"]
  | .lifecycle .userLogin .failed => ["email", "reason"]
  | .lifecycle .userLogout .failed => ["user_id", "session_id", "reason"]
  | .lifecycle .userLogout _ => ["user_id", "session_id"]
  | .lifecycle .emailVerification .attempted => ["email"]
  | .lifecycle .emailVerification .succeeded => ["user_id", "email"]
  | .lifecycle .emailVerification .failed => ["email", "reason"]
  | .lifecycle .passwordChange .attempted => ["user_id"]
  | .lifecycle .passwordChange .succeeded => ["user_id", "email", "initiated_by"]
  | .lifecycle .passwordChange .failed => ["user_id", "reason"]
  | .lifecycle .passwordReset .attempted => ["email"]
  | .lifecycle .passwordReset .succeeded => ["user_id", "email"]
  | .lifecycle .passwordReset .failed => ["email", "reason"]
  | .lifecycle .providerConnection .attempted => ["user_id", "provider_slug"]
  | .lifecycle .providerConnection .succeeded => ["user_id", "connection_id", "provider_slug"]
  | .lifecycle .providerConnection .failed => ["user_id", "provider_slug", "reason"]
  | .lifecycle .providerDisconnection .failed =>
      ["user_id", "connection_id", "provider_slug", "reason"]
  | .lifecycle .providerDisconnection _ => ["user_id", "connection_id", "provider_slug"]
  | .lifecycle .providerTokenRefresh .failed =>
      ["user_id", "connection_id", "provider_slug", "reason", "needs_user_action"]
  | .lifecycle .providerTokenRefresh _ => ["user_id", "connection_id", "provider_slug"]
  | .lifecycle .accountSync .attempted => ["user_id", "connection_id"]
  | .lifecycle .accountSync .succeeded => ["user_id", "connection_id", "accounts_synced"]
  | .lifecycle .accountSync .failed => ["user_id", "connection_id", "reason"]
  | .telemetry .sessionActivityUpdated => ["session_id", "user_id", "client_ip"]
  | .telemetry .suspiciousSessionActivity => ["session_id", "user_id", "reason"]
  | .telemetry .providerTokenExpiring =>
      ["user_id", "connection_id", "provider_slug", "expires_at"]

end EventType

namespace WorkflowFact

def fieldValues : WorkflowFact → List Json
  | userRegistrationAttempted email | userLoginAttempted email
  | emailVerificationAttempted email | passwordResetAttempted email => [.str email]
  | userRegistrationSucceeded userId email verificationToken =>
      [userId.toJson, .str email, .str verificationToken]
  | userLoginSucceeded userId email sessionId => [userId.toJson, .str email, sessionId.toJson]
  | userRegistrationFailed email reason | userLoginFailed email reason
  | emailVerificationFailed email reason | passwordResetFailed email reason =>
      [.str email, .str reason]
  | userLogoutAttempted userId sessionId | userLogoutSucceeded userId sessionId =>
      [userId.toJson, sessionId.toJson]
  | userLogoutFailed userId sessionId reason => [userId.toJson, sessionId.toJson, .str reason]
  | emailVerificationSucceeded userId email | passwordResetSucceeded userId email =>
      [userId.toJson, .str email]
  | passwordChangeAttempted userId => [userId.toJson]
  | passwordChangeSucceeded userId email initiatedBy =>
      [userId.toJson, .str email, .str initiatedBy]
  | passwordChangeFailed userId reason => [userId.toJson, .str reason]
  | providerConnectionAttempted userId providerSlug => [userId.toJson, .str providerSlug]
  | providerConnectionFailed userId providerSlug reason =>
      [userId.toJson, .str providerSlug, .str reason]
  | providerConnectionSucceeded userId connectionId providerSlug
  | providerDisconnectionAttempted userId connectionId providerSlug
  | providerDisconnectionSucceeded userId connectionId providerSlug
  | providerTokenRefreshAttempted userId connectionId providerSlug
  | providerTokenRefreshSucceeded userId connectionId providerSlug =>
      [userId.toJson, connectionId.toJson, .str providerSlug]
  | providerDisconnectionFailed userId connectionId providerSlug reason =>
      [userId.toJson, connectionId.toJson, .str providerSlug, .str reason]
  | providerTokenRefreshFailed userId connectionId providerSlug reason needsUserAction =>
      [userId.toJson, connectionId.toJson, .str providerSlug, .str reason, .bool needsUserAction]
  | accountSyncAttempted userId connectionId => [userId.toJson, connectionId.toJson]
  | accountSyncSucceeded userId connectionId accountsSynced =>
      [userId.toJson, connectionId.toJson, .int accountsSynced.toNat]
  | accountSyncFailed userId connectionId reason =>
      [userId.toJson, connectionId.toJson, .str reason]

end WorkflowFact

namespace OperationalFact

/-- The values of the fields, in the order of their names; a client address that
is not known is null. -/
def fieldValues : OperationalFact → List Json
  | sessionActivityUpdated sessionId userId clientIp =>
      [sessionId.toJson, userId.toJson, (clientIp.map IpAddress.toJson).getD .null]
  | suspiciousSessionActivity sessionId userId reason =>
      [sessionId.toJson, userId.toJson, .str reason]
  | providerTokenExpiring userId connectionId providerSlug expiresAt =>
      [userId.toJson, connectionId.toJson, .str providerSlug, expiresAt.toJson]

end OperationalFact

namespace Fact

def fieldValues : Fact → List Json
  | lifecycle fact => fact.fieldValues
  | telemetry fact => fact.fieldValues

/-- The members of a fact's object: its event type and its fields that are not
null. -/
def members (fact : Fact) : List (String × Json) :=
  ("type", fact.eventType.toJson) ::
    (fact.eventType.fieldNames.zip fact.fieldValues).filter fun member => !member.2.isNull

def toJson (fact : Fact) : Json :=
  .obj fact.members

end Fact

/-! ### Reading -/

namespace WorkflowFact

open Json (required? text? bool?)

def ofFields? : Workflow → Stage → List (Option Json) → Option WorkflowFact
  | .userRegistration, .attempted, [email] => do
      return userRegistrationAttempted (← required? text? email)
  | .userRegistration, .succeeded, [userId, email, verificationToken] => do
      return userRegistrationSucceeded (← required? Uuid.ofJson? userId)
        (← required? text? email) (← required? text? verificationToken)
  | .userRegistration, .failed, [email, reason] => do
      return userRegistrationFailed (← required? text? email) (← required? text? reason)
  | .userLogin, .attempted, [email] => do
      return userLoginAttempted (← required? text? email)
  | .userLogin, .succeeded, [userId, email, sessionId] => do
      return userLoginSucceeded (← required? Uuid.ofJson? userId) (← required? text? email)
        (← required? Uuid.ofJson? sessionId)
  | .userLogin, .failed, [email, reason] => do
      return userLoginFailed (← required? text? email) (← required? text? reason)
  | .userLogout, .attempted, [userId, sessionId] => do
      return userLogoutAttempted (← required? Uuid.ofJson? userId)
        (← required? Uuid.ofJson? sessionId)
  | .userLogout, .succeeded, [userId, sessionId] => do
      return userLogoutSucceeded (← required? Uuid.ofJson? userId)
        (← required? Uuid.ofJson? sessionId)
  | .userLogout, .failed, [userId, sessionId, reason] => do
      return userLogoutFailed (← required? Uuid.ofJson? userId)
        (← required? Uuid.ofJson? sessionId) (← required? text? reason)
  | .emailVerification, .attempted, [email] => do
      return emailVerificationAttempted (← required? text? email)
  | .emailVerification, .succeeded, [userId, email] => do
      return emailVerificationSucceeded (← required? Uuid.ofJson? userId)
        (← required? text? email)
  | .emailVerification, .failed, [email, reason] => do
      return emailVerificationFailed (← required? text? email) (← required? text? reason)
  | .passwordChange, .attempted, [userId] => do
      return passwordChangeAttempted (← required? Uuid.ofJson? userId)
  | .passwordChange, .succeeded, [userId, email, initiatedBy] => do
      return passwordChangeSucceeded (← required? Uuid.ofJson? userId) (← required? text? email)
        (← required? text? initiatedBy)
  | .passwordChange, .failed, [userId, reason] => do
      return passwordChangeFailed (← required? Uuid.ofJson? userId) (← required? text? reason)
  | .passwordReset, .attempted, [email] => do
      return passwordResetAttempted (← required? text? email)
  | .passwordReset, .succeeded, [userId, email] => do
      return passwordResetSucceeded (← required? Uuid.ofJson? userId) (← required? text? email)
  | .passwordReset, .failed, [email, reason] => do
      return passwordResetFailed (← required? text? email) (← required? text? reason)
  | .providerConnection, .attempted, [userId, providerSlug] => do
      return providerConnectionAttempted (← required? Uuid.ofJson? userId)
        (← required? text? providerSlug)
  | .providerConnection, .succeeded, [userId, connectionId, providerSlug] => do
      return providerConnectionSucceeded (← required? Uuid.ofJson? userId)
        (← required? Uuid.ofJson? connectionId) (← required? text? providerSlug)
  | .providerConnection, .failed, [userId, providerSlug, reason] => do
      return providerConnectionFailed (← required? Uuid.ofJson? userId)
        (← required? text? providerSlug) (← required? text? reason)
  | .providerDisconnection, .attempted, [userId, connectionId, providerSlug] => do
      return providerDisconnectionAttempted (← required? Uuid.ofJson? userId)
        (← required? Uuid.ofJson? connectionId) (← required? text? providerSlug)
  | .providerDisconnection, .succeeded, [userId, connectionId, providerSlug] => do
      return providerDisconnectionSucceeded (← required? Uuid.ofJson? userId)
        (← required? Uuid.ofJson? connectionId) (← required? text? providerSlug)
  | .providerDisconnection, .failed, [userId, connectionId, providerSlug, reason] => do
      return providerDisconnectionFailed (← required? Uuid.ofJson? userId)
        (← required? Uuid.ofJson? connectionId) (← required? text? providerSlug)
        (← required? text? reason)
  | .providerTokenRefresh, .attempted, [userId, connectionId, providerSlug] => do
      return providerTokenRefreshAttempted (← required? Uuid.ofJson? userId)
        (← required? Uuid.ofJson? connectionId) (← required? text? providerSlug)
  | .providerTokenRefresh, .succeeded, [userId, connectionId, providerSlug] => do
      return providerTokenRefreshSucceeded (← required? Uuid.ofJson? userId)
        (← required? Uuid.ofJson? connectionId) (← required? text? providerSlug)
  | .providerTokenRefresh, .failed,
      [userId, connectionId, providerSlug, reason, needsUserAction] => do
      return providerTokenRefreshFailed (← required? Uuid.ofJson? userId)
        (← required? Uuid.ofJson? connectionId) (← required? text? providerSlug)
        (← required? text? reason) (← required? bool? needsUserAction)
  | .accountSync, .attempted, [userId, connectionId] => do
      return accountSyncAttempted (← required? Uuid.ofJson? userId)
        (← required? Uuid.ofJson? connectionId)
  | .accountSync, .succeeded, [userId, connectionId, accountsSynced] => do
      return accountSyncSucceeded (← required? Uuid.ofJson? userId)
        (← required? Uuid.ofJson? connectionId)
        (UInt32.ofNat (← required? (Json.count? 4294967295) accountsSynced))
  | .accountSync, .failed, [userId, connectionId, reason] => do
      return accountSyncFailed (← required? Uuid.ofJson? userId)
        (← required? Uuid.ofJson? connectionId) (← required? text? reason)
  | _, _, _ => none

end WorkflowFact

namespace OperationalFact

open Json (required? optional? text?)

def ofFields? : OperationalKind → List (Option Json) → Option OperationalFact
  | .sessionActivityUpdated, [sessionId, userId, clientIp] => do
      return sessionActivityUpdated (← required? Uuid.ofJson? sessionId)
        (← required? Uuid.ofJson? userId) (← optional? IpAddress.ofJson? clientIp)
  | .suspiciousSessionActivity, [sessionId, userId, reason] => do
      return suspiciousSessionActivity (← required? Uuid.ofJson? sessionId)
        (← required? Uuid.ofJson? userId) (← required? text? reason)
  | .providerTokenExpiring, [userId, connectionId, providerSlug, expiresAt] => do
      return providerTokenExpiring (← required? Uuid.ofJson? userId)
        (← required? Uuid.ofJson? connectionId) (← required? text? providerSlug)
        (← required? Instant.ofJson? expiresAt)
  | _, _ => none

end OperationalFact

namespace Fact

/-- The event type that a fact's `type` names: its class name, which has to be one
of the family, or where positions are allowed its place in the family. -/
def eventType? (family : Family) (positions : Bool) : Json → Option EventType
  | .str name => (EventType.ofFamily family).find? fun eventType => eventType.className = name
  | .int (.ofNat position) => if positions then (EventType.ofFamily family)[position]? else none
  | _ => none

def ofFields? (values : List (Option Json)) : EventType → Option Fact
  | .lifecycle workflow stage => (WorkflowFact.ofFields? workflow stage values).map Fact.lifecycle
  | .telemetry kind => (OperationalFact.ofFields? kind values).map Fact.telemetry

/-- Reads a fact of a family from an object or from a list that starts with the
event type. -/
def ofJson? (family : Family) (positions : Bool) : Json → Option Fact
  | .obj members => do
      let eventType ← eventType? family positions (← members.lookup "type")
      ofFields? (← (Json.obj members).fields? eventType.fieldNames) eventType
  | .arr (name :: values) => do
      let eventType ← eventType? family positions name
      ofFields? (← (Json.arr values).fields? eventType.fieldNames) eventType
  | _ => none

end Fact
end WorkflowBus
