/-
Facts: what an event says happened.

There is one kind of fact for each event type.  The functions here tell a fact's
event type, the user it is about, and the entity it is filed under; each reads
its answer off the fact's own fields.
-/

import WorkflowBus.Event.Taxonomy
import WorkflowBus.Instant.Rfc3339
import WorkflowBus.IpAddress.Reading
import WorkflowBus.Uuid

namespace WorkflowBus

inductive WorkflowFact where
  | userRegistrationAttempted (email : String)
  | userRegistrationSucceeded (userId : Uuid) (email verificationToken : String)
  | userRegistrationFailed (email reason : String)
  | userLoginAttempted (email : String)
  | userLoginSucceeded (userId : Uuid) (email : String) (sessionId : Uuid)
  | userLoginFailed (email reason : String)
  | userLogoutAttempted (userId sessionId : Uuid)
  | userLogoutSucceeded (userId sessionId : Uuid)
  | userLogoutFailed (userId sessionId : Uuid) (reason : String)
  | emailVerificationAttempted (email : String)
  | emailVerificationSucceeded (userId : Uuid) (email : String)
  | emailVerificationFailed (email reason : String)
  | passwordChangeAttempted (userId : Uuid)
  | passwordChangeSucceeded (userId : Uuid) (email initiatedBy : String)
  | passwordChangeFailed (userId : Uuid) (reason : String)
  | passwordResetAttempted (email : String)
  | passwordResetSucceeded (userId : Uuid) (email : String)
  | passwordResetFailed (email reason : String)
  | providerConnectionAttempted (userId : Uuid) (providerSlug : String)
  | providerConnectionSucceeded (userId connectionId : Uuid) (providerSlug : String)
  | providerConnectionFailed (userId : Uuid) (providerSlug reason : String)
  | providerDisconnectionAttempted (userId connectionId : Uuid) (providerSlug : String)
  | providerDisconnectionSucceeded (userId connectionId : Uuid) (providerSlug : String)
  | providerDisconnectionFailed (userId connectionId : Uuid) (providerSlug reason : String)
  | providerTokenRefreshAttempted (userId connectionId : Uuid) (providerSlug : String)
  | providerTokenRefreshSucceeded (userId connectionId : Uuid) (providerSlug : String)
  | providerTokenRefreshFailed (userId connectionId : Uuid) (providerSlug reason : String)
      (needsUserAction : Bool)
  | accountSyncAttempted (userId connectionId : Uuid)
  | accountSyncSucceeded (userId connectionId : Uuid) (accountsSynced : UInt32)
  | accountSyncFailed (userId connectionId : Uuid) (reason : String)
deriving DecidableEq

namespace WorkflowFact

def workflow : WorkflowFact → Workflow
  | userRegistrationAttempted .. | userRegistrationSucceeded .. | userRegistrationFailed .. =>
      .userRegistration
  | userLoginAttempted .. | userLoginSucceeded .. | userLoginFailed .. => .userLogin
  | userLogoutAttempted .. | userLogoutSucceeded .. | userLogoutFailed .. => .userLogout
  | emailVerificationAttempted .. | emailVerificationSucceeded .. | emailVerificationFailed .. =>
      .emailVerification
  | passwordChangeAttempted .. | passwordChangeSucceeded .. | passwordChangeFailed .. =>
      .passwordChange
  | passwordResetAttempted .. | passwordResetSucceeded .. | passwordResetFailed .. =>
      .passwordReset
  | providerConnectionAttempted .. | providerConnectionSucceeded ..
  | providerConnectionFailed .. => .providerConnection
  | providerDisconnectionAttempted .. | providerDisconnectionSucceeded ..
  | providerDisconnectionFailed .. => .providerDisconnection
  | providerTokenRefreshAttempted .. | providerTokenRefreshSucceeded ..
  | providerTokenRefreshFailed .. => .providerTokenRefresh
  | accountSyncAttempted .. | accountSyncSucceeded .. | accountSyncFailed .. => .accountSync

def stage : WorkflowFact → Stage
  | userRegistrationAttempted .. | userLoginAttempted .. | userLogoutAttempted ..
  | emailVerificationAttempted .. | passwordChangeAttempted .. | passwordResetAttempted ..
  | providerConnectionAttempted .. | providerDisconnectionAttempted ..
  | providerTokenRefreshAttempted .. | accountSyncAttempted .. => .attempted
  | userRegistrationSucceeded .. | userLoginSucceeded .. | userLogoutSucceeded ..
  | emailVerificationSucceeded .. | passwordChangeSucceeded .. | passwordResetSucceeded ..
  | providerConnectionSucceeded .. | providerDisconnectionSucceeded ..
  | providerTokenRefreshSucceeded .. | accountSyncSucceeded .. => .succeeded
  | userRegistrationFailed .. | userLoginFailed .. | userLogoutFailed ..
  | emailVerificationFailed .. | passwordChangeFailed .. | passwordResetFailed ..
  | providerConnectionFailed .. | providerDisconnectionFailed ..
  | providerTokenRefreshFailed .. | accountSyncFailed .. => .failed

def eventType (fact : WorkflowFact) : EventType :=
  .lifecycle fact.workflow fact.stage

/-- The user that the fact is about, once the workflow knows the user. -/
def actorId? : WorkflowFact → Option Uuid
  | userRegistrationSucceeded userId .. | userLoginSucceeded userId ..
  | userLogoutAttempted userId .. | userLogoutSucceeded userId .. | userLogoutFailed userId ..
  | emailVerificationSucceeded userId .. | passwordChangeAttempted userId
  | passwordChangeSucceeded userId .. | passwordChangeFailed userId ..
  | passwordResetSucceeded userId .. | providerConnectionAttempted userId ..
  | providerConnectionSucceeded userId .. | providerConnectionFailed userId ..
  | providerDisconnectionAttempted userId .. | providerDisconnectionSucceeded userId ..
  | providerDisconnectionFailed userId .. | providerTokenRefreshAttempted userId ..
  | providerTokenRefreshSucceeded userId .. | providerTokenRefreshFailed userId ..
  | accountSyncAttempted userId .. | accountSyncSucceeded userId ..
  | accountSyncFailed userId .. => some userId
  | userRegistrationAttempted .. | userRegistrationFailed .. | userLoginAttempted ..
  | userLoginFailed .. | emailVerificationAttempted .. | emailVerificationFailed ..
  | passwordResetAttempted .. | passwordResetFailed .. => none

def email? : WorkflowFact → Option String
  | userRegistrationAttempted email | userRegistrationSucceeded _ email _
  | userRegistrationFailed email _ | userLoginAttempted email | userLoginSucceeded _ email _
  | userLoginFailed email _ | emailVerificationAttempted email
  | emailVerificationSucceeded _ email | emailVerificationFailed email _
  | passwordChangeSucceeded _ email _ | passwordResetAttempted email
  | passwordResetSucceeded _ email | passwordResetFailed email _ => some email
  | _ => none

def failureReason? : WorkflowFact → Option String
  | userRegistrationFailed _ reason | userLoginFailed _ reason | userLogoutFailed _ _ reason
  | emailVerificationFailed _ reason | passwordChangeFailed _ reason
  | passwordResetFailed _ reason | providerConnectionFailed _ _ reason
  | providerDisconnectionFailed _ _ _ reason | providerTokenRefreshFailed _ _ _ reason _
  | accountSyncFailed _ _ reason => some reason
  | _ => none

/-- The entity that the fact is filed under: the session of a logout, the
connection of a provider workflow that carries one, and else the user. -/
def resourceId? : WorkflowFact → Option Uuid
  | userLogoutAttempted _ sessionId | userLogoutSucceeded _ sessionId
  | userLogoutFailed _ sessionId _ => some sessionId
  | providerConnectionSucceeded _ connectionId _ | providerDisconnectionAttempted _ connectionId _
  | providerDisconnectionSucceeded _ connectionId _
  | providerDisconnectionFailed _ connectionId _ _
  | providerTokenRefreshAttempted _ connectionId _
  | providerTokenRefreshSucceeded _ connectionId _
  | providerTokenRefreshFailed _ connectionId _ _ _ | accountSyncAttempted _ connectionId
  | accountSyncSucceeded _ connectionId _ | accountSyncFailed _ connectionId _ =>
      some connectionId
  | fact => fact.actorId?

end WorkflowFact

inductive OperationalFact where
  | sessionActivityUpdated (sessionId userId : Uuid) (clientIp : Option IpAddress)
  | suspiciousSessionActivity (sessionId userId : Uuid) (reason : String)
  | providerTokenExpiring (userId connectionId : Uuid) (providerSlug : String)
      (expiresAt : Instant)
deriving DecidableEq

namespace OperationalFact

def kind : OperationalFact → OperationalKind
  | sessionActivityUpdated .. => .sessionActivityUpdated
  | suspiciousSessionActivity .. => .suspiciousSessionActivity
  | providerTokenExpiring .. => .providerTokenExpiring

def eventType (fact : OperationalFact) : EventType :=
  .telemetry fact.kind

def userId : OperationalFact → Uuid
  | sessionActivityUpdated _ userId _ | suspiciousSessionActivity _ userId _
  | providerTokenExpiring userId .. => userId

def resourceId : OperationalFact → Uuid
  | sessionActivityUpdated sessionId .. | suspiciousSessionActivity sessionId .. => sessionId
  | providerTokenExpiring _ connectionId .. => connectionId

end OperationalFact

inductive Fact where
  | lifecycle (fact : WorkflowFact)
  | telemetry (fact : OperationalFact)
deriving DecidableEq

namespace Fact

def eventType : Fact → EventType
  | lifecycle fact => fact.eventType
  | telemetry fact => fact.eventType

def actorId? : Fact → Option Uuid
  | lifecycle fact => fact.actorId?
  | telemetry fact => some fact.userId

def failureReason? : Fact → Option String
  | lifecycle fact => fact.failureReason?
  | telemetry _ => none

def resourceType : Fact → ResourceType
  | lifecycle fact => fact.workflow.resourceType
  | telemetry fact => fact.kind.resourceType

def resourceId? : Fact → Option Uuid
  | lifecycle fact => fact.resourceId?
  | telemetry fact => some fact.resourceId

end Fact
end WorkflowBus
