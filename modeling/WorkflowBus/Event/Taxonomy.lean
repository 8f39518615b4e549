/-
The taxonomy of events.

Two families exist.  A workflow is a business operation with three event types,
one for each stage: attempted, succeeded and failed.  An operational kind is a
single fact without an outcome.  Event types are the routing keys of the bus;
their order lists the workflows first, by workflow and then by stage.
-/

import WorkflowBus.Json.Reading

namespace WorkflowBus

inductive Family where
  | workflow
  | operational
deriving DecidableEq

namespace Family

def all : List Family :=
  [.workflow, .operational]

def name : Family → String
  | .workflow => "workflow"
  | .operational => "operational"

def ofName? (name : String) : Option Family :=
  all.find? fun family => family.name = name

end Family

inductive Stage where
  | attempted
  | succeeded
  | failed
deriving DecidableEq

namespace Stage

def all : List Stage :=
  [.attempted, .succeeded, .failed]

def name : Stage → String
  | .attempted => "attempted"
  | .succeeded => "succeeded"
  | .failed => "failed"

def classPart : Stage → String
  | .attempted => "Attempted"
  | .succeeded => "Succeeded"
  | .failed => "Failed"

def ofName? (name : String) : Option Stage :=
  all.find? fun stage => stage.name = name

def isTerminal : Stage → Bool
  | .attempted => false
  | .succeeded | .failed => true

def rank : Stage → Nat
  | .attempted => 0
  | .succeeded => 1
  | .failed => 2

end Stage

inductive ResourceType where
  | user
  | session
  | providerConnection
deriving DecidableEq

namespace ResourceType

def name : ResourceType → String
  | .user => "user"
  | .session => "session"
  | .providerConnection => "provider_connection"

end ResourceType

inductive Workflow where
  | userRegistration
  | userLogin
  | userLogout
  | emailVerification
  | passwordChange
  | passwordReset
  | providerConnection
  | providerDisconnection
  | providerTokenRefresh
  | accountSync
deriving DecidableEq

namespace Workflow

def all : List Workflow :=
  [.userRegistration, .userLogin, .userLogout, .emailVerification, .passwordChange,
    .passwordReset, .providerConnection, .providerDisconnection, .providerTokenRefresh,
    .accountSync]

def name : Workflow → String
  | .userRegistration => "user_registration"
  | .userLogin => "user_login"
  | .userLogout => "user_logout"
  | .emailVerification => "email_verification"
  | .passwordChange => "password_change"
  | .passwordReset => "password_reset"
  | .providerConnection => "provider_connection"
  | .providerDisconnection => "provider_disconnection"
  | .providerTokenRefresh => "provider_token_refresh"
  | .accountSync => "account_sync"

def classPart : Workflow → String
  | .userRegistration => "UserRegistration"
  | .userLogin => "UserLogin"
  | .userLogout => "UserLogout"
  | .emailVerification => "EmailVerification"
  | .passwordChange => "PasswordChange"
  | .passwordReset => "PasswordReset"
  | .providerConnection => "ProviderConnection"
  | .providerDisconnection => "ProviderDisconnection"
  | .providerTokenRefresh => "ProviderTokenRefresh"
  | .accountSync => "AccountSync"

def ofName? (name : String) : Option Workflow :=
  all.find? fun workflow => workflow.name = name

def resourceType : Workflow → ResourceType
  | .userRegistration | .userLogin | .emailVerification | .passwordChange | .passwordReset => .user
  | .userLogout => .session
  | .providerConnection | .providerDisconnection | .providerTokenRefresh | .accountSync =>
      .providerConnection

def rank : Workflow → Nat
  | .userRegistration => 0
  | .userLogin => 1
  | .userLogout => 2
  | .emailVerification => 3
  | .passwordChange => 4
  | .passwordReset => 5
  | .providerConnection => 6
  | .providerDisconnection => 7
  | .providerTokenRefresh => 8
  | .accountSync => 9

end Workflow

inductive OperationalKind where
  | sessionActivityUpdated
  | suspiciousSessionActivity
  | providerTokenExpiring
deriving DecidableEq

namespace OperationalKind

def all : List OperationalKind :=
  [.sessionActivityUpdated, .suspiciousSessionActivity, .providerTokenExpiring]

def name : OperationalKind → String
  | .sessionActivityUpdated => "session_activity_updated"
  | .suspiciousSessionActivity => "suspicious_session_activity"
  | .providerTokenExpiring => "provider_token_expiring"

def className : OperationalKind → String
  | .sessionActivityUpdated => "SessionActivityUpdated"
  | .suspiciousSessionActivity => "SuspiciousSessionActivity"
  | .providerTokenExpiring => "ProviderTokenExpiring"

def ofName? (name : String) : Option OperationalKind :=
  all.find? fun kind => kind.name = name

def isSecurityRelevant : OperationalKind → Bool
  | .suspiciousSessionActivity => true
  | .sessionActivityUpdated | .providerTokenExpiring => false

def resourceType : OperationalKind → ResourceType
  | .sessionActivityUpdated | .suspiciousSessionActivity => .session
  | .providerTokenExpiring => .providerConnection

def rank : OperationalKind → Nat
  | .sessionActivityUpdated => 0
  | .suspiciousSessionActivity => 1
  | .providerTokenExpiring => 2

end OperationalKind

/-! ### Event types -/

/-- The routing key of the bus: one value for each class of events. -/
inductive EventType where
  | lifecycle (workflow : Workflow) (stage : Stage)
  | telemetry (kind : OperationalKind)
deriving DecidableEq

namespace Workflow

def eventTypes (workflow : Workflow) : List EventType :=
  Stage.all.map (.lifecycle workflow)

end Workflow

namespace EventType

def ofFamily : Family → List EventType
  | .workflow => Workflow.all.flatMap Workflow.eventTypes
  | .operational => OperationalKind.all.map .telemetry

def all : List EventType :=
  ofFamily .workflow ++ ofFamily .operational

def family : EventType → Family
  | .lifecycle _ _ => .workflow
  | .telemetry _ => .operational

def workflow? : EventType → Option Workflow
  | .lifecycle workflow _ => some workflow
  | .telemetry _ => none

def stage? : EventType → Option Stage
  | .lifecycle _ stage => some stage
  | .telemetry _ => none

def registryName : EventType → String
  | .lifecycle workflow _ => workflow.name
  | .telemetry kind => kind.name

/-- The class name, under which an event type is written everywhere. -/
def className : EventType → String
  | .lifecycle workflow stage => workflow.classPart ++ stage.classPart
  | .telemetry kind => kind.className

def handlerMethod : EventType → String
  | .lifecycle workflow stage => "on_" ++ workflow.name ++ "_" ++ stage.name
  | .telemetry kind => "on_" ++ kind.name

def resourceType : EventType → ResourceType
  | .lifecycle workflow _ => workflow.resourceType
  | .telemetry kind => kind.resourceType

def ofClassName? (name : String) : Option EventType :=
  all.find? fun eventType => eventType.className = name

def rank : EventType → Nat
  | .lifecycle workflow stage => 3 * workflow.rank + stage.rank
  | .telemetry kind => 30 + kind.rank

def toJson (eventType : EventType) : Json :=
  .str eventType.className

end EventType
end WorkflowBus
