/-
The standard catalog: one entry for each workflow and each operational kind.
-/

import WorkflowBus.Registry.Basic

namespace WorkflowBus
namespace Catalog

/-- The entry of a workflow that is logged, audited, and treated by the given
further categories. -/
def workflowEntry (workflow : Workflow) (auditAction : String) (further : List Category) : Entry :=
  further.foldl Entry.requiring
    (((Entry.ofWorkflow workflow auditAction).requiring .logging).requiring .audit)

def operationalEntry (kind : OperationalKind) (auditAction : String) (further : List Category) :
    Entry :=
  further.foldl Entry.requiring ((Entry.ofKind kind auditAction).requiring .logging)

def entries : List Entry :=
  [workflowEntry .userRegistration "user.registration" [.notification],
    workflowEntry .userLogin "auth.login" [],
    workflowEntry .userLogout "auth.logout" [.invalidation],
    workflowEntry .emailVerification "user.email_verification" [.notification],
    workflowEntry .passwordChange "user.password_change" [.notification, .invalidation],
    workflowEntry .passwordReset "user.password_reset" [.notification, .invalidation],
    workflowEntry .providerConnection "provider.connection" [],
    workflowEntry .providerDisconnection "provider.disconnection" [.invalidation],
    workflowEntry .providerTokenRefresh "provider.token_refresh" [],
    workflowEntry .accountSync "provider.account_sync" [],
    operationalEntry .sessionActivityUpdated "session.activity" [],
    operationalEntry .suspiciousSessionActivity "security.suspicious_session_activity" [.audit],
    operationalEntry .providerTokenExpiring "provider.token_expiring" []]

def registry : Registry :=
  .ofEntries entries

end Catalog
end WorkflowBus
