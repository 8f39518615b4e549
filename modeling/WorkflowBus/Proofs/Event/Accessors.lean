/-
What is read off a fact and what is written for it.

The classes of facts are declared one by one: under which name, and with which fields.  What is
written for a fact is its declaration, though the name is put together from a workflow and a
stage, and the names of the fields are found by the event type.  The user, the email address
and the reason of a failure, which are listed by class as well, are the fields of those names.
-/

import WorkflowBus.Proofs.Event.Format

namespace WorkflowBus

namespace WorkflowFact

def declared : WorkflowFact → List (String × Json)
  | userRegistrationAttempted email =>
      [("type", .str "UserRegistrationAttempted"), ("email", .str email)]
  | userRegistrationSucceeded userId email verificationToken =>
      [("type", .str "UserRegistrationSucceeded"), ("user_id", userId.toJson),
        ("email", .str email), ("verification_token", .str verificationToken)]
  | userRegistrationFailed email reason =>
      [("type", .str "UserRegistrationFailed"), ("email", .str email), ("reason", .str reason)]
  | userLoginAttempted email => [("type", .str "UserLoginAttempted"), ("email", .str email)]
  | userLoginSucceeded userId email sessionId =>
      [("type", .str "UserLoginSucceeded"), ("user_id", userId.toJson), ("email", .str email),
        ("session_id", sessionId.toJson)]
  | userLoginFailed email reason =>
      [("type", .str "UserLoginFailed"), ("email", .str email), ("reason", .str reason)]
  | userLogoutAttempted userId sessionId =>
      [("type", .str "UserLogoutAttempted"), ("user_id", userId.toJson),
        ("session_id", sessionId.toJson)]
  | userLogoutSucceeded userId sessionId =>
      [("type", .str "UserLogoutSucceeded"), ("user_id", userId.toJson),
        ("session_id", sessionId.toJson)]
  | userLogoutFailed userId sessionId reason =>
      [("type", .str "UserLogoutFailed"), ("user_id", userId.toJson),
        ("session_id", sessionId.toJson), ("reason", .str reason)]
  | emailVerificationAttempted email =>
      [("type", .str "EmailVerificationAttempted"), ("email", .str email)]
  | emailVerificationSucceeded userId email =>
      [("type", .str "EmailVerificationSucceeded"), ("user_id", userId.toJson),
        ("email", .str email)]
  | emailVerificationFailed email reason =>
      [("type", .str "EmailVerificationFailed"), ("email", .str email), ("reason", .str reason)]
  | passwordChangeAttempted userId =>
      [("type", .str "PasswordChangeAttempted"), ("user_id", userId.toJson)]
  | passwordChangeSucceeded userId email initiatedBy =>
      [("type", .str "PasswordChangeSucceeded"), ("user_id", userId.toJson),
        ("email", .str email), ("initiated_by", .str initiatedBy)]
  | passwordChangeFailed userId reason =>
      [("type", .str "PasswordChangeFailed"), ("user_id", userId.toJson),
        ("reason", .str reason)]
  | passwordResetAttempted email =>
      [("type", .str "PasswordResetAttempted"), ("email", .str email)]
  | passwordResetSucceeded userId email =>
      [("type", .str "PasswordResetSucceeded"), ("user_id", userId.toJson),
        ("email", .str email)]
  | passwordResetFailed email reason =>
      [("type", .str "PasswordResetFailed"), ("email", .str email), ("reason", .str reason)]
  | providerConnectionAttempted userId providerSlug =>
      [("type", .str "ProviderConnectionAttempted"), ("user_id", userId.toJson),
        ("provider_slug", .str providerSlug)]
  | providerConnectionSucceeded userId connectionId providerSlug =>
      [("type", .str "ProviderConnectionSucceeded"), ("user_id", userId.toJson),
        ("connection_id", connectionId.toJson), ("provider_slug", .str providerSlug)]
  | providerConnectionFailed userId providerSlug reason =>
      [("type", .str "ProviderConnectionFailed"), ("user_id", userId.toJson),
        ("provider_slug", .str providerSlug), ("reason", .str reason)]
  | providerDisconnectionAttempted userId connectionId providerSlug =>
      [("type", .str "ProviderDisconnectionAttempted"), ("user_id", userId.toJson),
        ("connection_id", connectionId.toJson), ("provider_slug", .str providerSlug)]
  | providerDisconnectionSucceeded userId connectionId providerSlug =>
      [("type", .str "ProviderDisconnectionSucceeded"), ("user_id", userId.toJson),
        ("connection_id", connectionId.toJson), ("provider_slug", .str providerSlug)]
  | providerDisconnectionFailed userId connectionId providerSlug reason =>
      [("type", .str "ProviderDisconnectionFailed"), ("user_id", userId.toJson),
        ("connection_id", connectionId.toJson), ("provider_slug", .str providerSlug),
        ("reason", .str reason)]
  | providerTokenRefreshAttempted userId connectionId providerSlug =>
      [("type", .str "ProviderTokenRefreshAttempted"), ("user_id", userId.toJson),
        ("connection_id", connectionId.toJson), ("provider_slug", .str providerSlug)]
  | providerTokenRefreshSucceeded userId connectionId providerSlug =>
      [("type", .str "ProviderTokenRefreshSucceeded"), ("user_id", userId.toJson),
        ("connection_id", connectionId.toJson), ("provider_slug", .str providerSlug)]
  | providerTokenRefreshFailed userId connectionId providerSlug reason needsUserAction =>
      [("type", .str "ProviderTokenRefreshFailed"), ("user_id", userId.toJson),
        ("connection_id", connectionId.toJson), ("provider_slug", .str providerSlug),
        ("reason", .str reason), ("needs_user_action", .bool needsUserAction)]
  | accountSyncAttempted userId connectionId =>
      [("type", .str "AccountSyncAttempted"), ("user_id", userId.toJson),
        ("connection_id", connectionId.toJson)]
  | accountSyncSucceeded userId connectionId accountsSynced =>
      [("type", .str "AccountSyncSucceeded"), ("user_id", userId.toJson),
        ("connection_id", connectionId.toJson), ("accounts_synced", .int accountsSynced.toNat)]
  | accountSyncFailed userId connectionId reason =>
      [("type", .str "AccountSyncFailed"), ("user_id", userId.toJson),
        ("connection_id", connectionId.toJson), ("reason", .str reason)]

end WorkflowFact

namespace OperationalFact

def declared : OperationalFact → List (String × Json)
  | sessionActivityUpdated sessionId userId clientIp =>
      ("type", .str "SessionActivityUpdated") :: ("session_id", sessionId.toJson) ::
        ("user_id", userId.toJson) ::
          (clientIp.map fun address => ("client_ip", address.toJson)).toList
  | suspiciousSessionActivity sessionId userId reason =>
      [("type", .str "SuspiciousSessionActivity"), ("session_id", sessionId.toJson),
        ("user_id", userId.toJson), ("reason", .str reason)]
  | providerTokenExpiring userId connectionId providerSlug expiresAt =>
      [("type", .str "ProviderTokenExpiring"), ("user_id", userId.toJson),
        ("connection_id", connectionId.toJson), ("provider_slug", .str providerSlug),
        ("expires_at", expiresAt.toJson)]

end OperationalFact

namespace Fact

def declared : Fact → List (String × Json)
  | lifecycle fact => fact.declared
  | telemetry fact => fact.declared

theorem members_eq_declared (fact : Fact) : fact.members = fact.declared := by
  cases fact with
  | lifecycle fact => cases fact <;> rfl
  | telemetry fact =>
      cases fact with
      | sessionActivityUpdated sessionId userId clientIp => cases clientIp <;> rfl
      | suspiciousSessionActivity sessionId userId reason => rfl
      | providerTokenExpiring userId connectionId providerSlug expiresAt => rfl

theorem lookup_type_declared (fact : Fact) :
    fact.declared.lookup "type" = some (.str fact.eventType.className) := by
  rw [← members_eq_declared]
  rfl

theorem lookup_userId_declared (fact : Fact) :
    fact.declared.lookup "user_id" = fact.actorId?.map Uuid.toJson := by
  cases fact with
  | lifecycle fact => cases fact <;> rfl
  | telemetry fact => cases fact <;> rfl

end Fact

theorem WorkflowFact.lookup_email_declared (fact : WorkflowFact) :
    fact.declared.lookup "email" = fact.email?.map Json.str := by
  cases fact <;> rfl

theorem WorkflowFact.lookup_reason_declared (fact : WorkflowFact) :
    fact.declared.lookup "reason" = fact.failureReason?.map Json.str ∧
      (fact.failureReason?.isSome = true ↔ fact.stage = .failed) := by
  cases fact <;>
    exact ⟨rfl, by simp [WorkflowFact.failureReason?, WorkflowFact.stage]⟩

/-- What is read off an event agrees with what is written for it.  The object of its payload is
the one that its class declares.  The event tells a user exactly if that object has one, and
the same; a workflow event tells an email address exactly if the object has one, and the same,
and a reason exactly if it has failed, and then the one of the object; and the type of the
object is the class name of the event type, which belongs to no other workflow or stage. -/
theorem Event.accessors_tell_payload (event : Event) :
    (event.toJson.get? "payload").bind (Json.get? "event") = some (.obj event.fact.declared) ∧
      event.actorId?.map Uuid.toJson = event.fact.declared.lookup "user_id" ∧
      (∀ fact, event.fact = .lifecycle fact →
        fact.email?.map Json.str = event.fact.declared.lookup "email" ∧
          (fact.failureReason?.isSome = true ↔ fact.stage = .failed) ∧
          (∀ reason, fact.failureReason? = some reason →
            event.fact.declared.lookup "reason" = some (.str reason)) ∧
          event.eventType = .lifecycle fact.workflow fact.stage) ∧
      event.fact.declared.lookup "type" = some (.str event.eventType.className) ∧
      ∀ other : EventType,
        other.className = event.eventType.className → other = event.eventType := by
  refine ⟨?_, event.fact.lookup_userId_declared.symm, ?_, event.fact.lookup_type_declared,
    fun other same => other.className_injective event.eventType same⟩
  · rw [← Fact.members_eq_declared]
    rfl
  · intro fact lifecycle
    obtain ⟨id, occurredAt, _⟩ := event
    cases lifecycle
    obtain ⟨told, failed⟩ := fact.lookup_reason_declared
    refine ⟨fact.lookup_email_declared.symm, failed, ?_, rfl⟩
    intro reason given
    show fact.declared.lookup "reason" = _
    rw [told, given, Option.map_some]

end WorkflowBus
