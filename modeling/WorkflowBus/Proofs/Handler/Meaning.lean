/-
What facts mean for users, sessions and credentials.

The facts of which a user is told, and those that make sessions or credentials unsafe, are
listed one by one.  The handlers of notification and of invalidation read exactly this off an
event, and it decides what they leave behind: the sender after one more message, and the
store after one more revocation.
-/

import WorkflowBus.Proofs.Handler.Category
import WorkflowBus.Proofs.SessionStore

namespace WorkflowBus

namespace Event

/-- The event is to be told to a user by the notification. -/
inductive Announces : Event → Notification → Prop
  | registration (id : Uuid) (occurredAt : Instant) (userId : Uuid) (email token : String) :
      Announces ⟨id, occurredAt, .lifecycle (.userRegistrationSucceeded userId email token)⟩
        ⟨.emailVerification, email,
          .ofMembers [("user_id", userId.toJson), ("verification_token", .str token)]⟩
  | emailVerification (id : Uuid) (occurredAt : Instant) (userId : Uuid) (email : String) :
      Announces ⟨id, occurredAt, .lifecycle (.emailVerificationSucceeded userId email)⟩
        ⟨.welcome, email, .ofMembers [("user_id", userId.toJson)]⟩
  | passwordChange (id : Uuid) (occurredAt : Instant) (userId : Uuid)
      (email initiatedBy : String) :
      Announces ⟨id, occurredAt, .lifecycle (.passwordChangeSucceeded userId email initiatedBy)⟩
        ⟨.passwordChanged, email,
          .ofMembers [("user_id", userId.toJson), ("initiated_by", .str initiatedBy),
            ("changed_at", occurredAt.toJson)]⟩
  | passwordReset (id : Uuid) (occurredAt : Instant) (userId : Uuid) (email : String) :
      Announces ⟨id, occurredAt, .lifecycle (.passwordResetSucceeded userId email)⟩
        ⟨.passwordResetCompleted, email,
          .ofMembers [("user_id", userId.toJson), ("reset_at", occurredAt.toJson)]⟩

/-- The event makes unsafe what the revocation names. -/
inductive Revokes : Event → Revocation → Prop
  | passwordChange (id : Uuid) (occurredAt : Instant) (userId : Uuid)
      (email initiatedBy : String) :
      Revokes ⟨id, occurredAt, .lifecycle (.passwordChangeSucceeded userId email initiatedBy)⟩
        (.allUserSessions userId)
  | passwordReset (id : Uuid) (occurredAt : Instant) (userId : Uuid) (email : String) :
      Revokes ⟨id, occurredAt, .lifecycle (.passwordResetSucceeded userId email)⟩
        (.allUserSessions userId)
  | logout (id : Uuid) (occurredAt : Instant) (userId sessionId : Uuid) :
      Revokes ⟨id, occurredAt, .lifecycle (.userLogoutSucceeded userId sessionId)⟩
        (.session sessionId)
  | disconnection (id : Uuid) (occurredAt : Instant) (userId connectionId : Uuid)
      (slug : String) :
      Revokes
        ⟨id, occurredAt, .lifecycle (.providerDisconnectionSucceeded userId connectionId slug)⟩
        (.providerCredentials connectionId)

end Event

theorem NotificationHandler.notificationFor?_eq_some_iff (event : Event)
    (notification : Notification) :
    notificationFor? event = some notification ↔ event.Announces notification := by
  constructor
  · intro due
    obtain ⟨id, occurredAt, fact⟩ := event
    cases fact with
    | lifecycle fact => cases fact <;> cases due <;> constructor
    | telemetry fact => cases due
  · intro announces
    cases announces <;> rfl

theorem InvalidationHandler.revocationFor?_eq_some_iff (event : Event) (revocation : Revocation) :
    revocationFor? event = some revocation ↔ event.Revokes revocation := by
  constructor
  · intro due
    obtain ⟨id, occurredAt, fact⟩ := event
    cases fact with
    | lifecycle fact => cases fact <;> cases due <;> constructor
    | telemetry fact => cases due
  · intro revokes
    cases revokes <;> rfl

theorem Event.Revokes.iff_eq {event : Event} {revocation : Revocation}
    (revokes : event.Revokes revocation) (other : Revocation) :
    event.Revokes other ↔ revocation = other := by
  rw [← InvalidationHandler.revocationFor?_eq_some_iff] at revokes ⊢
  rw [revokes, Option.some_inj]

/-! ### What the handlers leave behind -/

/-- The sender after the handler of notification has treated an event. -/
def NotificationSender.heed (sender : NotificationSender) (now : Instant) (event : Event) :
    NotificationSender :=
  match NotificationHandler.notificationFor? event with
  | some notification => (sender.send now notification).2.1
  | none => sender

def SessionStore.heed (store : SessionStore) (event : Event) : SessionStore :=
  match InvalidationHandler.revocationFor? event with
  | some revocation => (store.revoke revocation).2
  | none => store

theorem NotificationHandler.sender_invoke (limit : Option Duration) (event : Event)
    (scope : Scope) :
    (NotificationHandler.handler.invoke limit event scope).1.services.notifications =
      scope.services.notifications.heed scope.services.now event := by
  simp only [handler, Handler.invoke_atomic, NotificationSender.heed]
  cases notificationFor? event with
  | none => rfl
  | some notification =>
      simp only [Services.send]
      rcases scope.services.notifications.send scope.services.now notification with
        ⟨answer, left, shown⟩
      cases answer <;> rfl

theorem InvalidationHandler.sessions_invoke (limit : Option Duration) (event : Event)
    (scope : Scope) :
    (InvalidationHandler.handler.invoke limit event scope).1.services.sessions =
      scope.services.sessions.heed event := by
  simp only [handler, Handler.invoke_atomic, SessionStore.heed]
  cases revocationFor? event with
  | none => rfl
  | some revocation =>
      simp only [Services.revoke]
      rcases scope.services.sessions.revoke revocation with ⟨answer, left⟩
      cases answer <;> rfl

namespace NotificationSender

variable {sender : NotificationSender}

/-- What a sender in memory keeps of an event: its announcement, if that has a recipient. -/
def kept? (event : Event) : Option Notification :=
  (NotificationHandler.notificationFor? event).filter fun notification =>
    Notification.isRecipient notification.recipient

theorem kept?_eq_some_iff (event : Event) (notification : Notification) :
    kept? event = some notification ↔
      event.Announces notification ∧ Notification.isRecipient notification.recipient = true := by
  rw [kept?, Option.filter_eq_some_iff, NotificationHandler.notificationFor?_eq_some_iff]

theorem delivery_heed (sender : NotificationSender) (now : Instant) (event : Event) :
    (sender.heed now event).delivery = sender.delivery := by
  unfold heed
  cases NotificationHandler.notificationFor? event with
  | none => rfl
  | some notification =>
      obtain ⟨delivery, sent⟩ := sender
      cases delivery with
      | memory => simp only [send]; split <;> rfl
      | traced => simp only [send]; split <;> rfl
      | down message => rfl

theorem sent_heed (memory : sender.delivery = .memory) (now : Instant) (event : Event) :
    (sender.heed now event).sent =
      sender.sent ++ ((kept? event).map fun notification => ⟨notification, now⟩).toList := by
  unfold heed kept?
  cases NotificationHandler.notificationFor? event with
  | none => exact (List.append_nil sender.sent).symm
  | some notification =>
      simp only [send, memory, Option.filter_some]
      split
      · rfl
      · exact (List.append_nil sender.sent).symm

end NotificationSender

def NotificationHandler.refusal? (event : Event) : Option Failure :=
  ((notificationFor? event).filter fun notification =>
      !Notification.isRecipient notification.recipient).map fun notification =>
    .answered (.notification (.invalidRecipient notification.recipient))

theorem NotificationHandler.failure_invoke (limit : Option Duration) {event : Event} {scope : Scope}
    (memory : scope.services.notifications.delivery = .memory)
    (due : (notificationFor? event).isSome = true) :
    (NotificationHandler.handler.invoke limit event scope).2 = refusal? event := by
  obtain ⟨notification, found⟩ := Option.isSome_iff_exists.mp due
  simp only [handler, Handler.invoke_atomic, refusal?, found, Services.send,
    NotificationSender.send, memory, Option.filter_some]
  cases Notification.isRecipient notification.recipient <;> rfl

namespace SessionStore

variable {store : SessionStore}

theorem outage_heed (store : SessionStore) (event : Event) :
    (store.heed event).outage = store.outage := by
  unfold heed
  cases InvalidationHandler.revocationFor? event with
  | none => rfl
  | some revocation => exact store.outage_revoke revocation

theorem heed_of_revokes (working : store.outage = none) {event : Event} {revocation : Revocation}
    (revokes : event.Revokes revocation) : store.heed event = store.revoked [revocation] := by
  have found := (InvalidationHandler.revocationFor?_eq_some_iff event revocation).mpr revokes
  obtain ⟨count, carriedOut, _removed⟩ := revoke_eq working revocation
  simp only [heed, found, carriedOut]

theorem heed_of_harmless {event : Event} (harmless : ∀ revocation, ¬event.Revokes revocation) :
    store.heed event = store := by
  have nothing : InvalidationHandler.revocationFor? event = none := by
    rw [Option.eq_none_iff_forall_ne_some]
    intro revocation found
    exact harmless revocation ((InvalidationHandler.revocationFor?_eq_some_iff _ _).mp found)
  simp only [heed, nothing]

theorem mem_sessions_revoked (store : SessionStore) (revocation : Revocation)
    (sessionId userId : Uuid) :
    (sessionId, userId) ∈ (store.revoked [revocation]).sessions ↔
      (sessionId, userId) ∈ store.sessions ∧
        revocation ≠ .allUserSessions userId ∧ revocation ≠ .session sessionId := by
  cases revocation <;>
    simp [revoked, without, Revocation.namesSession, @eq_comm _ sessionId, @eq_comm _ userId]

theorem mem_credentials_revoked (store : SessionStore) (revocation : Revocation)
    (connectionId : Uuid) :
    connectionId ∈ (store.revoked [revocation]).credentials ↔
      connectionId ∈ store.credentials ∧ revocation ≠ .providerCredentials connectionId := by
  cases revocation <;>
    simp [revoked, without, Revocation.namesCredentials, @eq_comm _ connectionId]

theorem mem_sessions_heed (working : store.outage = none) (event : Event)
    (sessionId userId : Uuid) :
    (sessionId, userId) ∈ (store.heed event).sessions ↔
      (sessionId, userId) ∈ store.sessions ∧
        ¬(event.Revokes (.allUserSessions userId) ∨ event.Revokes (.session sessionId)) := by
  by_cases harmful : ∃ revocation, event.Revokes revocation
  · obtain ⟨revocation, revokes⟩ := harmful
    rw [heed_of_revokes working revokes, revokes.iff_eq, revokes.iff_eq, not_or]
    exact store.mem_sessions_revoked revocation sessionId userId
  · have harmless := not_exists.mp harmful
    rw [heed_of_harmless harmless, and_iff_left]
    exact not_or.mpr ⟨harmless _, harmless _⟩

theorem mem_credentials_heed (working : store.outage = none) (event : Event)
    (connectionId : Uuid) :
    connectionId ∈ (store.heed event).credentials ↔
      connectionId ∈ store.credentials ∧ ¬event.Revokes (.providerCredentials connectionId) := by
  by_cases harmful : ∃ revocation, event.Revokes revocation
  · obtain ⟨revocation, revokes⟩ := harmful
    rw [heed_of_revokes working revokes, revokes.iff_eq]
    exact store.mem_credentials_revoked revocation connectionId
  · have harmless := not_exists.mp harmful
    rw [heed_of_harmless harmless, and_iff_left (harmless _)]

theorem revocations_heed (working : store.outage = none) (event : Event) :
    (store.heed event).revocations =
      store.revocations ++ (InvalidationHandler.revocationFor? event).toList := by
  unfold heed
  cases InvalidationHandler.revocationFor? event with
  | none => exact (List.append_nil store.revocations).symm
  | some revocation =>
      obtain ⟨count, carriedOut, _removed⟩ := revoke_eq working revocation
      simp only [carriedOut, revoked, Option.toList_some]

end SessionStore

theorem InvalidationHandler.failure_invoke (limit : Option Duration) {event : Event} {scope : Scope}
    (working : scope.services.sessions.outage = none)
    (due : (revocationFor? event).isSome = true) :
    (InvalidationHandler.handler.invoke limit event scope).2 = none := by
  obtain ⟨revocation, found⟩ := Option.isSome_iff_exists.mp due
  obtain ⟨count, carriedOut, _removed⟩ := SessionStore.revoke_eq working revocation
  simp only [handler, Handler.invoke_atomic, found, Services.revoke, carriedOut]
  rfl

end WorkflowBus
