/-
What the category handlers make of a verification token.

Two invocations are compared, of events that differ in the token of a registration.  They
end alike and leave the same behind, but for a token in the payload of a message that a
sender has kept.
-/

import WorkflowBus.Proofs.Handler.Category
import WorkflowBus.Proofs.Json.Members

namespace WorkflowBus

/-- Two events are the same but perhaps for the token of a registration. -/
inductive Event.SameButToken : Event → Event → Prop
  | same (event : Event) : SameButToken event event
  | registered (id : Uuid) (occurredAt : Instant) (userId : Uuid)
      (email token otherToken : String) :
      SameButToken
        ⟨id, occurredAt, .lifecycle (.userRegistrationSucceeded userId email token)⟩
        ⟨id, occurredAt, .lifecycle (.userRegistrationSucceeded userId email otherToken)⟩

namespace Event.SameButToken

variable {event other : Event} (same : event.SameButToken other)

include same

theorem id : other.id = event.id := by
  cases same <;> rfl

theorem eventType : other.eventType = event.eventType := by
  cases same <;> rfl

theorem logRecord (operation : Option OperationContext) :
    LoggingHandler.recordFor other operation = LoggingHandler.recordFor event operation := by
  cases same <;> rfl

theorem revocation :
    InvalidationHandler.revocationFor? other = InvalidationHandler.revocationFor? event := by
  cases same <;> rfl

/-- The trail is kept from the token by the fields that are left out of the metadata. -/
theorem metadata : AuditHandler.metadata other.fact = AuditHandler.metadata event.fact := by
  cases same with
  | same event => rfl
  | registered id occurredAt userId email token otherToken =>
      apply congrArg Json.obj
      apply Json.eraseKey_of_sameExcept
      apply Json.sortedMembers_sameExcept
      refine .cons (.refl _) (.cons (.refl _) (.cons (.refl _) (.cons ⟨rfl, ?_⟩ .nil)))
      intro different
      exact absurd rfl different

theorem auditRecord (registry : Registry) :
    AuditHandler.recordFor registry other = AuditHandler.recordFor registry event := by
  have hidden := same.metadata
  cases same with
  | same event => rfl
  | registered id occurredAt userId email token otherToken =>
      unfold AuditHandler.recordFor
      rw [hidden]
      rfl

theorem writtenTrace (id : Uuid) :
    AuditHandler.writtenTrace other id = AuditHandler.writtenTrace event id := by
  cases same <;> rfl

theorem revokedTrace (revocation : Revocation) (removed : Nat) :
    InvalidationHandler.revokedTrace other revocation removed =
      InvalidationHandler.revokedTrace event revocation removed := by
  cases same <;> rfl

end Event.SameButToken

namespace Notification

def withoutToken (notification : Notification) : Notification :=
  { notification with payload := notification.payload.without "verification_token" }

/-- Two messages have the same fields, and the same values in all fields but that of the
token. -/
structure SameButToken (left right : Notification) : Prop where
  keys : right.payload.keys = left.payload.keys
  rest : right.withoutToken = left.withoutToken

theorem SameButToken.template {left right : Notification} (same : left.SameButToken right) :
    right.template = left.template := by
  show right.withoutToken.template = left.withoutToken.template
  rw [same.rest]

theorem SameButToken.recipient {left right : Notification} (same : left.SameButToken right) :
    right.recipient = left.recipient := by
  show right.withoutToken.recipient = left.withoutToken.recipient
  rw [same.rest]

theorem SameButToken.dryRunTrace {left right : Notification} (same : left.SameButToken right) :
    right.dryRunTrace = left.dryRunTrace := by
  unfold Notification.dryRunTrace
  rw [same.template, same.recipient, same.keys]

end Notification

theorem NotificationHandler.notificationFor?_alike {event other : Event}
    (same : event.SameButToken other) :
    (notificationFor? event = none ∧ notificationFor? other = none) ∨
      ∃ notification message, notificationFor? event = some notification ∧
        notificationFor? other = some message ∧ notification.SameButToken message := by
  cases same with
  | same event =>
      cases notificationFor? event with
      | none => exact Or.inl ⟨rfl, rfl⟩
      | some notification => exact Or.inr ⟨notification, notification, rfl, rfl, ⟨rfl, rfl⟩⟩
  | registered id occurredAt userId email token otherToken =>
      have alike : List.Forall₂ (Json.SameExcept "verification_token")
          [("user_id", userId.toJson), ("verification_token", .str otherToken)]
          [("user_id", userId.toJson), ("verification_token", .str token)] := by
        refine .cons (.refl _) (.cons ⟨rfl, ?_⟩ .nil)
        intro different
        exact absurd rfl different
      have sorted := Json.sortedMembers_sameExcept alike
      refine Or.inr ⟨_, _, rfl, rfl, ?_⟩
      exact
        { keys := Json.keys_of_sameExcept sorted
          rest := congrArg (fun members => Notification.mk .emailVerification email (.obj members))
            (Json.eraseKey_of_sameExcept sorted) }

def SentNotification.withoutToken (sent : SentNotification) : SentNotification :=
  { sent with notification := sent.notification.withoutToken }

/-- Two senders of a kind have kept the same without the tokens; only in memory anything
is kept that differs. -/
structure NotificationSender.SameButTokens (delivery : Delivery)
    (left right : NotificationSender) : Prop where
  kind : left.delivery = delivery
  otherKind : right.delivery = delivery
  sent : right.sent.map SentNotification.withoutToken =
    left.sent.map SentNotification.withoutToken
  unkept : delivery ≠ .memory → right.sent = left.sent

namespace NotificationSender

theorem SameButTokens.refl (sender : NotificationSender) :
    sender.SameButTokens sender.delivery sender :=
  ⟨rfl, rfl, rfl, fun _ => rfl⟩

theorem SameButTokens.eq_of_unkept {delivery : Delivery} {sender other : NotificationSender}
    (senders : sender.SameButTokens delivery other) (unkept : delivery ≠ .memory) :
    other = sender := by
  have sent := senders.unkept unkept
  obtain ⟨rfl, kinds, -, -⟩ := senders
  cases sender
  cases other
  cases kinds
  cases sent
  rfl

theorem send_alike {delivery : Delivery} {sender other : NotificationSender}
    (senders : sender.SameButTokens delivery other) {notification message : Notification}
    (alike : notification.SameButToken message) (now : Instant) :
    (other.send now message).1 = (sender.send now notification).1 ∧
      (other.send now message).2.2 = (sender.send now notification).2.2 ∧
      (sender.send now notification).2.1.SameButTokens delivery (other.send now message).2.1 := by
  unfold send
  rw [senders.kind, senders.otherKind, alike.recipient, alike.dryRunTrace]
  cases delivery with
  | down message => exact ⟨rfl, rfl, senders⟩
  | traced =>
      dsimp only
      split
      · exact ⟨rfl, rfl, senders⟩
      · exact ⟨rfl, rfl, senders⟩
  | memory =>
      dsimp only
      split
      · refine ⟨rfl, rfl, rfl, rfl, ?_, fun kept => absurd rfl kept⟩
        rw [List.map_append, List.map_append, senders.sent]
        exact congrArg (fun rest => _ ++ [SentNotification.mk rest now]) alike.rest
      · exact ⟨rfl, rfl, senders⟩

end NotificationSender

namespace Scope

def withSender (scope : Scope) (sender : NotificationSender) : Scope :=
  { scope with services := { scope.services with notifications := sender } }

inductive SameButTokens (delivery : Delivery) (scope : Scope) : Scope → Prop
  | intro (sender : NotificationSender)
      (senders : scope.services.notifications.SameButTokens delivery sender) :
      SameButTokens delivery scope (scope.withSender sender)

theorem recordAudit_withSender (scope : Scope) (sender : NotificationSender)
    (record : AuditRecord) :
    (scope.withSender sender).recordAudit record =
        ((scope.recordAudit record).1, (scope.recordAudit record).2.withSender sender) ∧
      (scope.recordAudit record).2.services.notifications = scope.services.notifications := by
  obtain ⟨services, context⟩ := scope
  cases context with
  | none => exact ⟨rfl, rfl⟩
  | some context => exact ⟨rfl, rfl⟩

end Scope

/-! ### Handlers -/

/-- In scopes that are the same but for tokens, the handler treats events that are the same
but for the token alike. -/
def Handler.HidesTokens (handler : Handler) : Prop :=
  ∀ (limit : Option Duration) {delivery : Delivery} {event other : Event} {left right : Scope},
    event.SameButToken other → left.SameButTokens delivery right →
      (handler.invoke limit other right).2 = (handler.invoke limit event left).2 ∧
        (handler.invoke limit event left).1.SameButTokens delivery
          (handler.invoke limit other right).1

theorem LoggingHandler.hidesTokens : handler.HidesTokens := by
  intro limit delivery event other left right same scopes
  cases scopes with
  | intro sender senders =>
      rw [invoke_eq, invoke_eq, same.logRecord]
      exact ⟨rfl, .intro sender senders⟩

theorem AuditHandler.hidesTokens (registry : Registry) : (handler registry).HidesTokens := by
  intro limit delivery event other left right same scopes
  cases scopes with
  | intro sender senders =>
      simp only [handler, Handler.invoke_atomic, same.auditRecord]
      cases recordFor registry event with
      | error error => exact ⟨rfl, .intro sender senders⟩
      | ok record =>
          obtain ⟨written, untouched⟩ :=
            left.recordAudit_withSender sender (inOperation record left.operation?)
          rcases recorded : left.recordAudit (inOperation record left.operation?) with
            ⟨answer, after⟩
          rw [recorded] at written untouched
          replace written : (left.withSender sender).recordAudit
              (inOperation record (left.withSender sender).operation?) =
                (answer, after.withSender sender) := written
          rw [← untouched] at senders
          simp only [recorded, written, same.writtenTrace]
          cases answer with
          | error error => exact ⟨rfl, .intro sender senders⟩
          | ok id => exact ⟨rfl, .intro sender senders⟩

theorem NotificationHandler.hidesTokens : handler.HidesTokens := by
  intro limit delivery event other left right same scopes
  cases scopes with
  | intro sender senders =>
      simp only [handler, Handler.invoke_atomic]
      rcases notificationFor?_alike same with
        ⟨nothing, otherNothing⟩ | ⟨notification, message, due, otherDue, alike⟩
      · rw [nothing, otherNothing, same.eventType]
        exact ⟨rfl, .intro sender senders⟩
      · obtain ⟨answers, shown, kept⟩ :=
          NotificationSender.send_alike senders alike left.services.now
        rcases sent : left.services.notifications.send left.services.now notification with
          ⟨answer, after, traces⟩
        rcases otherSent : sender.send left.services.now message with
          ⟨otherAnswer, otherAfter, otherTraces⟩
        rw [sent, otherSent] at answers shown kept
        cases answers
        cases shown
        have noted : sentTrace other message = sentTrace event notification := by
          unfold sentTrace
          rw [same.id, alike.template]
        rw [due, otherDue]
        simp only [Services.send, Scope.withSender, sent, otherSent, noted]
        cases answer with
        | error error => exact ⟨rfl, .intro otherAfter kept⟩
        | ok _delivered => exact ⟨rfl, .intro otherAfter kept⟩

theorem InvalidationHandler.hidesTokens : handler.HidesTokens := by
  intro limit delivery event other left right same scopes
  cases scopes with
  | intro sender senders =>
      simp only [handler, Handler.invoke_atomic, same.revocation]
      cases revocationFor? event with
      | none =>
          rw [same.eventType]
          exact ⟨rfl, .intro sender senders⟩
      | some revocation =>
          rcases revoked : left.services.sessions.revoke revocation with ⟨answer, after⟩
          simp only [Services.revoke, Scope.withSender, revoked, same.revokedTrace]
          cases answer with
          | error error => exact ⟨rfl, .intro sender senders⟩
          | ok removed => exact ⟨rfl, .intro sender senders⟩

theorem Category.handler_hidesTokens (registry : Registry) (category : Category) :
    (category.handler registry).HidesTokens := by
  cases category with
  | logging => exact LoggingHandler.hidesTokens
  | audit => exact AuditHandler.hidesTokens registry
  | notification => exact NotificationHandler.hidesTokens
  | invalidation => exact InvalidationHandler.hidesTokens

end WorkflowBus
