/-
Verification tokens do not leak.

Two runs publish events that differ in the tokens of registrations.  All that can be
observed is the same in both: the answers, the log, the traces, the trail, the lent
sessions and the session store.  Only a sender in memory has what differs, in the payloads
of the messages that it has kept.
-/

import WorkflowBus.Proofs.Handler.Secrecy
import WorkflowBus.Proofs.Workbench.Isolation
import WorkflowBus.Registry.Catalog

namespace WorkflowBus

namespace EventBus

variable {delivery : Delivery} {event other : Event} {left right : Scope}

theorem account_alike (same : event.SameButToken other) (scopes : left.SameButTokens delivery right)
    (outcome : Outcome) :
    (account event outcome left).SameButTokens delivery (account other outcome right) := by
  cases scopes with
  | intro sender senders =>
      unfold account
      cases outcome.failure with
      | none =>
          have told : completedTrace other outcome.handler =
              completedTrace event outcome.handler := by
            unfold completedTrace
            rw [same.eventType]
          rw [told]
          exact .intro sender senders
      | some failure =>
          have told : failureRecord other outcome.handler failure =
              failureRecord event outcome.handler failure := by
            unfold failureRecord
            rw [same.eventType, same.id]
          dsimp only
          rw [told]
          exact .intro sender senders

theorem deliver_alike (limit : Option Duration) {subscription : Subscription}
    (hides : subscription.handler.HidesTokens) (same : event.SameButToken other)
    (scopes : left.SameButTokens delivery right) :
    (deliver limit other subscription right).1 = (deliver limit event subscription left).1 ∧
      (deliver limit event subscription left).2.SameButTokens delivery
        (deliver limit other subscription right).2 := by
  obtain ⟨failures, after⟩ := hides limit same scopes
  unfold deliver
  dsimp only
  rw [failures]
  exact ⟨rfl, account_alike same after _⟩

theorem deliverAll_alike (limit : Option Duration) {subscriptions : List Subscription}
    (hide : ∀ subscription ∈ subscriptions, subscription.handler.HidesTokens)
    (same : event.SameButToken other) (scopes : left.SameButTokens delivery right) :
    (deliverAll limit other subscriptions right).1 =
        (deliverAll limit event subscriptions left).1 ∧
      (deliverAll limit event subscriptions left).2.SameButTokens delivery
        (deliverAll limit other subscriptions right).2 := by
  induction subscriptions generalizing left right with
  | nil => exact ⟨rfl, scopes⟩
  | cons subscription rest ih =>
      obtain ⟨first, later⟩ := List.forall_mem_cons.mp hide
      obtain ⟨outcome, between⟩ := deliver_alike limit first same scopes
      obtain ⟨outcomes, after⟩ := ih later between
      unfold deliverAll
      dsimp only
      rw [outcome, outcomes]
      exact ⟨rfl, after⟩

theorem publish_alike {bus : EventBus}
    (hide : ∀ subscription ∈ bus.subscriptions, subscription.handler.HidesTokens)
    (same : event.SameButToken other) (scopes : left.SameButTokens delivery right) :
    (bus.publish other right).1 = (bus.publish event left).1 ∧
      (bus.publish event left).2.SameButTokens delivery (bus.publish other right).2 := by
  have hideHere : ∀ subscription ∈ bus.subscriptionsTo event.eventType,
      subscription.handler.HidesTokens := by
    intro subscription member
    exact hide subscription (mem_subscriptions_of_mem member)
  have heard : Scope.SameButTokens delivery
      (if (bus.subscriptionsTo event.eventType).isEmpty then
        left.mapServices (·.withTraces [unheardTrace event]) else left)
      (if (bus.subscriptionsTo event.eventType).isEmpty then
        right.mapServices (·.withTraces [unheardTrace other]) else right) := by
    split
    · have told : unheardTrace other = unheardTrace event := by
        unfold unheardTrace
        rw [same.eventType, same.id]
      cases scopes with
      | intro sender senders =>
          rw [told]
          exact .intro sender senders
    · exact scopes
  obtain ⟨outcomes, after⟩ := deliverAll_alike bus.settings.handlerTimeout hideHere same heard
  rw [publish_eq, publish_eq]
  dsimp only
  rw [same.eventType, same.id, outcomes]
  exact ⟨rfl, after⟩

end EventBus

theorem Wiring.bus_hides (registry : Registry) (settings : BusSettings) :
    ∀ subscription ∈ (bus registry settings).subscriptions,
      subscription.handler.HidesTokens :=
  forall_handler_bus settings fun category => category.handler_hidesTokens registry

/-! ### Calls -/

structure Call.SameButToken (call other : Call) : Prop where
  event : call.event.SameButToken other.event
  session : other.session = call.session
  operation : other.operation = call.operation

namespace Workbench

def withSender (bench : Workbench) (sender : NotificationSender) : Workbench :=
  bench.replacing ⟨none, some sender, none⟩

/-- A workbench and what it would be with a sender that is the same but for the tokens.
The log, the traces, the trail, the lent sessions and the session store are the same, and
so are the supply of identifiers and the time. -/
inductive SameButTokens (delivery : Delivery) (bench : Workbench) : Workbench → Prop
  | intro (sender : NotificationSender)
      (senders : bench.atWork.notifications.SameButTokens delivery sender) :
      SameButTokens delivery bench (bench.withSender sender)

theorem scope_withSender (bench : Workbench) (sender : NotificationSender)
    (context : Option DispatchContext) :
    (bench.withSender sender).scope context = (bench.scope context).withSender sender := by
  unfold scope withSender
  rw [atWork_replacing]
  rfl

theorem lent?_withSender {bench : Workbench} {sender : NotificationSender} {call other : Call}
    (same : call.SameButToken other) :
    (bench.withSender sender).lent? other = bench.lent? call := by
  unfold lent?
  rw [same.session, same.operation]
  rfl

theorem resume_withSender {bench : Workbench} {sender left : NotificationSender}
    {call other : Call} (same : call.SameButToken other) (scope : Scope) :
    (bench.withSender sender).resume other (scope.withSender left) =
      (bench.resume call scope).withSender left := by
  have services : (scope.withSender left).services =
      scope.services.exchanged.exchanged.replacing ⟨none, some left, none⟩ := by
    rw [Services.exchanged_exchanged]
    rfl
  unfold resume takeBack
  rw [same.session, services]
  rfl

theorem publish_alike {registry : Registry} {settings : BusSettings} {delivery : Delivery}
    {bench right : Workbench}
    (wired : bench.deployment.bus = Wiring.bus registry settings) {call other : Call}
    (same : call.SameButToken other) (benches : bench.SameButTokens delivery right) :
    (right.publish other).1 = (bench.publish call).1 ∧
      (bench.publish call).2.SameButTokens delivery (right.publish other).2 := by
  cases benches with
  | intro sender senders =>
      have otherLent : (bench.withSender sender).lent? other = bench.lent? call :=
        lent?_withSender same
      cases lent : bench.lent? call with
      | error error =>
          rw [publish_of_unlent lent, publish_of_unlent (otherLent.trans lent)]
          exact ⟨rfl, .intro sender senders⟩
      | ok context =>
          have hide := Wiring.bus_hides registry settings
          rw [← wired] at hide
          have scopes : (bench.scope context).SameButTokens delivery
              ((bench.withSender sender).scope context) := by
            rw [scope_withSender]
            exact .intro sender senders
          have sameBus : (bench.withSender sender).deployment.bus = bench.deployment.bus := rfl
          obtain ⟨reports, after⟩ := EventBus.publish_alike hide same.event scopes
          rw [publish_of_lent lent, publish_of_lent (otherLent.trans lent), sameBus, reports]
          refine ⟨rfl, ?_⟩
          generalize (bench.deployment.bus.publish call.event (bench.scope context)).2 = left
            at after ⊢
          generalize (bench.deployment.bus.publish other.event
            ((bench.withSender sender).scope context)).2 = otherLeft at after ⊢
          cases after with
          | intro kept keptSenders =>
              rw [resume_withSender same]
              apply SameButTokens.intro
              rw [atWork_resume]
              exact keptSenders

theorem withSender_self (bench : Workbench) :
    bench.withSender bench.atWork.notifications = bench := by
  have services : (bench.services.exchanged.replacing
      ⟨none, some bench.atWork.notifications, none⟩).exchanged = bench.services :=
    bench.services.exchanged_exchanged
  unfold withSender replacing mapServices Deployment.mapServices
  show { bench with
    deployment :=
      { bench.deployment with
        services := (bench.services.exchanged.replacing
          ⟨none, some bench.atWork.notifications, none⟩).exchanged } } = bench
  rw [services]
  rfl

theorem SameButTokens.refl (bench : Workbench) :
    bench.SameButTokens bench.atWork.notifications.delivery bench := by
  have same := SameButTokens.intro bench.atWork.notifications
    (NotificationSender.SameButTokens.refl bench.atWork.notifications)
  rw [withSender_self] at same
  exact same

theorem SameButTokens.eq_of_unkept {delivery : Delivery} {bench right : Workbench}
    (benches : bench.SameButTokens delivery right) (unkept : delivery ≠ .memory) :
    right = bench := by
  cases benches with
  | intro sender senders =>
      rw [senders.eq_of_unkept unkept, withSender_self]

theorem publishAll_alike {registry : Registry} {settings : BusSettings} {delivery : Delivery}
    {bench right : Workbench} (wired : bench.deployment.bus = Wiring.bus registry settings)
    {calls others : List Call} (same : List.Forall₂ Call.SameButToken calls others)
    (benches : bench.SameButTokens delivery right) :
    (right.publishAll others).1.map Prod.snd = (bench.publishAll calls).1.map Prod.snd ∧
      (bench.publishAll calls).2.SameButTokens delivery (right.publishAll others).2 := by
  induction same generalizing bench right with
  | nil => exact ⟨rfl, benches⟩
  | @cons call other rest otherRest head later ih =>
      obtain ⟨answer, next⟩ := publish_alike wired head benches
      have stillWired := (publish_effect wired call).bus.trans wired
      obtain ⟨answers, after⟩ := ih stillWired next
      rw [publishAll_cons, publishAll_cons, List.map_cons, List.map_cons, answer, answers]
      exact ⟨rfl, after⟩

/-- Verification tokens do not leak.  Let two runs over a wired bus publish events that
differ in the tokens of registrations.  Then the answers are the same, and so is all that
the runs leave behind but for what the sender has kept; that is the same without the tokens,
and for a sender that is not in memory it is the same altogether. -/
theorem publishAll_hides_tokens (registry : Registry) (settings : BusSettings)
    (services : Services) (sessions : List (String × AuditSession)) (calls others : List Call)
    (same : List.Forall₂ Call.SameButToken calls others) :
    let bench := wired registry settings services sessions
    let delivery := bench.atWork.notifications.delivery
    (bench.publishAll others).1.map Prod.snd = (bench.publishAll calls).1.map Prod.snd ∧
      (bench.publishAll calls).2.SameButTokens delivery (bench.publishAll others).2 ∧
      (delivery ≠ .memory → (bench.publishAll others).2 = (bench.publishAll calls).2) := by
  intro bench delivery
  have wired : bench.deployment.bus = Wiring.bus registry settings := rfl
  obtain ⟨answers, benches⟩ := publishAll_alike wired same (SameButTokens.refl bench)
  exact ⟨answers, benches, benches.eq_of_unkept⟩

def registration (token : String) : Call where
  event :=
    { id := .numbered 1
      occurredAt := .epoch
      fact := .lifecycle (.userRegistrationSucceeded (.numbered 2) "user@example.org" token) }
  session := none
  operation := none

/-- The tokens of two registrations do not show in the answers or in what is left behind,
and if the sender keeps nothing then nothing shows at all. -/
theorem registration_hides_token :
    List.Forall₂ Call.SameButToken [registration "first"] [registration "second"] ∧
      (let services := Services.start
          { Collaborators.inProcess with notifications := .ofDelivery .memory } .numbered .epoch
        let bench := wired Catalog.registry BusSettings.default services []
        (bench.publishAll [registration "second"]).1.map Prod.snd =
            (bench.publishAll [registration "first"]).1.map Prod.snd ∧
          (bench.publishAll [registration "first"]).2.SameButTokens .memory
            (bench.publishAll [registration "second"]).2) ∧
      (let services := Services.start .inProcess .numbered .epoch
        let bench := wired Catalog.registry BusSettings.default services []
        bench.atWork.notifications.delivery ≠ .memory ∧
          (bench.publishAll [registration "second"]).2 =
            (bench.publishAll [registration "first"]).2) := by
  have same : List.Forall₂ Call.SameButToken [registration "first"] [registration "second"] :=
    .cons ⟨.registered _ _ _ _ _ _, rfl, rfl⟩ .nil
  refine ⟨same, ?_, ?_⟩
  · intro services bench
    obtain ⟨answers, benches, _unkept⟩ :=
      publishAll_hides_tokens Catalog.registry BusSettings.default services [] _ _ same
    exact ⟨answers, benches⟩
  · intro services bench
    have traced : bench.atWork.notifications.delivery ≠ .memory := nofun
    obtain ⟨_answers, _benches, unkept⟩ :=
      publishAll_hides_tokens Catalog.registry BusSettings.default services [] _ _ same
    exact ⟨traced, unkept traced⟩

end Workbench
end WorkflowBus
