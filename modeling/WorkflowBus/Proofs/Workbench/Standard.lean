/-
The meaning of the standard bus.

Over collaborators in memory, every list of events has one meaning on the bus of the standard
catalog: what is reported, sent, revoked, audited and logged is a function of the events, and
each store grows by what belongs to them, in their order.
-/

import WorkflowBus.Proofs.Wiring.Standard

namespace WorkflowBus

/-- The items are those that the events have, in the order of the events: one for each event
that has one, and none for the others. -/
inductive Collects {α : Type} (has : Event → α → Prop) : List Event → List α → Prop
  | nil : Collects has [] []
  | one {event : Event} {item : α} {events : List Event} {items : List α}
      (own : has event item) (rest : Collects has events items) :
      Collects has (event :: events) (item :: items)
  | none {event : Event} {events : List Event} {items : List α}
      (nothing : ∀ item, ¬has event item) (rest : Collects has events items) :
      Collects has (event :: events) items

theorem collects_of_filterMap {α β : Type} {has : Event → α → Prop} {read : α → β}
    {gives : Event → Option β} (own : ∀ event item, gives event = some (read item) → has event item)
    (nothing : ∀ event, gives event = none → ∀ item, ¬has event item) {events : List Event}
    {items : List α} (same : items.map read = events.filterMap gives) :
    Collects has events items := by
  induction events generalizing items with
  | nil =>
      cases List.map_eq_nil_iff.mp same
      exact .nil
  | cons event rest ih =>
      cases found : gives event with
      | none =>
          rw [List.filterMap_cons, found] at same
          exact .none (nothing event found) (ih same)
      | some value =>
          rw [List.filterMap_cons, found] at same
          obtain ⟨item, items, rfl, rfl, later⟩ := List.map_eq_cons_iff.mp same
          exact .one (own event item found) (ih later)

/-- All collaborators are available and keep in memory what they are given. -/
structure Services.InMemory (services : Services) : Prop where
  audit : services.audit.outage = none
  sender : services.notifications.delivery = .memory
  store : services.sessions.outage = none
  log : services.log = .memory services.log.records

namespace Workbench

open Wiring

/-- What the bus of the standard catalog makes of events: the answers to them, and what the
sender, the store and the log have been given. -/
structure Treated (events : List Event) (before : Services)
    (answers : List (Except WorkbenchError PublishReport)) (after : Services) : Prop where
  answers : answers = events.map fun event => .ok (Catalog.report event)
  now : after.now = before.now
  inMemory : after.InMemory
  sent : after.notifications.sent = before.notifications.sent ++ events.filterMap fun event =>
    (NotificationSender.kept? event).map fun notification => ⟨notification, before.now⟩
  revocations : after.sessions.revocations = before.sessions.revocations ++
    events.filterMap InvalidationHandler.revocationFor?
  log : after.log.records = before.log.records ++ events.flatMap fun event =>
    LoggingHandler.recordFor event none ::
      Catalog.failureRecords event (Catalog.report event).outcomes

theorem Treated.nil {services : Services} (inMemory : services.InMemory) :
    Treated [] services [] services where
  answers := rfl
  now := rfl
  inMemory := inMemory
  sent := (List.append_nil _).symm
  revocations := (List.append_nil _).symm
  log := (List.append_nil _).symm

theorem Treated.append {first second : List Event} {before between after : Services}
    {answers later : List (Except WorkbenchError PublishReport)}
    (treated : Treated first before answers between)
    (further : Treated second between later after) :
    Treated (first ++ second) before (answers ++ later) after where
  answers := by rw [treated.answers, further.answers, List.map_append]
  now := further.now.trans treated.now
  inMemory := further.inMemory
  sent := by
    rw [further.sent, treated.sent, treated.now, List.filterMap_append, List.append_assoc]
  revocations := by
    rw [further.revocations, treated.revocations, List.filterMap_append, List.append_assoc]
  log := by rw [further.log, treated.log, List.flatMap_append, List.append_assoc]

theorem publish_treated {settings : BusSettings} {bench : Workbench}
    (wired : bench.deployment.bus = Wiring.bus Catalog.registry settings)
    (inMemory : bench.atWork.InMemory) (event : Event) :
    Treated [event] bench.atWork [(bench.publish (.alone event)).1]
      (bench.publish (.alone event)).2.atWork := by
  obtain ⟨answered, after⟩ := publish_alone_eq wired event
  have services : (bench.publish (.alone event)).2.atWork = _ := congrArg Scope.services after
  -- What is at work accepts every record, keeps what it is sent and carries out revocations.
  have available : Available (bench.scope none) :=
    ⟨congrArg (Option.map AuditError.unavailable) inMemory.audit, inMemory.sender, inMemory.store⟩
  have spec := publish_spec Catalog.registry settings event (bench.scope none)
  have sender : ((Wiring.bus Catalog.registry settings).publish event
      (bench.scope none)).2.services.notifications =
        bench.atWork.notifications.heed bench.atWork.now event :=
    Catalog.notifications_publish_standard settings event (bench.scope none)
  have store : ((Wiring.bus Catalog.registry settings).publish event
      (bench.scope none)).2.services.sessions = bench.atWork.sessions.heed event :=
    Catalog.sessions_publish_standard settings event (bench.scope none)
  have memory : (bench.scope none).services.log = .memory bench.atWork.log.records := inMemory.log
  have logged := log_publish Catalog.registry settings event memory
  rw [Catalog.publish_standard settings event available, Catalog.lines_report] at logged
  rw [answered, services, Catalog.publish_standard settings event available]
  exact
    { answers := rfl
      now := spec.touches.now
      inMemory :=
        { audit := by
            rw [spec.files.audit]
            exact (AuditTrail.appendAll_outage _ _ _).trans inMemory.audit
          sender := by
            rw [sender, NotificationSender.delivery_heed]
            exact inMemory.sender
          store := by
            rw [store, SessionStore.outage_heed]
            exact inMemory.store
          log := by
            rw [logged]
            rfl }
      sent := by
        rw [sender, NotificationSender.sent_heed inMemory.sender,
          List.filterMap_eq_flatMap_toList, List.flatMap_singleton]
      revocations := by
        rw [store, SessionStore.revocations_heed inMemory.store,
          List.filterMap_eq_flatMap_toList, List.flatMap_singleton]
      log := by
        rw [logged, List.flatMap_singleton]
        rfl }

theorem publishAll_treated {settings : BusSettings} {bench : Workbench}
    (wired : bench.deployment.bus = Wiring.bus Catalog.registry settings)
    (inMemory : bench.atWork.InMemory) (events : List Event) :
    Treated events bench.atWork ((bench.publishAll (events.map .alone)).1.map Prod.snd)
      (bench.publishAll (events.map .alone)).2.atWork := by
  induction events generalizing bench with
  | nil => exact .nil inMemory
  | cons event rest ih =>
      have first := publish_treated wired inMemory event
      have stillWired := (publish_effect wired (.alone event)).bus.trans wired
      exact first.append (ih stillWired first.inMemory)

/-! ### What the events mean -/

/-- A notification is announced to what is no recipient. -/
def Unreachable (event : Event) (notification : Notification) : Prop :=
  event.Announces notification ∧ Notification.isRecipient notification.recipient = false

/-- An event is answered by a report, which has a failure exactly if the event announces a
notification to what is no recipient; then the handler of notification has refused it, and
that is the only failure. -/
structure AnsweredInMemory (event : Event) (answer : Except WorkbenchError PublishReport) :
    Prop where
  reported : ∃ outcomes, answer = .ok ⟨event.id, event.eventType, outcomes⟩
  failing : (∃ outcome ∈ outcomes answer, outcome.isCompleted = false) ↔
    ∃ notification, Unreachable event notification
  failures : ∀ notification, Unreachable event notification →
    (outcomes answer).filter (fun outcome => !outcome.isCompleted) =
      [⟨.ofCategory .notification event.eventType,
        some (.answered (.notification (.invalidRecipient notification.recipient)))⟩]

theorem refusal?_of_unreachable {event : Event} {notification : Notification}
    (unreachable : Unreachable event notification) :
    NotificationHandler.refusal? event =
      some (.answered (.notification (.invalidRecipient notification.recipient))) := by
  have due := (NotificationHandler.notificationFor?_eq_some_iff event notification).mpr
    unreachable.1
  rw [NotificationHandler.refusal?, due, Option.filter_some, unreachable.2]
  rfl

theorem unreachable_of_refusal? {event : Event} {failure : Failure}
    (refuses : NotificationHandler.refusal? event = some failure) :
    ∃ notification, Unreachable event notification := by
  obtain ⟨notification, found, _same⟩ := Option.map_eq_some_iff.mp refuses
  obtain ⟨due, refused⟩ := Option.filter_eq_some_iff.mp found
  refine ⟨notification, (NotificationHandler.notificationFor?_eq_some_iff _ _).mp due, ?_⟩
  rwa [Bool.not_eq_true'] at refused

theorem answeredInMemory_report (event : Event) :
    AnsweredInMemory event (.ok (Catalog.report event)) := by
  have listed : (outcomes (.ok (Catalog.report event))).filter (fun outcome =>
      !outcome.isCompleted) = (NotificationHandler.refusal? event).toList.map fun failure =>
        ⟨.ofCategory .notification event.eventType, some failure⟩ :=
    Catalog.failures_report event
  refine ⟨⟨_, rfl⟩, ?_, ?_⟩
  · constructor
    · intro ⟨outcome, member, fails⟩
      have among : outcome ∈ (outcomes (.ok (Catalog.report event))).filter fun outcome =>
          !outcome.isCompleted := List.mem_filter.mpr ⟨member, by rw [fails]; rfl⟩
      rw [listed] at among
      obtain ⟨failure, refuses, _same⟩ := List.mem_map.mp among
      exact unreachable_of_refusal? (Option.mem_toList.mp refuses)
    · intro ⟨notification, unreachable⟩
      rw [refusal?_of_unreachable unreachable] at listed
      have among : ⟨.ofCategory .notification event.eventType, some (.answered (.notification
          (.invalidRecipient notification.recipient)))⟩ ∈
            (outcomes (.ok (Catalog.report event))).filter fun outcome => !outcome.isCompleted :=
        listed ▸ List.mem_cons_self
      obtain ⟨member, _fails⟩ := List.mem_filter.mp among
      exact ⟨_, member, rfl⟩
  · intro notification unreachable
    rw [listed, refusal?_of_unreachable unreachable]
    rfl

def Delivers (now : Instant) (event : Event) (kept : SentNotification) : Prop :=
  event.Announces kept.notification ∧
    Notification.isRecipient kept.notification.recipient = true ∧ kept.sentAt = now

theorem collects_sent (events : List Event) (now : Instant) :
    Collects (Delivers now) events
      (events.filterMap fun event =>
        (NotificationSender.kept? event).map fun notification => ⟨notification, now⟩) := by
  apply collects_of_filterMap _ _ (List.map_id _)
  · intro event kept found
    obtain ⟨notification, due, rfl⟩ := Option.map_eq_some_iff.mp found
    obtain ⟨announces, reachable⟩ := (NotificationSender.kept?_eq_some_iff _ _).mp due
    exact ⟨announces, reachable, rfl⟩
  · intro event nothing kept ⟨announces, reachable, _now⟩
    rw [Option.map_eq_none_iff,
      (NotificationSender.kept?_eq_some_iff _ _).mpr ⟨announces, reachable⟩] at nothing
    cases nothing

theorem collects_revocations (events : List Event) :
    Collects Event.Revokes events (events.filterMap InvalidationHandler.revocationFor?) := by
  apply collects_of_filterMap _ _ (List.map_id _)
  · intro event revocation found
    exact (InvalidationHandler.revocationFor?_eq_some_iff _ _).mp found
  · intro event nothing revocation revokes
    rw [(InvalidationHandler.revocationFor?_eq_some_iff _ _).mpr revokes] at nothing
    cases nothing

theorem collects_audited {events : List Event} {added : List AuditEntry}
    (records : added.map AuditEntry.record = auditRecords Catalog.registry events) :
    Collects (fun event entry => Catalog.audits event.eventType = true ∧
      entry.record.eventId = event.id) events added := by
  apply collects_of_filterMap _ _ records
  · intro event entry found
    obtain ⟨owner, requiring, same⟩ := Option.map_eq_some_iff.mp found
    rw [← Catalog.isSome_ownerRequiring?_audit, requiring, ← same]
    exact ⟨rfl, rfl⟩
  · intro event nothing entry ⟨audited, _id⟩
    rw [← Catalog.isSome_ownerRequiring?_audit, ← Option.isSome_map, nothing] at audited
    cases audited

/-- The meaning of the standard bus.  Let strict wiring have handed out the bus of the standard
catalog, and let all collaborators be in memory.  Then over every list of events, published
without a context, each event is answered by a report, which has no failure but that of an
announcement to what is no recipient.  The sender keeps one notification for each announcement
that has a recipient, the store one revocation for each event that revokes something, the trail
one entry for each event that the catalog audits, and the log the record of each event followed
by one for each failure in its report, all in the order of the events. -/
theorem publishAll_means (settings : BusSettings) (bench : Workbench) (events : List Event)
    (strict : settings.strictWiring = true)
    (built : Wiring.build Catalog.registry settings = .ok bench.deployment.bus)
    (inMemory : bench.atWork.InMemory) :
    let transcript := (bench.publishAll (events.map .alone)).1
    let after := (bench.publishAll (events.map .alone)).2
    transcript.map Prod.fst = events.map .alone ∧
      List.Forall₂ AnsweredInMemory events (transcript.map Prod.snd) ∧
      (∃ sent, after.atWork.notifications.sent = bench.atWork.notifications.sent ++ sent ∧
        Collects (Delivers bench.atWork.now) events sent) ∧
      (∃ revoked,
        after.atWork.sessions.revocations = bench.atWork.sessions.revocations ++ revoked ∧
          Collects Event.Revokes events revoked) ∧
      (∃ added, after.atWork.audit.entries = bench.atWork.audit.entries ++ added ∧
        Collects (fun event entry => Catalog.audits event.eventType = true ∧
          entry.record.eventId = event.id) events added) ∧
      after.atWork.log = .memory (bench.atWork.log.records ++ transcript.flatMap
        fun (call, answer) => LoggingHandler.recordFor call.event none ::
          Catalog.failureRecords call.event (outcomes answer)) := by
  intro transcript after
  obtain ⟨wired, _regular⟩ := regular_of_build strict built
  have treated := publishAll_treated wired inMemory events
  obtain ⟨_owned, files, _gains⟩ := publishAll_alone Catalog.regular wired inMemory.audit events
  have audit : after.atWork.audit = _ := files.audit
  obtain ⟨added, extended, records⟩ := AuditTrail.appendAll_added bench.atWork.audit
    bench.atWork.now (bench.atWork.ids.stamp (auditRecords Catalog.registry events))
  rw [IdSupply.stamp_records] at records
  have steps : transcript = events.map fun event =>
      (.alone event, .ok (Catalog.report event)) :=
    (List.zip_of_prod (bench.publishAll_calls _) treated.answers).trans List.zip_map'
  refine ⟨bench.publishAll_calls _, ?_, ⟨_, treated.sent, collects_sent events _⟩,
    ⟨_, treated.revocations, collects_revocations events⟩,
    ⟨added, (congrArg AuditTrail.entries audit).trans extended, collects_audited records⟩, ?_⟩
  · rw [steps, List.map_map, List.forall₂_map_right_iff, List.forall₂_same]
    exact fun event _member => answeredInMemory_report event
  · rw [treated.inMemory.log, treated.log, steps, List.flatMap_map]
    rfl

/-- A registration whose address is no recipient and the change of a password: only the
change is told to its user, and it revokes that user's sessions. -/
theorem registration_and_password_change :
    let bench := ofDeployment
      ⟨Catalog.registry, Wiring.bus Catalog.registry BusSettings.default.strict,
        .start ⟨.empty, .ofDelivery .memory, .empty, .memory []⟩ .numbered .epoch⟩
    let events : List Event := [
      ⟨.numbered 1, .epoch, .lifecycle (.userRegistrationSucceeded (.numbered 3) "user" "token")⟩,
      ⟨.numbered 2, .epoch,
        .lifecycle (.passwordChangeSucceeded (.numbered 4) "user@example.org" "user")⟩]
    BusSettings.default.strict.strictWiring = true ∧
      Wiring.build Catalog.registry BusSettings.default.strict = .ok bench.deployment.bus ∧
      bench.atWork.InMemory ∧
      (bench.publishAll (events.map .alone)).2.atWork.notifications.sent.map
        (·.notification.recipient) = ["user@example.org"] ∧
      (bench.publishAll (events.map .alone)).2.atWork.sessions.revocations =
        [.allUserSessions (.numbered 4)] := by
  intro bench events
  have built : Wiring.build Catalog.registry BusSettings.default.strict =
      .ok bench.deployment.bus := build_strict_of_nothing rfl (by decide +kernel) rfl
  have inMemory : bench.atWork.InMemory := ⟨rfl, rfl, rfl, rfl⟩
  obtain ⟨_calls, _answers, ⟨sent, sentGrown, sentOwn⟩,
      ⟨revoked, revokedGrown, revokedOwn⟩, _rest⟩ :=
    publishAll_means BusSettings.default.strict bench events rfl built inMemory
  refine ⟨rfl, built, inMemory, ?_, ?_⟩
  · rw [sentGrown]
    simp only [events] at sentOwn
    cases sentOwn with
    | @one _ kept _ _ own _rest =>
        obtain ⟨⟨template, recipient, payload⟩, sentAt⟩ := kept
        obtain ⟨announces, reachable, _now⟩ := own
        cases announces
        have refused : Notification.isRecipient "user" = false := by decide +kernel
        exact absurd (refused.symm.trans reachable) Bool.false_ne_true
    | none _nothing rest =>
        cases rest with
        | @one _ kept _ _ own rest =>
            obtain ⟨⟨template, recipient, payload⟩, sentAt⟩ := kept
            obtain ⟨announces, _reachable, _now⟩ := own
            cases announces
            cases rest
            rfl
        | none nothing _rest =>
            exact absurd ⟨.passwordChange _ _ _ _ _, by decide +kernel, rfl⟩ (nothing ⟨_, _⟩)
  · rw [revokedGrown]
    simp only [events] at revokedOwn
    cases revokedOwn with
    | one own _rest => cases own
    | none _nothing rest =>
        cases rest with
        | one own rest =>
            cases own
            cases rest
            rfl
        | none nothing _rest => exact absurd (.passwordChange _ _ _ _ _) (nothing _)

end Workbench
end WorkflowBus
