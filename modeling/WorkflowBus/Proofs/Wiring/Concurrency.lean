/-
Tasks that publish at once on a wired bus.

Deliveries change what the collaborators hold and never whether they are available, and how
a delivery ends depends on that alone.  So other tasks make no difference to the reports of
a task.  The trail gets one entry for each invocation of the audit handler, in the order of
the invocations, and stays one chain at every point.
-/

import WorkflowBus.Proofs.Bus.Concurrency
import WorkflowBus.Proofs.Wiring.Memory
import WorkflowBus.Registry.Catalog

namespace WorkflowBus

open EventBus

/-- The same collaborators are down in both, in the same way. -/
structure Services.EquallyAvailable (left right : Services) : Prop where
  trail : right.audit.outage = left.audit.outage
  sender : right.notifications.delivery = left.notifications.delivery
  store : right.sessions.outage = left.sessions.outage

theorem Services.EquallyAvailable.trans {first second third : Services}
    (available : first.EquallyAvailable second) (later : second.EquallyAvailable third) :
    first.EquallyAvailable third :=
  ⟨later.trail.trans available.trail, later.sender.trans available.sender,
    later.store.trans available.store⟩

theorem NotificationSender.send_answer {left right : NotificationSender}
    (same : right.delivery = left.delivery) (leftTime rightTime : Instant)
    (notification : Notification) :
    (left.send leftTime notification).1 = (right.send rightTime notification).1 := by
  unfold send
  rw [same]
  cases left.delivery with
  | down message => rfl
  | traced => dsimp only; split <;> rfl
  | memory => dsimp only; split <;> rfl

namespace Wiring

variable {registry : Registry} {limit : Option Duration} {event : Event}

theorem delivery_of_equallyAvailable {left right : Services}
    (available : left.EquallyAvailable right) (category : Category) :
    (delivery registry limit event category ⟨left, none⟩).1 =
      (delivery registry limit event category ⟨right, none⟩).1 := by
  cases category with
  | logging => rfl
  | audit =>
      have same : (⟨right, none⟩ : Scope).refusal? = (⟨left, none⟩ : Scope).refusal? :=
        congrArg (Option.map AuditError.unavailable) available.trail
      cases found : AuditHandler.due registry event (⟨left, none⟩ : Scope).refusal? with
      | error error =>
          rw [delivery_audit_of_error found, delivery_audit_of_error (same ▸ found)]
      | ok record => rw [delivery_audit_of_ok found, delivery_audit_of_ok (same ▸ found)]
  | notification =>
      simp only [delivery_fst, Category.handler, NotificationHandler.handler,
        Handler.invoke_atomic]
      cases NotificationHandler.notificationFor? event with
      | none => rfl
      | some notification =>
          have same := NotificationSender.send_answer available.sender left.now right.now
            notification
          simp only [Services.send]
          rcases leftSent : left.notifications.send left.now notification with ⟨answer, _, _⟩
          rcases rightSent : right.notifications.send right.now notification with ⟨other, _, _⟩
          rw [leftSent, rightSent] at same
          cases same
          cases answer <;> rfl
  | invalidation =>
      simp only [delivery_fst, Category.handler, InvalidationHandler.handler,
        Handler.invoke_atomic]
      cases InvalidationHandler.revocationFor? event with
      | none => rfl
      | some revocation =>
          simp only [Services.revoke, SessionStore.revoke, available.store]
          cases left.sessions.outage <;> rfl

theorem context_delivery (registry : Registry) (limit : Option Duration) (event : Event)
    (category : Category) (services : Services) :
    (delivery registry limit event category ⟨services, none⟩).2 =
      ⟨(delivery registry limit event category ⟨services, none⟩).2.services, none⟩ := by
  have unlent := (delivery_files registry limit event category ⟨services, none⟩).context
  generalize (delivery registry limit event category ⟨services, none⟩).2 = scope at unlent ⊢
  cases scope
  cases unlent
  rfl

theorem equallyAvailable_delivery (registry : Registry) (limit : Option Duration) (event : Event)
    (category : Category) (services : Services) :
    services.EquallyAvailable
      (delivery registry limit event category ⟨services, none⟩).2.services where
  trail := by
    rw [(delivery_files registry limit event category ⟨services, none⟩).audit]
    exact AuditTrail.appendAll_outage _ _ _
  sender := sender_delivery registry limit event category ⟨services, none⟩
  store := outage_delivery registry limit event category ⟨services, none⟩

theorem deliveries_of_equallyAvailable (categories : List Category) {left right : Services}
    (available : left.EquallyAvailable right) :
    (deliveries registry limit event categories ⟨right, none⟩).1 =
      categories.map fun category => (delivery registry limit event category ⟨left, none⟩).1 := by
  induction categories generalizing right with
  | nil => rfl
  | cons category rest ih =>
      have later := available.trans
        (equallyAvailable_delivery registry limit event category right)
      rw [deliveries_cons, context_delivery, ih later, List.map_cons,
        delivery_of_equallyAvailable available category]

/-- What a publish call reports without anything lent depends on the availability of the
collaborators only: each handler fares as if it were the only one. -/
theorem publish_of_equallyAvailable (settings : BusSettings) {left right : Services}
    (available : left.EquallyAvailable right) :
    ((bus registry settings).publish event ⟨right, none⟩).1 =
      ⟨event.id, event.eventType, (called registry event.eventType).map fun category =>
        (delivery registry settings.handlerTimeout event category ⟨left, none⟩).1⟩ := by
  have told : left.EquallyAvailable
      ((⟨right, none⟩ : Scope).saying (unheard registry event)).services :=
    ⟨available.trail, available.sender, available.store⟩
  rw [publish_bus]
  exact congrArg _ (deliveries_of_equallyAvailable (called registry event.eventType) told)

def auditCalls (calls : List HandlerCall) : List HandlerCall :=
  calls.filter fun call => call.outcome.isOf .audit

/-- The services after invocations: their collaborators are as available as at first, and
the trail is sound and holds the record of each invocation of the audit handler, in their
order. -/
structure Records (registry : Registry) (first : Services) (calls : List HandlerCall)
    (services : Services) : Prop where
  available : first.EquallyAvailable services
  sound : services.audit.Sound
  records : services.audit.entries.map (fun entry => Except.ok entry.record) =
    (auditCalls calls).map fun call => AuditHandler.recordFor registry call.event

theorem Records.after {entries : List Entry} (regular : (Registry.ofEntries entries).Regular)
    {limit : Option Duration} {event : Event} {category : Category}
    (member : category ∈ called (Registry.ofEntries entries) event.eventType)
    {first services : Services}
    (working : first.audit.outage = none) {calls : List HandlerCall}
    (records : Records (.ofEntries entries) first calls services) :
    Records (.ofEntries entries) first
      (calls ++ [⟨event,
        (delivery (.ofEntries entries) limit event category ⟨first, none⟩).1⟩])
      (delivery (.ofEntries entries) limit event category ⟨services, none⟩).2.services where
  available := records.available.trans (equallyAvailable_delivery _ limit event category services)
  sound := by
    rw [(delivery_files _ limit event category ⟨services, none⟩).audit]
    exact AuditTrail.appendAll_sound _ _ _ records.sound
  records := by
    have files := (delivery_files (.ofEntries entries) limit event category ⟨services, none⟩).audit
    have accepts : (⟨services, none⟩ : Scope).refusal? = none :=
      Option.map_eq_none_iff.mpr (records.available.trail.trans working)
    have filed : (filings (.ofEntries entries) event none none category).map Except.ok =
        (auditCalls [⟨event, (delivery (.ofEntries entries) limit event category
          ⟨first, none⟩).1⟩]).map fun call =>
            AuditHandler.recordFor (.ofEntries entries) call.event := by
      simp only [auditCalls, List.filter_cons, List.filter_nil, delivery_fst,
        Outcome.isOf_ofCategory]
      by_cases audited : category = .audit
      · subst audited
        obtain ⟨record, classified⟩ := recordFor_of_called regular member
        have due := (AuditHandler.due_eq_ok_iff _ event none record).mpr ⟨classified, rfl⟩
        simp only [filings, due, beq_self_eq_true, if_true, List.map_cons, List.map_nil,
          classified]
        rfl
      · rw [filings_of_ne audited, if_neg (by simpa using audited)]
        rfl
    have okRecords (trail : AuditTrail) : trail.entries.map (fun entry =>
        (Except.ok entry.record : Except HandlerError AuditRecord)) =
          (trail.entries.map AuditEntry.record).map Except.ok := List.map_map.symm
    have all := records.records
    rw [okRecords] at all
    rw [okRecords, files, accepts, auditCalls, List.filter_append, List.map_append, ← auditCalls,
      ← auditCalls, ← all, ← filed]
    simp only [Option.isSome_none, Bool.false_eq_true, if_false, AuditTrail.records_appendAll,
      IdSupply.stamp_records, List.map_append]
    rfl

variable {entries : List Entry}

def firstOutcome (limit : Option Duration) (first : Services) (event : Event)
    (subscription : Subscription) : Outcome :=
  (deliver limit event subscription ⟨first, none⟩).1

theorem settled_bus (regular : (Registry.ofEntries entries).Regular) (settings : BusSettings)
    {first : Services} (working : first.audit.outage = none) :
    (bus (.ofEntries entries) settings).Settled (firstOutcome settings.handlerTimeout first)
      (Records (.ofEntries entries) first) where
  outcome := by
    intro event subscription member past services records
    rw [subscriptionsTo_bus] at member
    obtain ⟨category, _called, rfl⟩ := List.mem_map.mp member
    rw [settings_bus]
    exact (delivery_of_equallyAvailable records.available category).symm
  delivered := by
    intro event subscription member past services records
    rw [subscriptionsTo_bus] at member
    obtain ⟨category, called, rfl⟩ := List.mem_map.mp member
    rw [settings_bus]
    exact records.after regular called working
  timed := by
    intro past services time records
    exact ⟨⟨records.available.trail, records.available.sender, records.available.store⟩,
      records.sound, records.records⟩
  traced := by
    intro past services traces records
    exact ⟨⟨records.available.trail, records.available.sender, records.available.store⟩,
      records.sound, records.records⟩

theorem settledReport_bus (registry : Registry) (settings : BusSettings) {first services : Services}
    (available : first.EquallyAvailable services) (event : Event) :
    ((bus registry settings).publish event ⟨services, none⟩).1 =
      settledReport (bus registry settings) (firstOutcome settings.handlerTimeout first) event := by
  rw [publish_of_equallyAvailable settings available, settledReport, subscriptionsTo_bus,
    List.map_map]
  rfl

theorem auditCalls_settled (regular : (Registry.ofEntries entries).Regular)
    (settings : BusSettings) (first : Services) (event : Event) :
    auditCalls (settledCalls (bus (.ofEntries entries) settings)
        (firstOutcome settings.handlerTimeout first) event) =
      if .audit ∈ called (.ofEntries entries) event.eventType then
        [⟨event, firstOutcome settings.handlerTimeout first event
          (Category.audit.subscription (.ofEntries entries) event.eventType)⟩]
      else [] := by
  have audited (category : Category) : (firstOutcome settings.handlerTimeout first event
      (category.subscription (.ofEntries entries) event.eventType)).isOf .audit =
        decide (category = .audit) :=
    Outcome.isOf_ofCategory category .audit event.eventType _
  have own : (called (.ofEntries entries) event.eventType).filter (fun category =>
      decide (category = .audit)) =
        if .audit ∈ called (.ofEntries entries) event.eventType then [.audit] else [] := by
    rw [List.filter_eq, (nodup_called_of_regular regular event.eventType).count]
    split <;> rfl
  rw [settledCalls, subscriptionsTo_bus, auditCalls, List.map_map, List.filter_map]
  simp only [Function.comp_def, audited, own]
  split <;> rfl

/-! ### Entries of a task -/

def filed (calls : List (Nat × HandlerCall)) : List (Nat × HandlerCall) :=
  calls.filter fun call => call.2.outcome.isOf .audit

/-- The entries of a trail that were filed for a task, if the trail has one entry for each
invocation of the audit handler, in their order. -/
def entriesOf (task : Nat) (trail : AuditTrail) (calls : List (Nat × HandlerCall)) :
    List AuditEntry :=
  ((trail.entries.zip (filed calls)).filter fun pair => pair.2.1 = task).map Prod.fst

theorem map_filter_zip {α β γ : Type} (left : α → γ) (right : β → γ) (keep : β → Bool)
    {first : List α} {second : List β} (same : first.map left = second.map right) :
    ((first.zip second).filter fun pair => keep pair.2).map (fun pair => left pair.1) =
      (second.filter keep).map right := by
  induction first generalizing second with
  | nil =>
      cases List.map_eq_nil_iff.mp same.symm
      rfl
  | cons head rest ih =>
      cases second with
      | nil => cases same
      | cons other others =>
          obtain ⟨heads, tails⟩ := List.cons.inj same
          rw [List.zip_cons_cons, List.filter_cons, List.filter_cons]
          split
          · rw [List.map_cons, List.map_cons, heads, ih tails]
          · exact ih tails

theorem entriesOf_records {registry : Registry} {first : Services}
    {calls : List (Nat × HandlerCall)} {services : Services}
    (records : Records registry first (calls.map Prod.snd) services) (task : Nat) :
    (entriesOf task services.audit calls).map (fun entry => Except.ok entry.record) =
      (auditCalls (TaskPool.callsOf task calls)).map fun call =>
        AuditHandler.recordFor registry call.event := by
  have all := records.records
  rw [auditCalls, List.filter_map, List.map_map] at all
  rw [entriesOf, List.map_map, TaskPool.callsOf, auditCalls, List.filter_map, List.map_map,
    List.filter_filter]
  refine (map_filter_zip _ _ (fun call => decide (call.1 = task)) all).trans ?_
  rw [List.filter_filter]
  congr 1
  exact List.filter_congr fun call _member => Bool.and_comm _ _

theorem auditCalls_flatMap (regular : (Registry.ofEntries entries).Regular)
    (settings : BusSettings) (first : Services) (events : List Event) :
    (auditCalls (events.flatMap (settledCalls (bus (.ofEntries entries) settings)
        (firstOutcome settings.handlerTimeout first)))).map HandlerCall.event =
      events.filter fun event => .audit ∈ called (.ofEntries entries) event.eventType := by
  have each (event : Event) : (auditCalls (settledCalls (bus (.ofEntries entries) settings)
      (firstOutcome settings.handlerTimeout first) event)).map HandlerCall.event =
        if decide (.audit ∈ called (.ofEntries entries) event.eventType) then [event] else [] := by
    rw [auditCalls_settled regular]
    by_cases audited : .audit ∈ called (.ofEntries entries) event.eventType
    · rw [if_pos audited, if_pos (decide_eq_true audited)]
      rfl
    · rw [if_neg audited, if_neg (fun same => audited (of_decide_eq_true same))]
      rfl
  rw [auditCalls, List.filter_flatMap, List.map_flatMap]
  refine (List.flatMap_congr fun event _member => each event).trans ?_
  rw [← flatMap_filter, List.flatMap_singleton']

theorem run_deliveries (registry : Registry) (settings : BusSettings) (task : Nat)
    (reports : List PublishReport) (event : Event) (outcomes : List Outcome)
    (categories : List Category) (waiting : List Event) (pool : TaskPool)
    (busy : pool.tasks task =
      ⟨reports, some ⟨event, outcomes,
        categories.map (Category.subscription registry event.eventType)⟩, waiting⟩) :
    let delivered :=
      deliveries registry settings.handlerTimeout event categories ⟨pool.services, none⟩
    (TaskPool.run (bus registry settings)
        (List.replicate categories.length ⟨task, pool.services.now⟩) pool).2 =
      ⟨Function.update pool.tasks task
        ⟨reports, some ⟨event, outcomes ++ delivered.1, []⟩, waiting⟩, delivered.2.services⟩ := by
  induction categories generalizing outcomes pool with
  | nil =>
      simp only [deliveries, List.map_nil, deliverAll, List.append_nil]
      rw [List.map_nil] at busy
      rw [← busy, Function.update_eq_self]
      rfl
  | cons category rest ih =>
      have step : (pool.take (bus registry settings) ⟨task, pool.services.now⟩).2 =
          ⟨Function.update pool.tasks task
            ⟨reports, some ⟨event, outcomes ++
                [(delivery registry settings.handlerTimeout event category
                  ⟨pool.services, none⟩).1],
              rest.map (Category.subscription registry event.eventType)⟩, waiting⟩,
            (delivery registry settings.handlerTimeout event category
              ⟨pool.services, none⟩).2.services⟩ := by
        simp only [TaskPool.take, busy, Task.advance, List.map_cons, settings_bus]
        rfl
      have time := (delivery_touches registry settings.handlerTimeout event category
        ⟨pool.services, none⟩).now
      have later := ih (outcomes ++ [(delivery registry settings.handlerTimeout event category
        ⟨pool.services, none⟩).1]) (pool.take (bus registry settings) ⟨task, pool.services.now⟩).2
        (by rw [step]; exact Function.update_self ..)
      rw [step] at later
      simp only [time, Function.update_idem, List.append_assoc, List.singleton_append] at later
      rw [List.length_cons, List.replicate_succ, TaskPool.run, deliveries_cons, context_delivery]
      simp only [step]
      exact later

/-- A task that is not interrupted publishes an event as the bus does. -/
theorem run_uninterrupted (registry : Registry) (settings : BusSettings) (task : Nat)
    (reports : List PublishReport) (event : Event) (waiting : List Event) (pool : TaskPool)
    (idle : pool.tasks task = ⟨reports, none, event :: waiting⟩) :
    let (report, scope) := (bus registry settings).publish event ⟨pool.services, none⟩
    (TaskPool.run (bus registry settings)
        (List.replicate ((called registry event.eventType).length + 2)
          ⟨task, pool.services.now⟩) pool).2 =
      ⟨Function.update pool.tasks task ⟨reports ++ [report], none, waiting⟩, scope.services⟩ := by
  let turn : Turn := ⟨task, pool.services.now⟩
  let scope := (⟨pool.services, none⟩ : Scope).saying (unheard registry event)
  let wanted := called registry event.eventType
  have opened : (pool.take (bus registry settings) turn).2 =
      ⟨Function.update pool.tasks task ⟨reports, some ⟨event, [],
        wanted.map (Category.subscription registry event.eventType)⟩, waiting⟩,
        scope.services⟩ := by
    simp only [TaskPool.take, turn, idle, Task.advance, subscriptionsTo_bus, List.isEmpty_map,
      scope, wanted, unheard]
    split
    · exact congrArg (TaskPool.mk _)
        (congrArg Scope.services (Scope.withTraces_eq_saying ⟨pool.services, none⟩ _))
    · rfl
  have delivered := run_deliveries registry settings task reports event [] wanted waiting
    (pool.take (bus registry settings) turn).2 (by rw [opened]; exact Function.update_self ..)
  rw [opened] at delivered
  have turns : List.replicate (wanted.length + 2) turn =
      turn :: (List.replicate wanted.length turn ++ [turn]) := by
    rw [List.replicate_succ, List.replicate_succ']
  rw [publish_bus, turns, TaskPool.run]
  simp only [TaskPool.run_append, opened]
  refine (congrArg (fun pool => (TaskPool.run (bus registry settings) [turn] pool).2)
    delivered).trans ?_
  simp only [TaskPool.run, TaskPool.take, turn, Function.update_self, Task.advance,
    Function.update_idem, List.nil_append]
  have time : pool.services.now = (deliveries registry settings.handlerTimeout event wanted
      ⟨scope.services, none⟩).2.services.now :=
    (deliveries_touches registry settings.handlerTimeout event wanted
      ⟨scope.services, none⟩).now.symm
  rw [time]
  rfl

/-! ### Interleavings -/

/-- Tasks that publish at once get what they would get by themselves.  Let a bus be wired from
a registry that is in order, over any collaborators whose trail is empty, and let any number
of tasks take turns in any order, each with a list of events to publish.  At every point the
reports of a task are those of its first events, each published alone over the services as
they were at first or as they are now; a task that has had its turns has the reports of all
its events.  The trail is one chain, numbered from one upwards, with one entry for each
invocation of the audit handler so far; and the entries of a task are those of its audited
events, in the order in which it published them. -/
theorem run_agrees_with_alone (entries : List Entry) (settings : BusSettings) (wired : EventBus)
    (services : Services) (inOrder : Compliance.checkRegistry (.ofEntries entries) = [])
    (built : build (.ofEntries entries) settings = .ok wired)
    (fresh : services.audit = .empty) (events : Nat → List Event) (turns : List Turn) :
    let registry := Registry.ofEntries entries
    let run := TaskPool.run wired turns (.start services events)
    let calls := run.1
    let pool := run.2
    let trail := pool.services.audit
    let alone := fun event => (wired.publish event ⟨services, none⟩).1
    let recordsOf := List.map (AuditHandler.recordFor registry)
    let audited := fun event : Event => decide (.audit ∈ called registry event.eventType)
    let HasHadTurns := fun task =>
      (Task.start (events task)).workload wired ≤ turns.countP fun turn => turn.task = task
    (∀ task, (pool.tasks task).reports <+: (events task).map alone ∧
      (HasHadTurns task → (pool.tasks task).reports = (events task).map alone)) ∧
    (∀ event, (wired.publish event ⟨pool.services, none⟩).1 = alone event) ∧
    trail.verify = .valid trail.entries.length ∧
    trail.entries.map AuditEntry.sequenceNumber =
      (List.range trail.entries.length).map (fun position : Nat => (position : Int) + 1) ∧
    trail.entries.map (fun entry => Except.ok entry.record) =
      (filed calls).map (fun call => AuditHandler.recordFor registry call.2.event) ∧
    ∀ task,
      (entriesOf task trail calls).map (fun entry => Except.ok entry.record) <+:
        recordsOf ((events task).filter audited) ∧
      (HasHadTurns task → (entriesOf task trail calls).map (fun entry => Except.ok entry.record) =
        recordsOf ((events task).filter audited)) := by
  intro registry run calls pool trail alone recordsOf audited HasHadTurns
  have regular := Compliance.regular_of_checkRegistry_eq_nil registry inOrder
  cases eq_bus_of_build built
  have working : services.audit.outage = none := by
    rw [fresh]
    rfl
  have settled := settled_bus regular settings working
  have started : Records registry services [] services :=
    ⟨⟨rfl, rfl, rfl⟩, fresh ▸ AuditTrail.sound_empty, by rw [fresh]; rfl⟩
  have reaches : TaskPool.Reaches (bus registry settings)
      (firstOutcome settings.handlerTimeout services) (Records registry services) events calls
        pool :=
    (TaskPool.start_reaches started events).run settled turns
  have records := reaches.services
  have same : alone = settledReport (bus registry settings)
      (firstOutcome settings.handlerTimeout services) :=
    funext fun event => settledReport_bus registry settings ⟨rfl, rfl, rfl⟩ event
  have done (task : Nat) (turned : HasHadTurns task) :
      (pool.tasks task).workload (bus registry settings) = 0 :=
    (TaskPool.workload_run _ turns _ task).trans (Nat.sub_eq_zero_of_le turned)
  have own (task : Nat) : (entriesOf task trail calls).map (fun entry => Except.ok entry.record) =
      recordsOf ((auditCalls (TaskPool.callsOf task calls)).map HandlerCall.event) := by
    refine (entriesOf_records records task).trans ?_
    simp only [recordsOf, List.map_map]
    rfl
  have ofAll (task : Nat) := auditCalls_flatMap regular settings services (events task)
  refine ⟨fun task => ⟨?_, fun turned => ?_⟩, fun event => ?_, ?_, records.sound.numbered, ?_,
    fun task => ⟨?_, fun turned => ?_⟩⟩
  · rw [same]
    exact (reaches.tasks task).reports_first
  · rw [same]
    exact ((reaches.tasks task).of_done (done task turned)).1
  · rw [same]
    exact settledReport_bus registry settings records.available event
  · exact Chain.verify_of_linked _ records.sound.linked
  · have all := records.records
    rw [auditCalls, List.filter_map, List.map_map] at all
    exact all
  · rw [own, ← ofAll]
    exact (((reaches.tasks task).calls_first.filter _).map _).map _
  · rw [own, ((reaches.tasks task).of_done (done task turned)).2, ofAll]

theorem alternating_logins_agree :
    let settings := BusSettings.default
    let wired := bus (.ofEntries Catalog.entries) settings
    let services := Services.start .inProcess .numbered .epoch
    let login : Nat → Event := fun task =>
      ⟨.numbered task, .epoch, .lifecycle (.userLoginAttempted "user@example.org")⟩
    let events : Nat → List Event := fun task => if task < 2 then [login task] else []
    let turns : List Turn := [⟨0, .epoch⟩, ⟨1, .epoch⟩, ⟨1, .epoch⟩, ⟨0, .epoch⟩, ⟨1, .epoch⟩,
      ⟨0, .epoch⟩, ⟨0, .epoch⟩, ⟨1, .epoch⟩]
    let pool := (TaskPool.run wired turns (.start services events)).2
    Compliance.checkRegistry (.ofEntries Catalog.entries) = [] ∧
      build (.ofEntries Catalog.entries) settings = .ok wired ∧
      services.audit = .empty ∧
      (pool.tasks 0).reports = [(wired.publish (login 0) ⟨services, none⟩).1] ∧
      (pool.tasks 1).reports = [(wired.publish (login 1) ⟨services, none⟩).1] ∧
      pool.services.audit.verify = .valid pool.services.audit.entries.length := by
  intro settings wired services login events turns
  have inOrder : Compliance.checkRegistry (.ofEntries Catalog.entries) = [] := by decide +kernel
  have built := build_lenient (.ofEntries Catalog.entries) settings rfl
  have turned : ∀ task ∈ [0, 1], (Task.start (events task)).workload wired ≤
      turns.countP fun turn => turn.task = task := by
    decide +kernel
  obtain ⟨reports, _steady, valid, _rest⟩ :=
    run_agrees_with_alone Catalog.entries settings wired services inOrder built rfl events turns
  -- The run is left as it is; otherwise comparing the two sides would carry it out.
  generalize TaskPool.run wired turns (.start services events) = run at reports valid ⊢
  exact ⟨inOrder, built, rfl, (reports 0).2 (turned 0 (by decide)),
    (reports 1).2 (turned 1 (by decide)), valid⟩

end Wiring
end WorkflowBus
