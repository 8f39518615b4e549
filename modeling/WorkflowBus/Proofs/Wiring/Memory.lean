/-
Publishing over collaborators in memory.

A delivery changes the sender or the store only through the handler of notification or of
invalidation, so a call that invokes each handler once leaves what these two leave.  Over
collaborators in memory that are all available, it is known beforehand how each handler ends,
and the log shows it: the record of the logging handler, and the bus's record of each failure.
-/

import WorkflowBus.Proofs.Handler.Meaning
import WorkflowBus.Proofs.Wiring.Behaviour

namespace WorkflowBus

def Utterance.line? : Utterance → Option LogRecord
  | .line record => some record
  | .note _ => none

def Utterance.note? : Utterance → Option Trace
  | .line _ => none
  | .note trace => some trace

theorem Voice.tellAll_memory (records : List LogRecord) (traces : List Trace)
    (told : List Utterance) :
    Voice.tellAll (.memory records, traces) told =
      (.memory (records ++ told.filterMap Utterance.line?),
        traces ++ told.filterMap Utterance.note?) := by
  induction told generalizing records traces with
  | nil => rw [List.filterMap_nil, List.filterMap_nil, List.append_nil, List.append_nil]; rfl
  | cons utterance rest ih =>
      cases utterance with
      | line record =>
          have later := ih (records ++ [record]) (traces ++ [])
          rw [List.append_assoc, List.append_assoc] at later
          exact later
      | note trace =>
          have later := ih records (traces ++ [trace])
          rw [List.append_assoc] at later
          exact later

theorem Scope.log_saying {scope : Scope} {records : List LogRecord}
    (memory : scope.services.log = .memory records) (told : List Utterance) :
    (scope.saying told).services.log = .memory (records ++ told.filterMap Utterance.line?) := by
  have told := congrArg Prod.fst (Voice.tellAll_memory records scope.services.traces told)
  rw [← memory] at told
  exact told

theorem filterMap_line?_notes (notes : List Trace) :
    (notes.map Utterance.note).filterMap Utterance.line? = [] := by
  rw [List.filterMap_map]
  exact List.filterMap_eq_nil_iff.mpr fun _ _ => rfl

namespace Wiring

open EventBus

variable {registry : Registry} {limit : Option Duration} {event : Event}

theorem delivery_snd (category : Category) (scope : Scope) :
    (delivery registry limit event category scope).2 =
      ((category.handler registry).invoke limit event scope).1.saying
        [verdict event (delivery registry limit event category scope).1] :=
  account_eq_saying event _ _

/-- What only the handler of one category changes, and by itself, is changed once if that
handler is invoked. -/
theorem deliveries_view (registry : Registry) (limit : Option Duration) (event : Event)
    {α : Type} (view : Scope → α) (change : α → α) {own : Category}
    (changes : ∀ scope : Scope,
      view (delivery registry limit event own scope).2 = change (view scope))
    (spares : ∀ other : Category, other ≠ own → ∀ scope : Scope,
      view (delivery registry limit event other scope).2 = view scope)
    {categories : List Category} (once : categories.Nodup) (scope : Scope) :
    view (deliveries registry limit event categories scope).2 =
      if own ∈ categories then change (view scope) else view scope := by
  induction categories generalizing scope with
  | nil => rfl
  | cons category rest ih =>
      obtain ⟨fresh, restOnce⟩ := List.nodup_cons.mp once
      refine (ih restOnce (delivery registry limit event category scope).2).trans ?_
      by_cases same : category = own
      · subst same
        rw [if_neg fresh, if_pos List.mem_cons_self, changes]
      · rw [spares category same]
        by_cases later : own ∈ rest
        · rw [if_pos later, if_pos (List.mem_cons_of_mem category later)]
        · have absent : own ∉ category :: rest := fun member =>
            (List.mem_cons.mp member).elim (fun equal => same equal.symm) later
          rw [if_neg later, if_neg absent]

theorem sessions_publish (settings : BusSettings)
    (once : (called registry event.eventType).Nodup) (scope : Scope) :
    ((bus registry settings).publish event scope).2.services.sessions =
      if .invalidation ∈ called registry event.eventType then scope.services.sessions.heed event
      else scope.services.sessions := by
  rw [publish_bus]
  refine deliveries_view registry settings.handlerTimeout event
    (fun scope => scope.services.sessions) (fun store => store.heed event)
    (fun scope => ?_) (fun other different scope => ?_) once _
  · rw [delivery_snd]
    exact InvalidationHandler.sessions_invoke settings.handlerTimeout event scope
  · exact (delivery_touches registry settings.handlerTimeout event other scope).store fun member =>
      different (List.mem_singleton.mp member).symm

theorem notifications_publish (settings : BusSettings)
    (once : (called registry event.eventType).Nodup) (scope : Scope) :
    ((bus registry settings).publish event scope).2.services.notifications =
      if .notification ∈ called registry event.eventType then
        scope.services.notifications.heed scope.services.now event
      else scope.services.notifications := by
  -- The time is viewed too, since the sender stamps what it keeps.
  have viewed := deliveries_view registry settings.handlerTimeout event
    (fun scope => (scope.services.notifications, scope.services.now))
    (fun found => (found.1.heed found.2 event, found.2))
    (fun scope => by
      have time := (delivery_touches registry settings.handlerTimeout event .notification scope).now
      refine Prod.ext ?_ time
      rw [delivery_snd]
      exact NotificationHandler.sender_invoke settings.handlerTimeout event scope)
    (fun other different scope => by
      have touches := delivery_touches registry settings.handlerTimeout event other scope
      exact Prod.ext (touches.sender fun member => different (List.mem_singleton.mp member).symm)
        touches.now)
    once (scope.saying (unheard registry event))
  rw [publish_bus]
  refine (congrArg Prod.fst viewed).trans ?_
  split <;> rfl

/-! ### What deliveries log -/

/-- The records of an outcome: the logging handler's own one, and that of a failure. -/
def lines (event : Event) (operation : Option OperationContext) (outcome : Outcome) :
    List LogRecord :=
  (if outcome.isOf .logging then [LoggingHandler.recordFor event operation] else []) ++
    outcome.failure.toList.map (failureRecord event outcome.handler)

theorem log_delivery_of_invoked (category : Category) {scope left : Scope}
    {records : List LogRecord} {told : List Utterance} {failure : Option Failure}
    (invoked : (category.handler registry).invoke limit event scope = (left.saying told, failure))
    (memory : left.services.log = .memory records) :
    (delivery registry limit event category scope).2.services.log =
      .memory (records ++ (told.filterMap Utterance.line? ++
        failure.toList.map (failureRecord event (.ofCategory category event.eventType)))) := by
  rw [delivery_eq category invoked, Scope.log_saying memory, List.filterMap_append]
  cases failure <;> rfl

theorem log_delivery (registry : Registry) (limit : Option Duration) (event : Event)
    (category : Category) {scope : Scope} {records : List LogRecord}
    (memory : scope.services.log = .memory records) :
    (delivery registry limit event category scope).2.services.log =
      .memory (records ++
        lines event scope.operation? (delivery registry limit event category scope).1) := by
  cases category with
  | logging =>
      have invoked := LoggingHandler.invoke_eq limit event scope
      rw [log_delivery_of_invoked .logging invoked memory, delivery_eq .logging invoked, lines,
        Outcome.isOf_ofCategory]
      rfl
  | audit =>
      cases found : AuditHandler.due registry event scope.refusal? with
      | error error =>
          have invoked := AuditHandler.invoke_of_error registry limit event scope found
          rw [log_delivery_of_invoked .audit invoked memory, delivery_eq .audit invoked, lines,
        Outcome.isOf_ofCategory]
          rfl
      | ok record =>
          have invoked := AuditHandler.invoke_of_ok registry limit event scope found
          obtain ⟨_classified, accepts⟩ := (AuditHandler.due_eq_ok_iff _ _ _ _).mp found
          obtain ⟨_answer, _files, rest⟩ := Scope.recordAudit_of_accepted accepts
            (AuditHandler.inOperation record scope.operation?)
          rw [log_delivery_of_invoked .audit invoked ((congrArg (·.log) rest).trans memory),
            delivery_eq .audit invoked, lines,
        Outcome.isOf_ofCategory]
          rfl
  | notification =>
      obtain ⟨failure, left, notes, _plain, spec⟩ := NotificationHandler.invoke_spec limit event
        scope.services.notifications scope.services.now
      have invoked := spec scope rfl rfl
      rw [log_delivery_of_invoked .notification invoked memory, filterMap_line?_notes,
        delivery_eq .notification invoked, lines,
        Outcome.isOf_ofCategory]
      rfl
  | invalidation =>
      obtain ⟨failure, left, notes, _plain, spec⟩ := InvalidationHandler.invoke_spec limit event
        scope.services.sessions
      have invoked := spec scope rfl
      rw [log_delivery_of_invoked .invalidation invoked memory, filterMap_line?_notes,
        delivery_eq .invalidation invoked, lines,
        Outcome.isOf_ofCategory]
      rfl

theorem log_deliveries (categories : List Category) {scope : Scope} {records : List LogRecord}
    (memory : scope.services.log = .memory records) :
    (deliveries registry limit event categories scope).2.services.log =
      .memory (records ++ (deliveries registry limit event categories scope).1.flatMap
        (lines event scope.operation?)) := by
  induction categories generalizing scope records with
  | nil => exact memory.trans (congrArg LogSink.memory (List.append_nil records).symm)
  | cons category rest ih =>
      have later := ih (log_delivery registry limit event category memory)
      rw [(delivery_files registry limit event category scope).operation?] at later
      rw [deliveries_cons, List.flatMap_cons, ← List.append_assoc]
      exact later

/-- Records are accepted, the sender keeps in memory what it sends, and the store is
available. -/
structure Available (scope : Scope) : Prop where
  accepts : scope.refusal? = none
  sender : scope.services.notifications.delivery = .memory
  store : scope.services.sessions.outage = none

theorem Available.saying {scope : Scope} (available : Available scope) (told : List Utterance) :
    Available (scope.saying told) :=
  ⟨available.accepts, available.sender, available.store⟩

theorem sender_delivery (registry : Registry) (limit : Option Duration) (event : Event)
    (category : Category) (scope : Scope) :
    (delivery registry limit event category scope).2.services.notifications.delivery =
      scope.services.notifications.delivery := by
  by_cases own : .notification = category
  · subst own
    rw [delivery_snd]
    exact (congrArg NotificationSender.delivery
      (NotificationHandler.sender_invoke limit event scope)).trans
        (NotificationSender.delivery_heed _ _ _)
  · exact congrArg NotificationSender.delivery ((delivery_touches registry limit event category
      scope).sender fun member => own (List.mem_singleton.mp member))

theorem outage_delivery (registry : Registry) (limit : Option Duration) (event : Event)
    (category : Category) (scope : Scope) :
    (delivery registry limit event category scope).2.services.sessions.outage =
      scope.services.sessions.outage := by
  by_cases own : .invalidation = category
  · subst own
    rw [delivery_snd]
    exact (congrArg SessionStore.outage
      (InvalidationHandler.sessions_invoke limit event scope)).trans (SessionStore.outage_heed _ _)
  · exact congrArg SessionStore.outage ((delivery_touches registry limit event category
      scope).store fun member => own (List.mem_singleton.mp member))

theorem Available.delivery {scope : Scope} (available : Available scope) (category : Category) :
    Available (delivery registry limit event category scope).2 where
  accepts :=
    (delivery_touches registry limit event category scope).refusal.trans available.accepts
  sender := (sender_delivery registry limit event category scope).trans available.sender
  store := (outage_delivery registry limit event category scope).trans available.store

def failure? (event : Event) : Category → Option Failure
  | .notification => NotificationHandler.refusal? event
  | .logging | .audit | .invalidation => none

/-- The handler of the category has a behaviour for the event. -/
structure Able (registry : Registry) (event : Event) (category : Category) : Prop where
  treats : category.treats event.eventType = true
  classified : category = .audit → ∃ record, AuditHandler.recordFor registry event = .ok record

theorem delivery_of_available {scope : Scope} (available : Available scope) {category : Category}
    (able : Able registry event category) :
    (delivery registry limit event category scope).1 =
      ⟨.ofCategory category event.eventType, failure? event category⟩ := by
  rw [delivery_fst]
  congr 1
  cases category with
  | logging => rfl
  | audit =>
      obtain ⟨record, classified⟩ := able.classified rfl
      have due := (AuditHandler.due_eq_ok_iff registry event _ record).mpr
        ⟨classified, available.accepts⟩
      exact congrArg Prod.snd (AuditHandler.invoke_of_ok registry limit event scope due)
  | notification =>
      apply NotificationHandler.failure_invoke limit available.sender
      rw [NotificationHandler.isSome_notificationFor?]
      exact able.treats
  | invalidation =>
      apply InvalidationHandler.failure_invoke limit available.store
      rw [InvalidationHandler.isSome_revocationFor?]
      exact able.treats

theorem deliveries_of_available {scope : Scope} (available : Available scope)
    {categories : List Category} (able : ∀ category ∈ categories, Able registry event category) :
    (deliveries registry limit event categories scope).1 =
      categories.map fun category =>
        ⟨.ofCategory category event.eventType, failure? event category⟩ := by
  induction categories generalizing scope with
  | nil => rfl
  | cons category rest ih =>
      obtain ⟨first, later⟩ := List.forall_mem_cons.mp able
      rw [deliveries_cons, List.map_cons, delivery_of_available available first,
        ih (available.delivery category) later]

theorem publish_of_available (settings : BusSettings)
    (able : ∀ category ∈ called registry event.eventType, Able registry event category)
    {scope : Scope} (available : Available scope) :
    ((bus registry settings).publish event scope).1 =
      ⟨event.id, event.eventType, (called registry event.eventType).map fun category =>
        ⟨.ofCategory category event.eventType, failure? event category⟩⟩ := by
  rw [publish_bus, deliveries_of_available (available.saying _) able]

theorem log_publish (registry : Registry) (settings : BusSettings) (event : Event)
    {scope : Scope} {records : List LogRecord} (memory : scope.services.log = .memory records) :
    ((bus registry settings).publish event scope).2.services.log =
      .memory (records ++ ((bus registry settings).publish event scope).1.outcomes.flatMap
        (lines event scope.operation?)) := by
  have opened : (scope.saying (unheard registry event)).services.log = .memory records := by
    rw [Scope.log_saying memory, unheard]
    split
    · exact congrArg LogSink.memory (List.append_nil records)
    · exact congrArg LogSink.memory (List.append_nil records)
  rw [publish_bus]
  exact log_deliveries (called registry event.eventType) opened

end Wiring
end WorkflowBus
