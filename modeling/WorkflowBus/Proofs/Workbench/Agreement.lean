/-
The registry, the handlers that are called, and the audit trail agree.

On a bus that strict wiring has handed out, the entry that owns an event's type decides
which handlers are called, and it is the same entry under which the audit handler
classifies the event.  So the trail gets one entry for each event that its owner wants
audited, in the order of publishing, and the log one record for each that its owner
wants logged.
-/

import WorkflowBus.Proofs.Wiring.Owner
import WorkflowBus.Proofs.Workbench.Publishing
import WorkflowBus.Registry.Catalog

namespace WorkflowBus

def Call.alone (event : Event) : Call where
  event := event
  session := none
  operation := none

def Registry.ownerRequiring? (registry : Registry) (category : Category) (event : Event) :
    Option Entry :=
  (registry.owner? event.eventType).filter fun entry => entry.requires category

theorem Services.exchanged_withTraces (services : Services) (traces : List Trace) :
    (services.withTraces traces).exchanged = services.exchanged.withTraces traces := by
  obtain ⟨collaborators, aside, ids, now, earlier, journal⟩ := services
  cases aside <;> rfl

theorem AuditTrail.appendAll_added (trail : AuditTrail) (now : Instant)
    (written : List (Uuid × AuditRecord)) :
    ∃ added, (trail.appendAll now written).entries = trail.entries ++ added ∧
      added.map AuditEntry.record = written.map Prod.snd := by
  obtain ⟨added, extended⟩ := trail.entries_isPrefix_appendAll now written
  refine ⟨added, extended.symm, ?_⟩
  have records := trail.records_appendAll now written
  rw [← extended, List.map_append] at records
  exact List.append_cancel_left records

namespace Workbench

open Wiring

/-- The answer to an event is as the owner of its type calls for: its handlers are
called in the order of the categories, and neither the logging handler nor the audit
handler fails.  Without an owner none is called. -/
structure AnsweredAsOwned (registry : Registry) (event : Event)
    (answer : Except WorkbenchError PublishReport) : Prop where
  reported : ∃ outcomes, answer = .ok ⟨event.id, event.eventType, outcomes⟩
  owned : ∀ entry, registry.owner? event.eventType = some entry →
    (outcomes answer).map Outcome.handler =
      (Category.all.filter fun category =>
        entry.requires category && category.appliesTo event.eventType).map
          fun category => .ofCategory category event.eventType
  unowned : registry.owner? event.eventType = none → outcomes answer = []
  unfailing : ∀ outcome ∈ outcomes answer,
    outcome.isOf .logging = true ∨ outcome.isOf .audit = true → outcome.isCompleted = true

def auditRecords (registry : Registry) (events : List Event) : List AuditRecord :=
  events.filterMap fun event =>
    (registry.ownerRequiring? .audit event).map fun entry => AuditHandler.recordOf entry event

def logRecords (registry : Registry) (events : List Event) : List LogRecord :=
  events.filterMap fun event =>
    (registry.ownerRequiring? .logging event).map fun _entry => LoggingHandler.recordFor event none

variable {entries : List Entry} {settings : BusSettings}

theorem filings_alone (regular : (Registry.ofEntries entries).Regular) (event : Event) :
    (called (.ofEntries entries) event.eventType).flatMap
        (filings (.ofEntries entries) event none none) =
      auditRecords (.ofEntries entries) [event] := by
  rw [auditRecords, List.filterMap_cons, List.filterMap_nil, Registry.ownerRequiring?]
  cases owned : (Registry.ofEntries entries).owner? event.eventType with
  | none =>
      rw [called_of_unowned owned]
      rfl
  | some entry =>
      rw [filings_of_owner regular owned, Option.filter_some]
      cases entry.requires .audit <;> rfl

theorem logged_alone (regular : (Registry.ofEntries entries).Regular) (event : Event) :
    List.replicate ((called (.ofEntries entries) event.eventType).count .logging)
        (LoggingHandler.recordFor event none) =
      logRecords (.ofEntries entries) [event] := by
  rw [logRecords, List.filterMap_cons, List.filterMap_nil, Registry.ownerRequiring?]
  cases owned : (Registry.ofEntries entries).owner? event.eventType with
  | none =>
      rw [called_of_unowned owned]
      rfl
  | some entry =>
      rw [count_logging_of_owner regular owned, Option.filter_some]
      cases entry.requires .logging <;> rfl

theorem mem_called_of_isOf {registry : Registry} {eventType : EventType} {category : Category}
    {report : PublishReport}
    (invoked : report.invoked =
      (called registry eventType).map fun category => .ofCategory category eventType)
    {outcome : Outcome} (member : outcome ∈ report.outcomes)
    (own : outcome.isOf category = true) : category ∈ called registry eventType := by
  have handler : outcome.handler ∈ report.invoked := List.mem_map_of_mem member
  rw [invoked] at handler
  obtain ⟨other, present, same⟩ := List.mem_map.mp handler
  have found : outcome.handler.category? = some category := eq_of_beq own
  rw [← same, HandlerId.category?_ofCategory] at found
  cases found
  exact present

theorem publish_alone_eq {registry : Registry} {bench : Workbench}
    (wired : bench.deployment.bus = Wiring.bus registry settings) (event : Event) :
    (bench.publish (.alone event)).1 =
        .ok ((Wiring.bus registry settings).publish event (bench.scope none)).1 ∧
      (bench.publish (.alone event)).2.scope none =
        ((Wiring.bus registry settings).publish event (bench.scope none)).2 := by
  have lent : bench.lent? (.alone event) = .ok none := rfl
  have context := (publish_spec registry settings event (bench.scope none)).files.context
  rw [publish_of_lent lent, wired]
  refine ⟨rfl, ?_⟩
  rw [scope, atWork_resume]
  exact congrArg (Scope.mk _) context.symm

theorem publish_alone (regular : (Registry.ofEntries entries).Regular) {bench : Workbench}
    (wired : bench.deployment.bus = Wiring.bus (.ofEntries entries) settings)
    (available : bench.atWork.audit.outage = none) (event : Event) :
    AnsweredAsOwned (.ofEntries entries) event (bench.publish (.alone event)).1 ∧
      Scope.Files (auditRecords (.ofEntries entries) [event]) (bench.scope none)
        ((bench.publish (.alone event)).2.scope none) ∧
      Voice.Gains (logRecords (.ofEntries entries) [event]) bench.atWork.voice
        (bench.publish (.alone event)).2.atWork.voice := by
  have accepts : (bench.scope none).refusal? = none :=
    congrArg (Option.map AuditError.unavailable) available
  have untold : (bench.scope none).operation? = none := rfl
  have spec := publish_spec (.ofEntries entries) settings event (bench.scope none)
  obtain ⟨answered, after⟩ := publish_alone_eq wired event
  generalize (Wiring.bus (.ofEntries entries) settings).publish event (bench.scope none) =
    published at spec answered after
  have files := spec.files
  have gains := spec.gains
  rw [accepts, untold, filings_alone regular] at files
  rw [untold, logged_alone regular, ← after] at gains
  rw [answered, after]
  refine ⟨?_, files, gains⟩
  exact
    { reported := by
        refine ⟨published.1.outcomes, ?_⟩
        rw [← spec.eventId, ← spec.eventType]
      owned := by
        intro entry owned
        rw [← Entry.categoriesFor, ← called_of_owner regular owned]
        exact spec.invoked
      unowned := by
        intro unowned
        have invoked := spec.invoked
        rw [called_of_unowned unowned] at invoked
        exact List.map_eq_nil_iff.mp invoked
      unfailing := by
        intro outcome member either
        have completes := spec.completes outcome member
        rcases either with logs | audits
        · exact completes.logging logs
        · -- The owner that has the audit handler called also classifies the event.
          rw [completes.audit audits, accepts]
          obtain ⟨record, classified⟩ :=
            recordFor_of_called regular (mem_called_of_isOf spec.invoked member audits)
          exact ⟨record, (AuditHandler.due_eq_ok_iff _ _ _ _).mpr ⟨classified, rfl⟩⟩ }

/-! ### Runs -/

theorem publishAll_alone (regular : (Registry.ofEntries entries).Regular) {bench : Workbench}
    (wired : bench.deployment.bus = Wiring.bus (.ofEntries entries) settings)
    (available : bench.atWork.audit.outage = none) (events : List Event) :
    let (transcript, after) := bench.publishAll (events.map .alone)
    List.Forall₂ (AnsweredAsOwned (.ofEntries entries)) events (transcript.map Prod.snd) ∧
      Scope.Files (auditRecords (.ofEntries entries) events) (bench.scope none)
        (after.scope none) ∧
      Voice.Gains (logRecords (.ofEntries entries) events) bench.atWork.voice
        after.atWork.voice := by
  induction events generalizing bench with
  | nil => exact ⟨.nil, .of_eq rfl rfl rfl rfl, .refl bench.atWork.voice⟩
  | cons event rest ih =>
      obtain ⟨answered, files, gains⟩ := publish_alone regular wired available event
      have stillWired := (publish_effect wired (.alone event)).bus.trans wired
      have stillAvailable : (bench.publish (.alone event)).2.atWork.audit.outage = none := by
        have audit : (bench.publish (.alone event)).2.atWork.audit = _ := files.audit
        rw [audit]
        exact (AuditTrail.appendAll_outage _ _ _).trans available
      obtain ⟨answers, filesRest, gainsRest⟩ := ih stillWired stillAvailable
      rw [List.map_cons, publishAll_cons]
      refine ⟨.cons answered answers, ?_, ?_⟩
      · have split : auditRecords (.ofEntries entries) (event :: rest) =
            auditRecords (.ofEntries entries) [event] ++
              auditRecords (.ofEntries entries) rest := by
          rw [auditRecords, auditRecords, auditRecords, ← List.filterMap_append]
          rfl
        rw [split]
        exact files.trans filesRest
      · have split : logRecords (.ofEntries entries) (event :: rest) =
            logRecords (.ofEntries entries) [event] ++ logRecords (.ofEntries entries) rest := by
          rw [logRecords, logRecords, logRecords, ← List.filterMap_append]
          rfl
        rw [split]
        exact gains.trans gainsRest

theorem publish_unowned {bench : Workbench}
    (wired : bench.deployment.bus = Wiring.bus (.ofEntries entries) settings) {event : Event}
    (unowned : (Registry.ofEntries entries).owner? event.eventType = none) :
    bench.publish (.alone event) =
      (.ok ⟨event.id, event.eventType, []⟩,
        bench.mapServices (·.withTraces [EventBus.unheardTrace event])) := by
  have lent : bench.lent? (.alone event) = .ok none := rfl
  have nobody := called_of_unowned unowned
  have published : (Wiring.bus (.ofEntries entries) settings).publish event (bench.scope none) =
      (⟨event.id, event.eventType, []⟩,
        ⟨bench.atWork.withTraces [EventBus.unheardTrace event], none⟩) := by
    rw [publish_bus, unheard, nobody]
    rfl
  have services : (bench.atWork.withTraces [EventBus.unheardTrace event]).exchanged =
      bench.services.withTraces [EventBus.unheardTrace event] := by
    rw [Services.exchanged_withTraces, atWork, Services.exchanged_exchanged]
  rw [publish_of_lent lent, wired]
  change (Except.ok ((Wiring.bus (.ofEntries entries) settings).publish event
    (bench.scope none)).1, bench.resume (.alone event)
      ((Wiring.bus (.ofEntries entries) settings).publish event (bench.scope none)).2) = _
  rw [published]
  simp only [resume, takeBack, services]
  rfl

/-- The registry, the dispatch and the audit trail agree.  Let strict wiring have handed
out a bus, and let the trail that it works with be available.  Then over every list of
events, published without a context, each event is treated by the handlers that the
owner of its type calls for, in the order of the categories, and the logging and audit
handlers never fail.  The trail gets one entry for each event whose owner requires
audit, in the order of publishing, under the owner's action for its type; the log gets
one record for each event whose owner requires logging; and an event without an owner
changes nothing at any time. -/
theorem publishAll_agrees_with_registry (entries : List Entry) (settings : BusSettings)
    (bus : EventBus) (services : Services) (events : List Event)
    (strict : settings.strictWiring = true)
    (built : Wiring.build (.ofEntries entries) settings = .ok bus)
    (available : services.exchanged.audit.outage = none) :
    let registry := Registry.ofEntries entries
    let bench := ofDeployment ⟨registry, bus, services⟩
    let (transcript, after) := bench.publishAll (events.map .alone)
    List.Forall₂ (AnsweredAsOwned registry) events (transcript.map Prod.snd) ∧
      (∃ added, after.atWork.audit.entries = bench.atWork.audit.entries ++ added ∧
        added.map (fun entry => (entry.record.eventId, entry.record.action)) =
          events.filterMap fun event =>
            (registry.ownerRequiring? .audit event).map fun owner =>
              (event.id, owner.auditActionFor event.eventType)) ∧
      Voice.Gains (logRecords registry events) bench.atWork.voice after.atWork.voice ∧
      ∀ event, registry.owner? event.eventType = none →
        after.publish (.alone event) =
          (.ok ⟨event.id, event.eventType, []⟩,
            after.mapServices (·.withTraces [EventBus.unheardTrace event])) := by
  intro registry bench
  obtain ⟨same, regular⟩ := regular_of_build strict built
  have wired : bench.deployment.bus = Wiring.bus registry settings := same
  obtain ⟨answers, files, gains⟩ := publishAll_alone regular wired available events
  have stillWired := bus_publishAll wired (events.map .alone)
  refine ⟨answers, ?_, gains, fun event unowned => publish_unowned stillWired unowned⟩
  have audit : (bench.publishAll (events.map .alone)).2.atWork.audit = _ := files.audit
  obtain ⟨added, extended, records⟩ := AuditTrail.appendAll_added bench.atWork.audit
    bench.atWork.now (bench.atWork.ids.stamp (auditRecords registry events))
  refine ⟨added, ?_, ?_⟩
  · rw [audit]
    exact extended
  · have classified := congrArg
      (List.map fun record : AuditRecord => (record.eventId, record.action)) records
    rw [IdSupply.stamp_records, auditRecords, List.map_filterMap, List.map_map] at classified
    refine classified.trans (congrArg (List.filterMap · events) ?_)
    funext event
    exact Option.map_map _ _ _

/-- A login that is attempted leaves an entry in the trail of the standard catalog, and
the activity of its session leaves none. -/
theorem login_attempt_leaves_one_entry :
    BusSettings.default.strict.strictWiring = true ∧
      Wiring.build Catalog.registry BusSettings.default.strict =
        .ok (Wiring.bus Catalog.registry BusSettings.default.strict) ∧
      (Services.start .inProcess .numbered .epoch).exchanged.audit.outage = none ∧
      ((ofDeployment ⟨Catalog.registry, Wiring.bus Catalog.registry BusSettings.default.strict,
          Services.start .inProcess .numbered .epoch⟩).publishAll
        ([⟨.numbered 1, .epoch, .lifecycle (.userLoginAttempted "user@example.org")⟩,
          ⟨.numbered 2, .epoch,
            .telemetry (.sessionActivityUpdated (.numbered 4) (.numbered 3) none)⟩].map
          Call.alone)).2.atWork.audit.entries.map
            (fun entry => (entry.record.eventId, entry.record.action)) =
        [(.numbered 1, "auth.login.attempted")] := by
  have built : Wiring.build Catalog.registry BusSettings.default.strict =
      .ok (Wiring.bus Catalog.registry BusSettings.default.strict) :=
    build_strict_of_nothing rfl (by decide +kernel) rfl
  refine ⟨rfl, built, rfl, ?_⟩
  -- The events are named, or the whole run is evaluated when the theorem is applied.
  generalize listed : [(⟨.numbered 1, .epoch,
      .lifecycle (.userLoginAttempted "user@example.org")⟩ : Event),
    ⟨.numbered 2, .epoch,
      .telemetry (.sessionActivityUpdated (.numbered 4) (.numbered 3) none)⟩] = events
  obtain ⟨_answers, ⟨added, extended, classified⟩, _rest⟩ :=
    publishAll_agrees_with_registry Catalog.entries BusSettings.default.strict _
      (Services.start .inProcess .numbered .epoch) events rfl built rfl
  refine (congrArg (List.map _) extended).trans (classified.trans ?_)
  subst listed
  rfl

end Workbench
end WorkflowBus
