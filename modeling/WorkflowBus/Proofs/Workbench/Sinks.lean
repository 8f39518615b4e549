/-
Runs over either log sink.

A run on a wired bus answers the same and leaves the same whether the log sink is in memory
or keeps nothing, and it tells the same: what the one keeps, the other shows in full.
-/

import WorkflowBus.Proofs.Log.Emission
import WorkflowBus.Proofs.Workbench.Publishing

namespace WorkflowBus

namespace Workbench

def withVoice (bench : Workbench) (voice : Voice) : Workbench :=
  bench.mapServices fun services => (services.exchanged.withVoice voice).exchanged

theorem scope_withVoice (bench : Workbench) (voice : Voice) (context : Option DispatchContext) :
    (bench.withVoice voice).scope context = (bench.scope context).withVoice voice :=
  congrArg (Scope.mk · context) (bench.atWork.withVoice voice).exchanged_exchanged

theorem resume_withVoice (bench : Workbench) (voice other : Voice) (call : Call) (left : Scope) :
    (bench.withVoice voice).resume call (left.withVoice other) =
      (bench.resume call left).withVoice other := by
  have services : (left.withVoice other).services =
      left.services.exchanged.exchanged.withVoice other := by
    rw [Services.exchanged_exchanged]
    rfl
  unfold resume takeBack
  rw [services]
  rfl

theorem publish_tellsInFull {bench : Workbench}
    (each : ∀ subscription ∈ bench.deployment.bus.subscriptions,
      subscription.handler.TellsInFull) (call : Call) :
    ∃ (told : List Utterance) (answer : Except WorkbenchError PublishReport) (next : Workbench),
      (∀ utterance ∈ told, utterance.ShownInFull) ∧
        next.deployment.bus = bench.deployment.bus ∧
        ∀ voice, (bench.withVoice voice).publish call =
          (answer, next.withVoice (voice.tellAll told)) := by
  cases lent : bench.lent? call with
  | error error =>
      exact ⟨[], .error error, bench, nofun, rfl, fun voice => publish_of_unlent lent⟩
  | ok context =>
      obtain ⟨told, report, left, full, published⟩ :=
        EventBus.publish_tellsInFull each call.event (bench.scope context)
      refine ⟨told, .ok report, bench.resume call left, full, rfl, ?_⟩
      intro voice
      have sameLent : (bench.withVoice voice).lent? call = .ok context := lent
      have sameBus : (bench.withVoice voice).deployment.bus = bench.deployment.bus := rfl
      rw [publish_of_lent sameLent, sameBus, scope_withVoice, published,
        ← resume_withVoice bench voice]

theorem publishAll_tellsInFull {bench : Workbench}
    (each : ∀ subscription ∈ bench.deployment.bus.subscriptions,
      subscription.handler.TellsInFull) (calls : List Call) :
    ∃ (told : List Utterance) (transcript : List (Call × Except WorkbenchError PublishReport))
        (after : Workbench),
      (∀ utterance ∈ told, utterance.ShownInFull) ∧
        ∀ voice, (bench.withVoice voice).publishAll calls =
          (transcript, after.withVoice (voice.tellAll told)) := by
  induction calls generalizing bench with
  | nil => exact ⟨[], [], bench, nofun, fun _voice => rfl⟩
  | cons call rest ih =>
      obtain ⟨told, answer, next, full, sameBus, published⟩ := publish_tellsInFull each call
      obtain ⟨later, transcript, after, laterFull, run⟩ := ih (sameBus.symm ▸ each)
      refine ⟨told ++ later, (call, answer) :: transcript, after,
        List.forall_mem_append.mpr ⟨full, laterFull⟩, ?_⟩
      intro voice
      rw [publishAll_cons, published, run, Voice.tellAll_append]

end Workbench

/-- Both log sinks show the same records.  The logging handler emits one record for every
event and in every context, and the bus one for every failure of a handler; these records
are shown in full: no key is repeated, the members of the object are the fields of the
record, each key has the value that the record tells, and a trace that shows the record has
that object as its text.  So a run on a wired bus comes to the same over a sink in memory and
over one that keeps nothing, and what the one keeps is what the other shows.

A record of any fields and its object tell of the same keys.  They tell the same exactly
if the first and the last value of each key are equal. -/
theorem LogSink.show_alike :
    (∀ (limit : Option Duration) (event : Event) (scope : Scope),
      let record := LoggingHandler.recordFor event scope.operation?
      LoggingHandler.handler.invoke limit event scope = (scope.saying [.line record], none) ∧
        record.ShownInFull) ∧
    (∀ (bus : EventBus) (event : Event) (scope : Scope),
      let (report, after) := bus.publish event scope
      ∃ notes : List Trace,
        EventBus.Logs bus.settings.handlerTimeout event (bus.subscriptionsTo event.eventType)
          (scope.saying (notes.map .note)) report.outcomes after) ∧
    (∀ (registry : Registry) (settings : BusSettings) (services : Services)
        (sessions : List (String × AuditSession)) (calls : List Call),
      let bench := Workbench.wired registry settings services sessions
      ∃ (told : List Utterance) (transcript : List (Call × Except WorkbenchError PublishReport))
          (after : Workbench),
        (∀ utterance ∈ told, utterance.ShownInFull) ∧
          ∀ records traces,
            (bench.withVoice (.memory records, traces)).publishAll calls =
                (transcript, after.withVoice
                  (.memory (records ++ told.filterMap Utterance.line?),
                    traces ++ told.filterMap Utterance.note?)) ∧
              (bench.withVoice (.tracing, traces)).publishAll calls =
                (transcript, after.withVoice (.tracing, traces ++ told.map Utterance.shown))) ∧
    (∀ (level : LogLevel) (message : String) (fields : List (String × String)),
      let record := LogRecord.ofFields level message fields
      (∀ key, (record.get? key).isSome = (record.fieldsJson.get? key).isSome) ∧
        ((∀ key, record.fieldsJson.get? key = (record.get? key).map Json.str) ↔
          ∀ key, (LogRecord.attached key fields).head? =
            (LogRecord.attached key fields).getLast?)) := by
  refine ⟨?logging, EventBus.publish_logs, ?runs, ?anyFields⟩
  case logging =>
    intro limit event scope
    exact ⟨LoggingHandler.invoke_eq limit event scope,
      LoggingHandler.recordFor_shownInFull event scope.operation?⟩
  case runs =>
    intro registry settings services sessions calls bench
    have each : ∀ subscription ∈ bench.deployment.bus.subscriptions,
        subscription.handler.TellsInFull :=
      Wiring.forall_handler_bus settings fun category => category.handler_tellsInFull registry
    obtain ⟨told, transcript, after, full, run⟩ :=
      Workbench.publishAll_tellsInFull each calls
    refine ⟨told, transcript, after, full, ?_⟩
    intro records traces
    rw [run, run, Voice.tellAll_memory, Voice.tellAll_tracing]
    exact ⟨rfl, rfl⟩
  case anyFields =>
    intro level message fields record
    have attachedAll : record.fields = fields := LogRecord.fields_ofFields level message fields
    refine ⟨record.isSome_get?_eq, forall_congr' fun key => ?_⟩
    rw [← attachedAll]
    exact record.get?_fieldsJson_eq_iff key

end WorkflowBus
