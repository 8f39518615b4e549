/-
What is told.

Log records and traces are told one after the other.  A sink in memory keeps the
records; one that keeps nothing shows them among the traces.  The records of the
logging handler are known by their headlines.
-/

import Mathlib.Data.List.Forall2
import WorkflowBus.Handler.Category
import WorkflowBus.Proofs.Bus.Table

namespace WorkflowBus

inductive Utterance where
  | line (record : LogRecord)
  | note (trace : Trace)

abbrev Voice := LogSink × List Trace

namespace Voice

def tell (voice : Voice) : Utterance → Voice
  | .line record => ((voice.1.emit record).1, voice.2 ++ (voice.1.emit record).2)
  | .note trace => (voice.1, voice.2 ++ [trace])

def tellAll (voice : Voice) (told : List Utterance) : Voice :=
  told.foldl tell voice

theorem tellAll_append (voice : Voice) (first second : List Utterance) :
    voice.tellAll (first ++ second) = (voice.tellAll first).tellAll second :=
  List.foldl_append

theorem tellAll_traces (voice : Voice) (traces : List Trace) :
    voice.tellAll (traces.map .note) = (voice.1, voice.2 ++ traces) := by
  induction traces generalizing voice with
  | nil => exact congrArg (Prod.mk voice.1) (List.append_nil voice.2).symm
  | cons trace rest ih =>
      have later := ih (voice.tell (.note trace))
      simp only [tell, List.append_assoc, List.singleton_append] at later
      exact later

end Voice

def Services.voice (services : Services) : Voice :=
  (services.log, services.traces)

theorem LogRecord.message_field? (record : LogRecord) (key : String) (value : Option String) :
    (record.field? key value).message = record.message := by
  cases value <;> rfl

theorem LogRecord.get?_field (record : LogRecord) (key other value : String) :
    (record.field key value).get? other =
      (record.get? other).or (if other = key then some value else none) := by
  simp only [get?, field, List.lookup_append, List.lookup_cons, List.lookup_nil]
  by_cases same : other = key
  · rw [if_pos same, same, beq_self_eq_true]
  · rw [if_neg same, beq_eq_false_iff_ne.mpr same]

theorem LogRecord.get?_field? (record : LogRecord) (key other : String) (value : Option String) :
    (record.field? key value).get? other =
      (record.get? other).or (if other = key then value else none) := by
  cases value with
  | some value => exact record.get?_field key other value
  | none => rw [ite_self, Option.or_none, field?]

namespace LoggingHandler

def correlation? (operation : Option OperationContext) : Option String :=
  (operation.bind OperationContext.correlationId).map Uuid.text

theorem recordFor_eq (event : Event) (operation : Option OperationContext) :
    recordFor event operation =
      (recordFor event none).field? "correlation_id" (correlation? operation) :=
  rfl

theorem get?_recordFor (event : Event) (operation : Option OperationContext) :
    (recordFor event operation).get? "correlation_id" = correlation? operation := by
  have untold : (recordFor event none).get? "correlation_id" = none := by
    simp only [recordFor, LogRecord.get?_field?, LogRecord.get?_field]
    rfl
  rw [recordFor_eq, LogRecord.get?_field?, untold, if_pos rfl, Option.none_or]

theorem message_recordFor (event : Event) (operation : Option OperationContext) :
    (recordFor event operation).message = (headline event.eventType).2 := by
  simp only [recordFor, LogRecord.message_field?]
  rfl

def isHeadline (message : String) : Bool :=
  EventType.all.any fun eventType => (headline eventType).2 == message

end LoggingHandler

open LoggingHandler

namespace Utterance

def logged? : Utterance → Option LogRecord
  | .line record => if isHeadline record.message then some record else none
  | .note _ => none

/-- A trace of its own is not taken for a record of the logging handler. -/
def Plain : Utterance → Prop
  | .line _ => True
  | .note trace => isHeadline trace.message = false

end Utterance

namespace Voice

def logged (voice : Voice) : List LogRecord × List Trace :=
  (voice.1.records.filter fun record => isHeadline record.message,
    voice.2.filter fun trace => isHeadline trace.message)

end Voice

def LogSink.made (sink : LogSink) (records : List LogRecord) : List LogRecord × List Trace :=
  match sink with
  | .memory _ => (records, [])
  | .tracing => ([], records.map LogRecord.trace)

theorem LogSink.made_append (sink : LogSink) (first second : List LogRecord) :
    sink.made (first ++ second) =
      ((sink.made first).1 ++ (sink.made second).1,
        (sink.made first).2 ++ (sink.made second).2) := by
  cases sink with
  | memory records => rfl
  | tracing => exact congrArg (Prod.mk []) List.map_append

namespace Voice

/-- From one voice to the other, exactly the given records of the logging handler have
been added, in order. -/
structure Gains (records : List LogRecord) (before after : Voice) : Prop where
  logged : after.logged =
    (before.logged.1 ++ (before.1.made records).1, before.logged.2 ++ (before.1.made records).2)
  sink : after.1.made = before.1.made

theorem Gains.refl (voice : Voice) : Gains [] voice voice where
  logged := by
    obtain ⟨sink, traces⟩ := voice
    cases sink <;> simp only [LogSink.made, List.map_nil, List.append_nil]
  sink := rfl

theorem Gains.trans {first second : List LogRecord} {before between after : Voice}
    (gains : Gains first before between) (later : Gains second between after) :
    Gains (first ++ second) before after where
  logged := by
    rw [later.logged, gains.logged, gains.sink, LogSink.made_append, List.append_assoc,
      List.append_assoc]
  sink := later.sink.trans gains.sink

theorem gains_tell (voice : Voice) (utterance : Utterance) (plain : utterance.Plain) :
    Gains utterance.logged?.toList voice (voice.tell utterance) where
  logged := by
    obtain ⟨sink, traces⟩ := voice
    cases utterance with
    | note trace =>
        cases sink <;>
          simp only [tell, logged, LogSink.made, Utterance.logged?, Option.toList_none,
            List.map_nil, List.append_nil, List.filter_append, List.filter_cons, List.filter_nil,
            show isHeadline trace.message = false from plain, Bool.false_eq_true, if_false]
    | line record =>
        cases sink with
        | memory records =>
            simp only [tell, logged, LogSink.emit, LogSink.made, LogSink.records,
              List.filter_append, List.append_nil, Utterance.logged?, List.filter_cons,
              List.filter_nil]
            split <;> rfl
        | tracing =>
            -- The trace that shows a record bears its message, so the filter sees it too.
            simp only [tell, logged, LogSink.emit, LogSink.made, LogSink.records,
              List.filter_append, List.append_nil, Utterance.logged?, List.filter_cons,
              List.filter_nil, LogRecord.trace]
            split <;> rfl
  sink := by
    obtain ⟨sink, traces⟩ := voice
    cases utterance <;> cases sink <;> rfl

theorem gains_tellAll (voice : Voice) (told : List Utterance)
    (plain : ∀ utterance ∈ told, utterance.Plain) :
    Gains (told.filterMap Utterance.logged?) voice (voice.tellAll told) := by
  induction told generalizing voice with
  | nil => exact .refl voice
  | cons utterance rest ih =>
      obtain ⟨first, later⟩ := List.forall_mem_cons.mp plain
      have split : (utterance :: rest).filterMap Utterance.logged? =
          utterance.logged?.toList ++ rest.filterMap Utterance.logged? := by
        rw [List.filterMap_cons]
        cases utterance.logged? <;> rfl
      rw [split]
      exact (voice.gains_tell utterance first).trans (ih (voice.tell utterance) later)

end Voice

/-! ### What depends on the operation -/

/-- Two utterances are the same, or the logging handler's records of an event in two
operations, which differ in the correlation identifier. -/
inductive Utterance.Echoes (event : Event) (left right : Option OperationContext) :
    Utterance → Utterance → Prop
  | same (utterance : Utterance) : Echoes event left right utterance utterance
  | record : Echoes event left right
      (.line ((recordFor event none).field? "correlation_id" (correlation? left)))
      (.line ((recordFor event none).field? "correlation_id" (correlation? right)))

/-- Utterances for each operation that an event may be published in.  The logging
handler's record of the event is among them so many times; all else is the same in all
operations. -/
structure Speech (event : Event) (count : Nat) (told : Option OperationContext → List Utterance) :
    Prop where
  plain : ∀ operation, ∀ utterance ∈ told operation, utterance.Plain
  logged : ∀ operation, (told operation).filterMap Utterance.logged? =
    List.replicate count (recordFor event operation)
  echoes : ∀ left right,
    List.Forall₂ (Utterance.Echoes event left right) (told left) (told right)

namespace Speech

variable {event : Event}

theorem fixed (told : List Utterance)
    (silent : ∀ utterance ∈ told, utterance.Plain ∧ utterance.logged? = none) :
    Speech event 0 fun _ => told where
  plain := fun _ utterance member => (silent utterance member).1
  logged := by
    intro _operation
    rw [List.replicate_zero, List.filterMap_eq_nil_iff]
    exact fun utterance member => (silent utterance member).2
  echoes := fun left right => List.forall₂_same.mpr fun utterance _member => .same utterance

theorem record : Speech event 1 fun operation => [.line (recordFor event operation)] where
  plain := by
    intro operation utterance member
    cases List.mem_singleton.mp member
    trivial
  logged := by
    intro operation
    have headed : isHeadline (recordFor event operation).message = true := by
      rw [isHeadline, List.any_eq_true, message_recordFor]
      exact ⟨event.eventType, event.eventType.mem_all, beq_self_eq_true _⟩
    simp only [List.filterMap_cons, Utterance.logged?, headed, if_true, List.filterMap_nil]
    rfl
  echoes := fun _ _ => .cons .record .nil

theorem append {first second : Nat} {told later : Option OperationContext → List Utterance}
    (speech : Speech event first told) (further : Speech event second later) :
    Speech event (first + second) fun operation => told operation ++ later operation where
  plain := by
    intro operation utterance member
    rcases List.mem_append.mp member with earlier | last
    · exact speech.plain operation utterance earlier
    · exact further.plain operation utterance last
  logged := by
    intro operation
    rw [List.filterMap_append, speech.logged, further.logged, List.replicate_append_replicate]
  echoes := fun left right => List.rel_append (speech.echoes left right) (further.echoes left right)

end Speech
end WorkflowBus
