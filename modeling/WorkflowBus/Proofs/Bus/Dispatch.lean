/-
Dispatch is fail-open.

Publishing invokes every handler that is subscribed to exactly the event's type,
once per subscription and in order of subscription, whatever the handlers before
it did.  Each invocation finds what the one before it and the bus left.  The bus
reports one outcome per invocation, and adds one error record per failure to the
log sink between the two invocations.
-/

import WorkflowBus.Proofs.Bus.Table
import WorkflowBus.Proofs.Handler.Ending

namespace WorkflowBus
namespace EventBus

def reports (event : Event) (id : HandlerId) (failure : Option Failure) : List LogRecord :=
  failure.toList.map fun failure =>
    { level := .error
      message := "event handler failed"
      fields := [("event_type", event.eventType.className), ("event_id", event.id.text),
        ("handler", id.text), ("error", failure.message)] }

def completions (event : Event) (id : HandlerId) (failure : Option Failure) : List Trace :=
  if failure.isNone then [completedTrace event id] else []

/-- What the bus itself makes of the scope that an invocation left.  Its records go
to the end of the log sink, and its traces to the end of the traces; a sink that
keeps nothing shows its records as traces.  All else stays as it was left. -/
structure Accounted (event : Event) (id : HandlerId) (failure : Option Failure)
    (left next : Scope) : Prop where
  context : next.context = left.context
  services : next.services =
    { left.services with log := next.services.log, traces := next.services.traces }
  memory : ∀ records, left.services.log = .memory records →
    next.services.log = .memory (records ++ reports event id failure) ∧
      next.services.traces = left.services.traces ++ completions event id failure
  tracing : left.services.log = .tracing →
    next.services.log = .tracing ∧
      next.services.traces = left.services.traces ++
        (reports event id failure).map LogRecord.trace ++ completions event id failure

theorem account_accounted (event : Event) (outcome : Outcome) (left : Scope) :
    Accounted event outcome.handler outcome.failure left (account event outcome left) := by
  rcases outcome with ⟨id, failure⟩
  cases failure with
  | none =>
      exact
        { context := rfl
          services := rfl
          memory := by
            intro records sink
            exact ⟨sink.trans (congrArg LogSink.memory (List.append_nil records).symm), rfl⟩
          tracing := by
            intro sink
            refine ⟨sink, ?_⟩
            simp only [reports, Option.toList_none, List.map_nil, List.append_nil]
            rfl }
  | some failure =>
      have emitted (log : LogSink) (sink : left.services.log = log) :
          account event ⟨id, some failure⟩ left =
            { left with
              services :=
                { left.services with
                  log := (log.emit (failureRecord event id failure)).1
                  traces := left.services.traces ++
                    (log.emit (failureRecord event id failure)).2 } } := by
        simp only [account, Scope.mapServices, Services.emit, Services.withTraces, sink]
      exact
        { context := rfl
          services := rfl
          memory := by
            intro records sink
            rw [emitted _ sink]
            exact ⟨rfl, rfl⟩
          tracing := by
            intro sink
            rw [emitted _ sink]
            exact ⟨rfl, (List.append_nil _).symm⟩ }

/-- What came of the delivery of an event to a subscription whose handler found the
scope `seen`: its steps have an ending, and any ending that they have is the one
that is reported and accounted for before the next handler is invoked. -/
structure Delivered (limit : Option Duration) (event : Event) (subscription : Subscription)
    (seen : Scope) (outcome : Outcome) (next : Scope) : Prop where
  handler : outcome.handler = subscription.id
  ends : ∃ left ending, Handler.Ends limit 0 (subscription.handler event seen) seen left ending
  reported : ∀ left ending,
    Handler.Ends limit 0 (subscription.handler event seen) seen left ending →
      outcome.failure = ending.failure? ∧ Accounted event subscription.id outcome.failure left next
  completed : outcome.isCompleted = true ↔
    ∃ left, Handler.Ends limit 0 (subscription.handler event seen) seen left .returned

theorem deliver_delivered (limit : Option Duration) (event : Event) (subscription : Subscription)
    (seen : Scope) :
    Delivered limit event subscription seen (deliver limit event subscription seen).1
      (deliver limit event subscription seen).2 := by
  obtain ⟨ending, ends, told⟩ := subscription.handler.invoke_ends limit event seen
  have failure : (deliver limit event subscription seen).1.failure = ending.failure? := told
  have completed : (deliver limit event subscription seen).1.isCompleted = true ↔
      ending.failure? = none := by
    rw [Outcome.isCompleted, failure, Option.isNone_iff_eq_none]
  exact
    { handler := rfl
      ends := ⟨_, ending, ends⟩
      reported := by
        intro left other otherEnds
        have same : subscription.handler.invoke limit event seen = (left, other.failure?) :=
          Handler.run_of_ends otherEnds
        have delivered : deliver limit event subscription seen =
            (⟨subscription.id, other.failure?⟩,
              account event ⟨subscription.id, other.failure?⟩ left) := by
          simp only [deliver, same]
        rw [delivered]
        exact ⟨rfl, account_accounted event ⟨subscription.id, other.failure?⟩ left⟩
      completed := by
        rw [completed, ending.failure?_eq_none_iff]
        constructor
        · rintro rfl
          exact ⟨_, ends⟩
        · intro returning
          obtain ⟨left, returns⟩ := returning
          have same : subscription.handler.invoke limit event seen = (left, none) :=
            Handler.run_of_ends returns
          rw [same] at told
          exact ending.failure?_eq_none_iff.mp told.symm }

theorem deliverAll_delivered (limit : Option Duration) (event : Event)
    (subscriptions : List Subscription) (scope : Scope) :
    (deliverAll limit event subscriptions scope).1.length = subscriptions.length ∧
      ∃ seen : Nat → Scope,
        seen 0 = scope ∧
          seen subscriptions.length = (deliverAll limit event subscriptions scope).2 ∧
          ∀ position (within : position < subscriptions.length), ∃ outcome,
            (deliverAll limit event subscriptions scope).1[position]? = some outcome ∧
              Delivered limit event subscriptions[position] (seen position) outcome
                (seen (position + 1)) := by
  induction subscriptions generalizing scope with
  | nil => exact ⟨rfl, fun _ => scope, rfl, rfl, nofun⟩
  | cons subscription rest ih =>
      obtain ⟨lengths, seen, first, last, each⟩ := ih (deliver limit event subscription scope).2
      refine ⟨congrArg Nat.succ lengths, fun position => position.casesOn scope seen, rfl, last, ?_⟩
      intro position within
      cases position with
      | zero =>
          refine ⟨(deliver limit event subscription scope).1, rfl, ?_⟩
          simp only [List.getElem_cons_zero, first]
          exact deliver_delivered limit event subscription scope
      | succ position => exact each position (Nat.lt_of_succ_lt_succ within)

/-- Publishing is fail-open.  The outcomes are those of the subscriptions to exactly
the event's type, one each, in their order; each handler finds the scope that the
bus made of what the handler before it left, the first one the scope of the call,
and the last one's is the result.  Without subscribers there is no outcome, and
nothing but a trace is left. -/
theorem publish_delivers_to_all (bus : EventBus) (event : Event) (scope : Scope) :
    let subscribed :=
      bus.subscriptions.filter fun subscription => subscription.eventType = event.eventType
    let (report, after) := bus.publish event scope
    report.eventId = event.id ∧ report.eventType = event.eventType ∧
      report.outcomes.length = subscribed.length ∧
      (subscribed = [] →
        report.outcomes = [] ∧ after = scope.mapServices (·.withTraces [unheardTrace event])) ∧
      ∃ seen : Nat → Scope,
        (subscribed ≠ [] → seen 0 = scope) ∧ seen subscribed.length = after ∧
          ∀ position (within : position < subscribed.length), ∃ outcome,
            report.outcomes[position]? = some outcome ∧
              Delivered bus.settings.handlerTimeout event subscribed[position] (seen position)
                outcome (seen (position + 1)) := by
  intro subscribed
  have published : bus.publish event scope =
      (⟨event.id, event.eventType,
        (deliverAll bus.settings.handlerTimeout event subscribed
          (if subscribed.isEmpty then scope.mapServices (·.withTraces [unheardTrace event])
            else scope)).1⟩,
        (deliverAll bus.settings.handlerTimeout event subscribed
          (if subscribed.isEmpty then scope.mapServices (·.withTraces [unheardTrace event])
            else scope)).2) := by
    rw [publish_eq, subscriptionsTo_eq_filter]
  obtain ⟨lengths, seen, first, last, each⟩ :=
    deliverAll_delivered bus.settings.handlerTimeout event subscribed
      (if subscribed.isEmpty then scope.mapServices (·.withTraces [unheardTrace event]) else scope)
  rw [published]
  refine ⟨rfl, rfl, lengths, ?_, seen, ?_, last, each⟩
  · intro nobody
    rw [nobody]
    exact ⟨rfl, rfl⟩
  · intro somebody
    rw [first, if_neg (fun empty => somebody (List.isEmpty_iff.mp empty))]

end EventBus
end WorkflowBus
