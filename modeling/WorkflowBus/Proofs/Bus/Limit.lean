/-
The time that each handler has.

A handler that is let go on waits for some time in all and comes to an ending of its own.  A
limit changes neither unless the waiting goes beyond it, and then it cuts the invocation off at
one wait: what was done before that wait stays done.  A wait that ends just at the limit is
within it.  Every handler of a publish call has the whole limit to itself.
-/

import WorkflowBus.Proofs.Bus.Table
import WorkflowBus.Proofs.Handler.Ending

namespace WorkflowBus
namespace Handler

/-- How long an invocation waits that nothing cuts off: its waits up to the action that ends it,
if one does. -/
def slept : List HandlerStep → Scope → Nat
  | [], _ => 0
  | .wait duration :: rest, scope => duration.milliseconds + slept rest scope
  | .act action :: rest, scope =>
      match action scope with
      | (next, none) => slept rest next
      | (_, some _) => 0

/-- No ending of its own looks like one that a limit makes. -/
theorem run_none_ne_timedOut (waited : Nat) (steps : List HandlerStep) (scope : Scope)
    (bound : Duration) : (run none waited steps scope).2 ≠ some (.timedOut bound) := by
  obtain ⟨ending, ends, told⟩ := run_ends none waited steps scope nofun
  rw [told]
  cases ends with
  | returned within well => exact nofun
  | @faulted before after action reached fault split within well fails =>
      cases fault <;> exact nofun
  | cutOff before after split within well limited beyond => cases limited

theorem slept_of_acts {steps : List HandlerStep}
    (acts : ∀ step ∈ steps, ∃ action, step = .act action) (scope : Scope) :
    slept steps scope = 0 := by
  induction steps generalizing scope with
  | nil => rfl
  | cons step rest ih =>
      obtain ⟨⟨action, same⟩, others⟩ := List.forall_mem_cons.mp acts
      subst same
      simp only [slept]
      split
      · exact ih others _
      · rfl

/-! ### Invocations under a limit -/

theorem run_of_slept_le {limit : Duration} {waited : Nat} {steps : List HandlerStep} {scope : Scope}
    (fits : waited + slept steps scope ≤ limit.milliseconds) :
    run (some limit) waited steps scope = run none waited steps scope := by
  induction steps generalizing waited scope with
  | nil => rfl
  | cons step rest ih =>
      cases step with
      | wait duration =>
          rw [slept, ← Nat.add_assoc] at fits
          have soFar : exceeds (waited + duration.milliseconds) (some limit) = none :=
            if_neg (by omega)
          simp only [run, soFar]
          exact ih fits
      | act action =>
          simp only [slept] at fits
          simp only [run]
          split
          case h_1 next acts =>
            rw [acts] at fits
            exact ih fits
          case h_2 => rfl

theorem ends_of_lt_slept {limit : Duration} {waited : Nat} {steps : List HandlerStep}
    {scope : Scope}
    (within : waited ≤ limit.milliseconds)
    (beyond : limit.milliseconds < waited + slept steps scope) :
    ∃ left, Ends (some limit) waited steps scope left (.cutOff limit) := by
  have soFar {total : Nat} (fits : total ≤ limit.milliseconds) : Within (some limit) total := by
    intro bound same
    cases same
    exact fits
  induction steps generalizing waited scope with
  | nil => exact absurd beyond (Nat.not_lt.mpr within)
  | cons step rest ih =>
      cases step with
      | wait duration =>
          by_cases crosses : limit.milliseconds < waited + duration.milliseconds
          · exact ⟨scope, .cutOff [] rest rfl (soFar within) rfl rfl crosses⟩
          · rw [slept, ← Nat.add_assoc] at beyond
            obtain ⟨left, ends⟩ := ih (Nat.not_lt.mp crosses) beyond
            exact ⟨left, ends.afterWait duration⟩
      | act action =>
          simp only [slept] at beyond
          split at beyond
          case h_1 next acts =>
            obtain ⟨left, ends⟩ := ih within beyond
            exact ⟨left, ends.afterAct action acts⟩
          case h_2 => exact absurd beyond (Nat.not_lt.mpr within)

/-- What a limit makes of an invocation, given what becomes of it without one: it times out if
and only if by itself it would wait for longer, and otherwise ends as it does by itself.  If it
times out, exactly what stands before the wait that crosses the limit has been done. -/
structure Limited (limit : Duration) (steps : List HandlerStep) (scope : Scope)
    (result own : Scope × Option Failure) : Prop where
  timedOut_iff :
    result.2 = some (.timedOut limit) ↔ limit.milliseconds < slept steps scope
  undisturbed : slept steps scope ≤ limit.milliseconds → result = own
  cutOff : limit.milliseconds < slept steps scope → ∃ before duration after,
    steps = before ++ .wait duration :: after ∧
      waiting before ≤ limit.milliseconds ∧
      limit.milliseconds < waiting before + duration.milliseconds ∧
      goneWell? before scope = some result.1

/-- Nothing cuts an invocation off: it returns after all of its steps, or ends at an action with
an error or a panic, and this is what is told of it. -/
structure EndsByItself (steps : List HandlerStep) (scope : Scope)
    (result : Scope × Option Failure) : Prop where
  ends : (Ends none 0 steps scope result.1 .returned ∧ result.2 = none) ∨
    (∃ error, Ends none 0 steps scope result.1 (.faulted (.answered error)) ∧
      result.2 = some (.answered error)) ∨
    ∃ panic, Ends none 0 steps scope result.1 (.faulted (.panicked panic)) ∧
      result.2 = some (.panicked panic.message)
  only : ∀ left ending, Ends none 0 steps scope left ending → result = (left, ending.failure?)

theorem invoke_endsByItself (handler : Handler) (event : Event) (scope : Scope) :
    EndsByItself (handler event scope) scope (handler.invoke none event scope) where
  ends := by
    obtain ⟨ending, ends, told⟩ := handler.invoke_ends none event scope
    rw [told]
    cases ending with
    | returned => exact Or.inl ⟨ends, rfl⟩
    | faulted fault =>
        cases fault with
        | answered error => exact Or.inr (Or.inl ⟨error, ends, rfl⟩)
        | panicked panic => exact Or.inr (Or.inr ⟨panic, ends, rfl⟩)
    | cutOff bound =>
        cases ends with
        | cutOff _ _ _ _ _ limited => cases limited
  only := fun _left _ending => run_of_ends

theorem invoke_of_slept_le (handler : Handler) {limit : Duration} {event : Event} {scope : Scope}
    (fits : slept (handler event scope) scope ≤ limit.milliseconds) :
    handler.invoke (some limit) event scope = handler.invoke none event scope := by
  apply run_of_slept_le
  rwa [Nat.zero_add]

theorem lt_slept_of_timedOut (handler : Handler) {limit bound : Duration} {event : Event}
    {scope : Scope}
    (timedOut : (handler.invoke (some limit) event scope).2 = some (.timedOut bound)) :
    limit.milliseconds < slept (handler event scope) scope := by
  apply Nat.lt_of_not_le
  intro fits
  rw [invoke_of_slept_le handler fits] at timedOut
  exact run_none_ne_timedOut 0 _ scope bound timedOut

theorem invoke_limited (handler : Handler) (limit : Duration) (event : Event) (scope : Scope) :
    Limited limit (handler event scope) scope (handler.invoke (some limit) event scope)
      (handler.invoke none event scope) := by
  have ends (beyond : limit.milliseconds < slept (handler event scope) scope) :
      ∃ left, Ends (some limit) 0 (handler event scope) scope left (.cutOff limit) := by
    apply ends_of_lt_slept (Nat.zero_le _)
    rwa [Nat.zero_add]
  refine ⟨⟨lt_slept_of_timedOut handler, ?_⟩, invoke_of_slept_le handler, ?_⟩
  · intro beyond
    obtain ⟨left, ends⟩ := ends beyond
    exact congrArg Prod.snd (run_of_ends ends)
  · intro beyond
    obtain ⟨left, ends⟩ := ends beyond
    have result : handler.invoke (some limit) event scope = (left, some (.timedOut limit)) :=
      run_of_ends ends
    cases ends with
    | @cutOff before after duration bound split within well limited crosses =>
        have fits := within limit rfl
        rw [Nat.zero_add] at fits crosses
        refine ⟨before, duration, after, split, fits, crosses, ?_⟩
        rw [result, well]

theorem invoke_of_acts (handler : Handler) {event : Event} {scope : Scope}
    (acts : ∀ step ∈ handler event scope, ∃ action, step = .act action)
    (limit : Option Duration) :
    handler.invoke limit event scope = handler.invoke none event scope := by
  cases limit with
  | none => rfl
  | some limit =>
      apply invoke_of_slept_le handler
      rw [slept_of_acts acts]
      exact Nat.zero_le _

theorem invoke_of_larger (handler : Handler) {limit larger : Duration} {event : Event}
    {scope : Scope} (le : limit.milliseconds ≤ larger.milliseconds)
    (ended : (handler.invoke (some limit) event scope).2 ≠ some (.timedOut limit)) :
    handler.invoke (some larger) event scope = handler.invoke (some limit) event scope ∧
      handler.invoke none event scope = handler.invoke (some limit) event scope := by
  have timedOut_iff := (invoke_limited handler limit event scope).timedOut_iff
  have fits : slept (handler event scope) scope ≤ limit.milliseconds :=
    Nat.not_lt.mp fun beyond => ended (timedOut_iff.mpr beyond)
  have same := invoke_of_slept_le handler fits
  exact ⟨(invoke_of_slept_le handler (Nat.le_trans fits le)).trans same.symm, same.symm⟩

/-- With a limit or without one, an invocation times out exactly where there is a limit and the
waiting goes beyond it. -/
theorem invoke_timedOut_iff (handler : Handler) (limit : Option Duration) (event : Event)
    (scope : Scope) (bound : Duration) :
    (handler.invoke limit event scope).2 = some (.timedOut bound) ↔
      limit = some bound ∧ bound.milliseconds < slept (handler event scope) scope := by
  cases limit with
  | none =>
      refine iff_of_false (run_none_ne_timedOut 0 _ scope bound) ?_
      intro ⟨same, _beyond⟩
      cases same
  | some limit =>
      have limited := invoke_limited handler limit event scope
      constructor
      · intro timedOut
        have beyond := lt_slept_of_timedOut handler timedOut
        rw [limited.timedOut_iff.mpr beyond] at timedOut
        cases timedOut
        exact ⟨rfl, beyond⟩
      · intro ⟨same, beyond⟩
        cases same
        exact limited.timedOut_iff.mpr beyond

end Handler

namespace EventBus

theorem outcome_deliverAll (limit : Option Duration) (event : Event) (before : List Subscription)
    (subscription : Subscription) (after : List Subscription) (scope : Scope) :
    (deliverAll limit event (before ++ subscription :: after) scope).1[before.length]? =
      some ⟨subscription.id,
        (subscription.handler.invoke limit event (deliverAll limit event before scope).2).2⟩ := by
  induction before generalizing scope with
  | nil => rfl
  | cons first rest ih => exact ih (deliver limit event first scope).2

theorem outcomes_publish {bus : EventBus} {event : Event}
    (heard : bus.subscriptionsTo event.eventType ≠ []) (scope : Scope) :
    (bus.publish event scope).1.outcomes =
      (deliverAll bus.settings.handlerTimeout event (bus.subscriptionsTo event.eventType)
        scope).1 := by
  have listening : ¬(bus.subscriptionsTo event.eventType).isEmpty = true :=
    fun empty => heard (List.isEmpty_iff.mp empty)
  simp only [publish_eq, if_neg listening]

/-- Every handler has the time limit to itself.  Whatever steps a handler takes, without a limit
it comes to its own ending, to an error or to a panic, and that is told of it.  Under a limit it
times out if and only if its own waiting goes beyond it, and then has done exactly what stands
before the wait that crosses the limit; else it ends as it does without a limit.  A handler that
only acts behaves the same under every limit, and an ending that is no timeout stays what it is
under every larger limit and under none.  In a publish call a handler is invoked with the whole
limit on what the handlers before it left, so that how long these have waited does not make it
time out. -/
theorem publish_limits_each (event : Event) (scope : Scope) :
    (∀ handler : Handler,
      Handler.EndsByItself (handler event scope) scope (handler.invoke none event scope) ∧
        (∀ limit : Duration,
          Handler.Limited limit (handler event scope) scope
            (handler.invoke (some limit) event scope) (handler.invoke none event scope)) ∧
        (∀ bound : Duration, (handler.invoke none event scope).2 ≠ some (.timedOut bound)) ∧
        ((∀ step ∈ handler event scope, ∃ action, step = .act action) →
          ∀ limit : Option Duration,
            handler.invoke limit event scope = handler.invoke none event scope) ∧
        ∀ limit larger : Duration, limit.milliseconds ≤ larger.milliseconds →
          (handler.invoke (some limit) event scope).2 ≠ some (.timedOut limit) →
          handler.invoke (some larger) event scope = handler.invoke (some limit) event scope ∧
            handler.invoke none event scope = handler.invoke (some limit) event scope) ∧
      ∀ (bus : EventBus) (before : List Subscription) (subscription : Subscription)
        (after : List Subscription),
        bus.subscriptionsTo event.eventType = before ++ subscription :: after →
        let limit := bus.settings.handlerTimeout
        let found := (deliverAll limit event before scope).2
        ∃ outcome : Outcome, (bus.publish event scope).1.outcomes[before.length]? = some outcome ∧
          outcome.handler = subscription.id ∧
          outcome.failure = (subscription.handler.invoke limit event found).2 ∧
          ∀ bound : Duration, outcome.failure = some (.timedOut bound) ↔
            limit = some bound ∧
              bound.milliseconds < Handler.slept (subscription.handler event found) found := by
  refine ⟨?_, ?_⟩
  · intro handler
    exact ⟨handler.invoke_endsByItself event scope,
      fun limit => handler.invoke_limited limit event scope,
      Handler.run_none_ne_timedOut 0 _ scope, handler.invoke_of_acts,
      fun _limit _larger => handler.invoke_of_larger⟩
  · intro bus before subscription after subscribed limit found
    have heard : bus.subscriptionsTo event.eventType ≠ [] := by
      rw [subscribed]
      exact List.append_ne_nil_of_right_ne_nil before (List.cons_ne_nil _ _)
    refine ⟨⟨subscription.id, (subscription.handler.invoke limit event found).2⟩, ?_, rfl, rfl, ?_⟩
    · rw [outcomes_publish heard, subscribed]
      exact outcome_deliverAll limit event before subscription after scope
    · exact Handler.invoke_timedOut_iff subscription.handler limit event found

end EventBus
end WorkflowBus
