/-
How an invocation ends.

An invocation returns when all of its actions go well and its waits stay within
the limit.  Otherwise it ends at one step: an action that faults, or a wait that
goes beyond the limit; what was done before that step stays done, and nothing
after it is done.  Running a handler comes to the one ending that its steps have.
-/

import WorkflowBus.Handler.Basic

namespace WorkflowBus

inductive Ending where
  | returned
  | faulted (fault : Fault)
  | cutOff (limit : Duration)

def Ending.failure? : Ending → Option Failure
  | returned => none
  | faulted fault => some (.ofFault fault)
  | cutOff limit => some (.timedOut limit)

theorem Ending.failure?_eq_none_iff (ending : Ending) :
    ending.failure? = none ↔ ending = returned := by
  cases ending with
  | returned => exact iff_of_true rfl rfl
  | faulted fault => exact iff_of_false nofun nofun
  | cutOff limit => exact iff_of_false nofun nofun

namespace Handler

def waiting : List HandlerStep → Nat
  | [] => 0
  | .wait duration :: rest => duration.milliseconds + waiting rest
  | .act _ :: rest => waiting rest

/-- The scope that the actions of steps leave, if every one of them goes well. -/
def goneWell? : List HandlerStep → Scope → Option Scope
  | [], scope => some scope
  | .wait _ :: rest, scope => goneWell? rest scope
  | .act action :: rest, scope =>
      match action scope with
      | (scope, none) => goneWell? rest scope
      | (_, some _) => none

def Within (limit : Option Duration) (waited : Nat) : Prop :=
  ∀ bound, limit = some bound → waited ≤ bound.milliseconds

/-- An invocation that has waited for `waited` milliseconds goes through its steps
and ends, leaving a scope. -/
inductive Ends (limit : Option Duration) (waited : Nat) (steps : List HandlerStep)
    (scope left : Scope) : Ending → Prop where
  | returned (within : Within limit (waited + waiting steps))
      (well : goneWell? steps scope = some left) : Ends limit waited steps scope left .returned
  | faulted (before after : List HandlerStep) {action : Scope → Scope × Option Fault}
      {reached : Scope} {fault : Fault} (split : steps = before ++ .act action :: after)
      (within : Within limit (waited + waiting before))
      (well : goneWell? before scope = some reached)
      (fails : action reached = (left, some fault)) :
      Ends limit waited steps scope left (.faulted fault)
  | cutOff (before after : List HandlerStep) {duration bound : Duration}
      (split : steps = before ++ .wait duration :: after)
      (within : Within limit (waited + waiting before))
      (well : goneWell? before scope = some left) (limited : limit = some bound)
      (beyond : bound.milliseconds < waited + waiting before + duration.milliseconds) :
      Ends limit waited steps scope left (.cutOff bound)

theorem exceeds_eq_some_iff (waited : Nat) (limit : Option Duration) (bound : Duration) :
    exceeds waited limit = some bound ↔ limit = some bound ∧ bound.milliseconds < waited := by
  cases limit with
  | none => exact iff_of_false nofun nofun
  | some actual =>
      simp only [exceeds]
      by_cases beyond : actual.milliseconds < waited
      · rw [if_pos beyond]
        constructor
        · intro same
          cases same
          exact ⟨rfl, beyond⟩
        · exact And.left
      · rw [if_neg beyond]
        refine iff_of_false nofun ?_
        intro exceeded
        obtain ⟨same, further⟩ := exceeded
        cases same
        exact beyond further

theorem exceeds_eq_none_iff (waited : Nat) (limit : Option Duration) :
    exceeds waited limit = none ↔ Within limit waited := by
  rw [Option.eq_none_iff_forall_ne_some]
  constructor
  · intro never bound limited
    apply Nat.le_of_not_lt
    intro beyond
    exact never bound ((exceeds_eq_some_iff waited limit bound).mpr ⟨limited, beyond⟩)
  · intro within bound exceeded
    obtain ⟨limited, beyond⟩ := (exceeds_eq_some_iff waited limit bound).mp exceeded
    exact Nat.not_lt.mpr (within bound limited) beyond

theorem Ends.afterWait {limit : Option Duration} {waited : Nat} {rest : List HandlerStep}
    {scope left : Scope} {ending : Ending} (duration : Duration)
    (ends : Ends limit (waited + duration.milliseconds) rest scope left ending) :
    Ends limit waited (.wait duration :: rest) scope left ending := by
  have shift (steps : List HandlerStep) : waited + duration.milliseconds + waiting steps =
      waited + waiting (.wait duration :: steps) := Nat.add_assoc _ _ _
  cases ends with
  | returned within well => exact .returned (shift rest ▸ within) well
  | faulted before after split within well fails =>
      exact .faulted (.wait duration :: before) after (congrArg (.wait duration :: ·) split)
        (shift before ▸ within) well fails
  | cutOff before after split within well limited beyond =>
      exact .cutOff (.wait duration :: before) after (congrArg (.wait duration :: ·) split)
        (shift before ▸ within) well limited (shift before ▸ beyond)

theorem Ends.afterAct {limit : Option Duration} {waited : Nat} {rest : List HandlerStep}
    {scope next left : Scope} {ending : Ending} (action : Scope → Scope × Option Fault)
    (acts : action scope = (next, none)) (ends : Ends limit waited rest next left ending) :
    Ends limit waited (.act action :: rest) scope left ending := by
  have through (steps : List HandlerStep) :
      goneWell? (.act action :: steps) scope = goneWell? steps next := by
    simp only [goneWell?, acts]
  cases ends with
  | returned within well => exact .returned within ((through rest).trans well)
  | faulted before after split within well fails =>
      exact .faulted (.act action :: before) after (congrArg (.act action :: ·) split)
        within ((through before).trans well) fails
  | cutOff before after split within well limited beyond =>
      exact .cutOff (.act action :: before) after (congrArg (.act action :: ·) split)
        within ((through before).trans well) limited beyond

/-- Every run that has kept to its limit so far comes to an ending. -/
theorem run_ends (limit : Option Duration) (waited : Nat) (steps : List HandlerStep) (scope : Scope)
    (within : Within limit waited) :
    ∃ ending, Ends limit waited steps scope (run limit waited steps scope).1 ending ∧
      (run limit waited steps scope).2 = ending.failure? := by
  induction steps generalizing waited scope with
  | nil => exact ⟨.returned, .returned within rfl, rfl⟩
  | cons step rest ih =>
      cases step with
      | wait duration =>
          simp only [run]
          cases exceeded : exceeds (waited + duration.milliseconds) limit with
          | some bound =>
              obtain ⟨limited, beyond⟩ := (exceeds_eq_some_iff _ _ _).mp exceeded
              exact ⟨.cutOff bound, .cutOff [] rest rfl within rfl limited beyond, rfl⟩
          | none =>
              obtain ⟨ending, ends, told⟩ := ih _ scope ((exceeds_eq_none_iff _ _).mp exceeded)
              exact ⟨ending, ends.afterWait duration, told⟩
      | act action =>
          simp only [run]
          cases acts : action scope with
          | mk next fault =>
              cases fault with
              | some fault =>
                  exact ⟨.faulted fault, .faulted [] rest rfl within rfl acts, rfl⟩
              | none =>
                  obtain ⟨ending, ends, told⟩ := ih waited next within
                  exact ⟨ending, ends.afterAct action acts, told⟩

theorem run_append (limit : Option Duration) (waited : Nat) (before rest : List HandlerStep)
    (scope reached : Scope) (within : Within limit (waited + waiting before))
    (well : goneWell? before scope = some reached) :
    run limit waited (before ++ rest) scope = run limit (waited + waiting before) rest reached := by
  induction before generalizing waited scope with
  | nil =>
      cases well
      rfl
  | cons step before ih =>
      cases step with
      | wait duration =>
          have shift : waited + waiting (.wait duration :: before) =
              waited + duration.milliseconds + waiting before := (Nat.add_assoc _ _ _).symm
          have soFar : Within limit (waited + duration.milliseconds) := by
            intro bound limited
            have whole := within bound limited
            omega
          rw [shift] at within ⊢
          simp only [List.cons_append, run]
          rw [(exceeds_eq_none_iff _ _).mpr soFar]
          exact ih _ scope within well
      | act action =>
          simp only [goneWell?] at well
          simp only [List.cons_append, run]
          cases acts : action scope with
          | mk next fault =>
              rw [acts] at well
              cases fault with
              | some fault => cases well
              | none => exact ih waited next within well

/-- The ending that the steps have is what running them comes to. -/
theorem run_of_ends {limit : Option Duration} {waited : Nat} {steps : List HandlerStep}
    {scope left : Scope} {ending : Ending} (ends : Ends limit waited steps scope left ending) :
    run limit waited steps scope = (left, ending.failure?) := by
  cases ends with
  | returned within well =>
      have run := run_append limit waited steps [] scope left within well
      rwa [List.append_nil] at run
  | faulted before after split within well fails =>
      rw [split, run_append limit waited before _ scope _ within well]
      simp only [run, fails]
      rfl
  | cutOff before after split within well limited beyond =>
      rw [split, run_append limit waited before _ scope left within well]
      simp only [run]
      rw [(exceeds_eq_some_iff _ _ _).mpr ⟨limited, beyond⟩]
      rfl

theorem invoke_ends (handler : Handler) (limit : Option Duration) (event : Event) (scope : Scope) :
    ∃ ending,
      Ends limit 0 (handler event scope) scope (handler.invoke limit event scope).1 ending ∧
        (handler.invoke limit event scope).2 = ending.failure? :=
  run_ends limit 0 (handler event scope) scope (fun _ _ => Nat.zero_le _)

end Handler
end WorkflowBus
