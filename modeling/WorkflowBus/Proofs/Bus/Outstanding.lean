/-
Invocations without a terminal event.

What a call on invocations comes to is one of four things: an invocation begins, it ends, it
is given up, or nothing changes.  So an accepted attempted event adds one to the invocations
of its workflow that have no terminal event, an accepted terminal event takes one away, and
no other call makes a difference.
-/

import Mathlib.Data.List.Nodup
import WorkflowBus.Proofs.Bus.Invocation

namespace WorkflowBus

namespace InvocationTranscript

variable {loan report : Type}

def begins? : InvocationCall loan × InvocationAnswer loan report → Option (Nat × Workflow)
  | (.start event _, .started number _ _) =>
      event.eventType.workflow?.map fun workflow => (number, workflow)
  | _ => none

def ends? : InvocationCall loan × InvocationAnswer loan report → Option Nat
  | (.close _ number _ _, .finished ..) => some number
  | _ => none

def begun (past : InvocationTranscript loan report) : List (Nat × Workflow) :=
  past.filterMap begins?

def ended (past : InvocationTranscript loan report) : List Nat :=
  past.filterMap ends?

/-- How many invocations of a workflow have begun and have not published a terminal event,
whether they have been given up or not. -/
def outstanding (past : InvocationTranscript loan report) (workflow : Workflow) : Nat :=
  past.begun.countP fun invocation =>
    invocation.2 = workflow && !past.ended.contains invocation.1

theorem begun_append (past : InvocationTranscript loan report)
    (step : InvocationCall loan × InvocationAnswer loan report) :
    begun (past ++ [step]) = past.begun ++ (begins? step).toList :=
  filterMap_concat _ past step

theorem ended_append (past : InvocationTranscript loan report)
    (step : InvocationCall loan × InvocationAnswer loan report) :
    ended (past ++ [step]) = past.ended ++ (ends? step).toList :=
  filterMap_concat _ past step

theorem unregistered_of_unpublished {step : InvocationCall loan × InvocationAnswer loan report}
    (unpublished : published? step = none) : begins? step = none ∧ ends? step = none := by
  obtain ⟨call, answer⟩ := step
  cases call with
  | start event lent =>
      cases answer with
      | started number report returned => cases unpublished
      | finished | rejected | dropped | missing => exact ⟨rfl, rfl⟩
  | close closing number event lent =>
      cases answer with
      | finished report returned => cases unpublished
      | started | rejected | dropped | missing => exact ⟨rfl, rfl⟩
  | drop number => exact ⟨rfl, rfl⟩

theorem countP_ended {begun : List (Nat × Workflow)} (once : (begun.map Prod.fst).Nodup)
    {ended : List Nat} {number : Nat} {own : Workflow} (member : (number, own) ∈ begun)
    (lasting : number ∉ ended) (workflow : Workflow) :
    begun.countP (fun invocation =>
        invocation.2 = workflow && !(ended ++ [number]).contains invocation.1) +
      (if own = workflow then 1 else 0) =
    begun.countP fun invocation => invocation.2 = workflow && !ended.contains invocation.1 := by
  have other {invocation : Nat × Workflow} (different : invocation.1 ≠ number) :
      (ended ++ [number]).contains invocation.1 = ended.contains invocation.1 := by
    rw [Bool.eq_iff_iff, List.contains_iff_mem, List.contains_iff_mem, List.mem_append,
      List.mem_singleton, or_iff_left different]
  induction begun with
  | nil => cases member
  | cons head rest ih =>
      obtain ⟨fresh, restOnce⟩ := List.nodup_cons.mp once
      rw [List.countP_cons, List.countP_cons]
      rcases List.mem_cons.mp member with rfl | later
      · have spared := List.countP_congr (l := rest) (p := fun invocation =>
            decide (invocation.2 = workflow) && !(ended ++ [number]).contains invocation.1)
          (q := fun invocation =>
            decide (invocation.2 = workflow) && !ended.contains invocation.1) (by
          intro invocation inRest
          have numbered : invocation.1 ∈ rest.map Prod.fst := List.mem_map_of_mem inRest
          rw [other fun same => fresh (same ▸ numbered)])
        have gone : (ended ++ [number]).contains number = true :=
          List.contains_iff_mem.mpr (List.mem_append_right _ (List.mem_singleton_self number))
        have counted : ended.contains number = false := by
          rw [← Bool.not_eq_true, List.contains_iff_mem]
          exact lasting
        simp only [spared, gone, counted, Bool.not_true, Bool.and_false, Bool.false_eq_true,
          if_false, Bool.not_false, Bool.and_true, decide_eq_true_eq, Nat.add_zero]
      · have different : head.1 ≠ number := fun same =>
          fresh (same ▸ List.mem_map_of_mem later)
        rw [other different, ← ih restOnce later]
        omega

/-- What one event of a type adds to the invocations of a workflow that have begun. -/
def opens (workflow : Workflow) (eventType : EventType) : Nat :=
  if eventType = .lifecycle workflow .attempted then 1 else 0

/-- What one event of a type adds to the invocations of a workflow that have ended. -/
def closes (workflow : Workflow) (eventType : EventType) : Nat :=
  (if eventType = .lifecycle workflow .succeeded then 1 else 0) +
    if eventType = .lifecycle workflow .failed then 1 else 0

end InvocationTranscript

namespace InvocationDesk

open InvocationTranscript

variable {world loan report : Type} {publish : Invocation.Publisher (world × loan) report}

inductive ComesTo (publish : Invocation.Publisher (world × loan) report)
    (desk : InvocationDesk world) :
    InvocationCall loan → InvocationAnswer loan report × InvocationDesk world → Prop
  | begins (event : Event) (lent : loan) (workflow : Workflow)
      (attempted : event.eventType = .lifecycle workflow .attempted) :
      ComesTo publish desk (.start event lent)
        (.started desk.begun (publish event (desk.state, lent)).1
            (publish event (desk.state, lent)).2.2,
          { (desk.put desk.begun (some ⟨workflow, event.id, false⟩)).withState
              (publish event (desk.state, lent)).2.1 with
            begun := desk.begun + 1 })
  | ends (closing : Invocation.Closing) (number : Nat) (event : Event) (lent : loan)
      (invocation : Invocation) (held : desk.held number = some invocation)
      (due : invocation.finished = false ∧
        event.eventType = .lifecycle invocation.workflow closing.stage) :
      ComesTo publish desk (.close closing number event lent)
        (.finished (publish event (desk.state, lent)).1 (publish event (desk.state, lent)).2.2,
          (desk.put number (some { invocation with finished := true })).withState
            (publish event (desk.state, lent)).2.1)
  | givesUp (number : Nat) (warning : Option Trace) (warnings : List Trace) :
      ComesTo publish desk (.drop number)
        (.dropped warning, { desk.put number none with warnings := warnings })
  | nothing (call : InvocationCall loan) (answer : InvocationAnswer loan report)
      (unpublished : published? (call, answer) = none) :
      ComesTo publish desk call (answer, desk)

theorem carryOut_comesTo (publish : Invocation.Publisher (world × loan) report)
    (desk : InvocationDesk world) (call : InvocationCall loan) :
    ComesTo publish desk call (desk.carryOut publish call) := by
  cases call with
  | start event lent =>
      by_cases attempt : ∃ workflow, event.eventType = .lifecycle workflow .attempted
      · obtain ⟨workflow, attempted⟩ := attempt
        simp only [carryOut, Invocation.start_accepted publish attempted]
        exact .begins event lent workflow attempted
      · have other (workflow : Workflow) : event.eventType ≠ .lifecycle workflow .attempted :=
          fun same => attempt ⟨workflow, same⟩
        obtain ⟨error, computed⟩ := Invocation.start_rejected publish other (desk.state, lent)
        simp only [carryOut, computed]
        exact .nothing _ _ rfl
  | close closing number event lent =>
      cases held : desk.held number with
      | none =>
          simp only [carryOut, held]
          exact .nothing _ _ rfl
      | some invocation =>
          by_cases due : invocation.finished = false ∧
              event.eventType = .lifecycle invocation.workflow closing.stage
          · have computed := Invocation.finish_accepted publish due (desk.state, lent)
            simp only [carryOut, held, closing.call_eq, computed]
            exact .ends closing number event lent invocation held due
          · obtain ⟨error, computed⟩ :=
              Invocation.finish_rejected publish due (desk.state, lent)
            simp only [carryOut, held, closing.call_eq, computed, desk.put_eq_self held]
            exact .nothing _ _ rfl
  | drop number =>
      cases held : desk.held number with
      | none =>
          simp only [carryOut, held]
          exact .nothing _ _ rfl
      | some invocation =>
          simp only [carryOut, held]
          exact .givesUp number _ _

/-! ### Invocations at the desk -/

/-- The transcript knows the invocations at the desk: their numbers are distinct and below
the next one, each that is held has begun, and if it is not held as finished, it has not
ended. -/
structure Registers (desk : InvocationDesk world) (past : InvocationTranscript loan report) :
    Prop where
  once : (past.begun.map Prod.fst).Nodup
  known : ∀ number ∈ past.begun.map Prod.fst, number < desk.begun
  ended : ∀ number ∈ past.ended, number < desk.begun
  held : ∀ number invocation, desk.held number = some invocation →
    (number, invocation.workflow) ∈ past.begun ∧
      (invocation.finished = false → number ∉ past.ended)

theorem start_registers (state : world) :
    (start state).Registers ([] : InvocationTranscript loan report) where
  once := List.nodup_nil
  known := nofun
  ended := nofun
  held := nofun

variable {desk next : InvocationDesk world} {past : InvocationTranscript loan report}
  {step : InvocationCall loan × InvocationAnswer loan report}

theorem Registers.begin (registers : desk.Registers past) {workflow : Workflow}
    (begins : begins? step = some (desk.begun, workflow)) (lasts : ends? step = none)
    (id : Uuid) (state : world) :
    Registers { (desk.put desk.begun (some ⟨workflow, id, false⟩)).withState state with
      begun := desk.begun + 1 } (past ++ [step]) where
  once := by
    rw [begun_append, begins, List.map_append, List.nodup_append]
    refine ⟨registers.once, List.nodup_singleton _, ?_⟩
    intro number earlier other new same
    cases List.mem_singleton.mp new
    exact Nat.lt_irrefl _ (same ▸ registers.known number earlier)
  known := by
    intro number member
    rw [begun_append, begins, List.map_append] at member
    rcases List.mem_append.mp member with earlier | new
    · exact Nat.lt_succ_of_lt (registers.known number earlier)
    · cases List.mem_singleton.mp new
      exact Nat.lt_succ_self _
  ended := by
    intro number member
    rw [ended_append, lasts, Option.toList_none, List.append_nil] at member
    exact Nat.lt_succ_of_lt (registers.ended number member)
  held := by
    intro number invocation held
    rw [begun_append, ended_append, begins, lasts, Option.toList_none, List.append_nil]
    change (desk.put desk.begun _).held number = some invocation at held
    by_cases new : number = desk.begun
    · subst new
      rw [held_put_self] at held
      cases held
      exact ⟨List.mem_append_right _ (List.mem_singleton_self _),
        fun _ terminal => Nat.lt_irrefl _ (registers.ended _ terminal)⟩
    · rw [held_put_of_ne desk new] at held
      obtain ⟨known, lasting⟩ := registers.held number invocation held
      exact ⟨List.mem_append_left _ known, lasting⟩

theorem Registers.finish (registers : desk.Registers past) {number : Nat} {invocation : Invocation}
    (held : desk.held number = some invocation) (begins : begins? step = none)
    (terminal : ends? step = some number) (state : world) :
    Registers ((desk.put number (some { invocation with finished := true })).withState state)
      (past ++ [step]) where
  once := by
    rw [begun_append, begins, Option.toList_none, List.append_nil]
    exact registers.once
  known := by
    rw [begun_append, begins, Option.toList_none, List.append_nil]
    exact registers.known
  ended := by
    intro other member
    rw [ended_append, terminal] at member
    rcases List.mem_append.mp member with earlier | new
    · exact registers.ended other earlier
    · cases List.mem_singleton.mp new
      exact registers.known _ (List.mem_map_of_mem (registers.held _ _ held).1)
  held := by
    intro other found present
    rw [begun_append, ended_append, begins, terminal, Option.toList_none, List.append_nil]
    change (desk.put number _).held other = some found at present
    by_cases own : other = number
    · subst own
      rw [held_put_self] at present
      cases present
      exact ⟨(registers.held _ _ held).1, fun unfinished => nomatch unfinished⟩
    · rw [held_put_of_ne desk own] at present
      obtain ⟨known, lasting⟩ := registers.held other found present
      refine ⟨known, fun unfinished member => ?_⟩
      rcases List.mem_append.mp member with earlier | new
      · exact lasting unfinished earlier
      · exact own (List.mem_singleton.mp new)

theorem Registers.withState (registers : desk.Registers past) (state : world) :
    (desk.withState state).Registers past :=
  ⟨registers.once, registers.known, registers.ended, registers.held⟩

/-- A step that neither begins nor ends an invocation can but give one up. -/
theorem Registers.pass (registers : desk.Registers past) (begins : begins? step = none)
    (lasts : ends? step = none) (count : next.begun = desk.begun)
    (held : ∀ number invocation, next.held number = some invocation →
      desk.held number = some invocation) :
    next.Registers (past ++ [step]) := by
  have sameBegun : InvocationTranscript.begun (past ++ [step]) = past.begun := by
    rw [begun_append, begins, Option.toList_none, List.append_nil]
  have sameEnded : InvocationTranscript.ended (past ++ [step]) = past.ended := by
    rw [ended_append, lasts, Option.toList_none, List.append_nil]
  exact
    { once := sameBegun ▸ registers.once
      known := by
        rw [sameBegun, count]
        exact registers.known
      ended := by
        rw [sameEnded, count]
        exact registers.ended
      held := by
        intro number invocation present
        rw [sameBegun, sameEnded]
        exact registers.held number invocation (held number invocation present) }

theorem outstanding_pass (past : InvocationTranscript loan report) (begins : begins? step = none)
    (lasts : ends? step = none) (workflow : Workflow) :
    outstanding (past ++ [step]) workflow = past.outstanding workflow := by
  simp only [outstanding, begun_append, ended_append, begins, lasts, Option.toList_none,
    List.append_nil]

/-- What a step makes of the state and of the invocations that are outstanding is told by
the event that it publishes, if it publishes one. -/
structure Accounts (publish : Invocation.Publisher (world × loan) report)
    (desk : InvocationDesk world) (past : InvocationTranscript loan report)
    (step : InvocationCall loan × InvocationAnswer loan report) (next : InvocationDesk world) :
    Prop where
  registers : next.Registers (past ++ [step])
  state : next.state = stateAfter publish desk.state (published? step).toList
  balance : ∀ workflow,
    outstanding (past ++ [step]) workflow +
        ((published? step).elim 0 fun (event, _) => closes workflow event.eventType) =
      past.outstanding workflow +
        (published? step).elim 0 fun (event, _) => opens workflow event.eventType

theorem carryOut_accounts (publish : Invocation.Publisher (world × loan) report)
    (registers : desk.Registers past) (call : InvocationCall loan) :
    Accounts publish desk past (call, (desk.carryOut publish call).1)
      (desk.carryOut publish call).2 := by
  have comes := carryOut_comesTo publish desk call
  generalize desk.carryOut publish call = outcome at comes
  cases comes with
  | begins event lent workflow attempted =>
      have begins : begins? ((.start event lent, .started desk.begun
          (publish event (desk.state, lent)).1 (publish event (desk.state, lent)).2.2) :
            InvocationCall loan × InvocationAnswer loan report) = some (desk.begun, workflow) := by
        rw [begins?, attempted]
        rfl
      have fresh : desk.begun ∉ past.ended := fun terminal =>
        Nat.lt_irrefl _ (registers.ended _ terminal)
      exact
        { registers := registers.begin begins rfl _ _
          state := rfl
          balance := by
            intro other
            simp only [outstanding, begun_append, ended_append, begins, ends?, Option.toList_some,
              Option.toList_none, List.append_nil, List.countP_append, List.countP_singleton,
              published?, Option.elim_some, attempted, opens, closes]
            simp [fresh] }
  | ends closing number event lent invocation held due =>
      obtain ⟨known, lasting⟩ := registers.held number invocation held
      exact
        { registers := registers.finish held rfl rfl _
          state := rfl
          balance := by
            intro other
            have own : closes other event.eventType =
                if invocation.workflow = other then 1 else 0 := by
              rw [closes, due.2]
              cases closing <;> simp [Invocation.Closing.stage]
            have new : opens other event.eventType = 0 := by
              rw [opens, due.2]
              cases closing <;> simp [Invocation.Closing.stage]
            simp only [outstanding, begun_append, ended_append, begins?, ends?,
              Option.toList_some, Option.toList_none, List.append_nil, published?,
              Option.elim_some, own, new, Nat.add_zero]
            exact countP_ended registers.once known (lasting due.1) other }
  | givesUp number warning warnings =>
      exact
        { registers := by
            refine registers.pass rfl rfl rfl fun other invocation present => ?_
            by_cases own : other = number
            · subst own
              cases (desk.held_put_self other none).symm.trans present
            · exact (desk.held_put_of_ne own none).symm.trans present
          state := rfl
          balance := outstanding_pass past rfl rfl }
  | nothing _ answer unpublished =>
      obtain ⟨begins, lasts⟩ := unregistered_of_unpublished unpublished
      exact
        { registers := registers.pass begins lasts rfl fun _ _ present => present
          state := by rw [unpublished]; rfl
          balance := by
            rw [unpublished]
            exact outstanding_pass past begins lasts }

end InvocationDesk
end WorkflowBus
