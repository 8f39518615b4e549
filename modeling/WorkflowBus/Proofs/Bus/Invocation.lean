/-
The protocol of invocations.

Any number of invocations over one publisher are called in any order.  The main
statement compares what reaches the publisher with the transcript of the calls and
their answers: an invocation publishes its attempted event and at most one terminal
event of the same workflow, and a call that is rejected changes nothing.
-/

import WorkflowBus.Bus.Invocation
import WorkflowBus.Proofs.Since

namespace WorkflowBus

namespace Invocation

theorem begun_eq_ok_iff (event : Event) (workflow : Workflow) :
    begun event = .ok workflow ↔ event.eventType = .lifecycle workflow .attempted := by
  unfold begun
  cases event.eventType with
  | telemetry kind => exact iff_of_false nofun nofun
  | lifecycle other stage =>
      by_cases attempted : stage = .attempted
      · subst attempted
        simp only [if_true, Except.ok.injEq, EventType.lifecycle.injEq, and_true]
      · simp only [attempted, if_false, reduceCtorEq, EventType.lifecycle.injEq, and_false]

theorem admissible_eq_ok_iff (invocation : Invocation) (expected : Stage) (event : Event) :
    invocation.admissible expected event = .ok () ↔
      invocation.finished = false ∧ event.eventType = .lifecycle invocation.workflow expected := by
  unfold admissible
  cases finished : invocation.finished with
  | true => exact iff_of_false nofun (fun both => Bool.noConfusion both.1)
  | false =>
      rw [if_neg Bool.false_ne_true, and_iff_right rfl]
      cases event.eventType with
      | telemetry kind => exact iff_of_false nofun nofun
      | lifecycle workflow stage =>
          by_cases own : workflow = invocation.workflow
          · by_cases due : stage = expected
            · subst own
              subst due
              simp only [ne_eq, not_true_eq_false, if_false]
            · simp only [own, due, ne_eq, not_true_eq_false, not_false_eq_true, if_true, if_false,
                reduceCtorEq, EventType.lifecycle.injEq, and_false]
          · simp only [own, ne_eq, not_false_eq_true, if_true, reduceCtorEq,
              EventType.lifecycle.injEq, false_and]

variable {state report : Type} (publish : Publisher state report)

theorem start_accepted {event : Event} {workflow : Workflow}
    (attempted : event.eventType = .lifecycle workflow .attempted) (before : state) :
    start publish event before =
      (.ok (⟨workflow, event.id, false⟩, (publish event before).1), (publish event before).2) := by
  simp only [start, (begun_eq_ok_iff event workflow).mpr attempted]

theorem start_rejected {event : Event}
    (other : ∀ workflow, event.eventType ≠ .lifecycle workflow .attempted) (before : state) :
    ∃ error, start publish event before = (.error error, before) := by
  cases answer : begun event with
  | ok workflow => exact absurd ((begun_eq_ok_iff event workflow).mp answer) (other workflow)
  | error error => exact ⟨error, by simp only [start, answer]⟩

theorem finish_accepted {invocation : Invocation} {expected : Stage} {event : Event}
    (due : invocation.finished = false ∧
      event.eventType = .lifecycle invocation.workflow expected) (before : state) :
    finish publish invocation expected event before =
      (.ok (publish event before).1, { invocation with finished := true },
        (publish event before).2) := by
  simp only [finish, (admissible_eq_ok_iff invocation expected event).mpr due]

theorem finish_rejected {invocation : Invocation} {expected : Stage} {event : Event}
    (undue : ¬(invocation.finished = false ∧
      event.eventType = .lifecycle invocation.workflow expected)) (before : state) :
    ∃ error, finish publish invocation expected event before =
      (.error error, invocation, before) := by
  cases answer : invocation.admissible expected event with
  | ok _done => exact absurd ((admissible_eq_ok_iff invocation expected event).mp answer) undue
  | error error => exact ⟨error, by simp only [finish, answer]⟩

inductive Closing where
  | succeed
  | fail

namespace Closing

def stage : Closing → Stage
  | succeed => .succeeded
  | fail => .failed

theorem isTerminal_stage (closing : Closing) : closing.stage.isTerminal = true := by
  cases closing <;> rfl

def call (closing : Closing) : Invocation → Event → state → Except InvocationError report ×
    Invocation × state :=
  match closing with
  | succeed => Invocation.succeed publish
  | fail => Invocation.fail publish

theorem call_eq (closing : Closing) (invocation : Invocation) :
    closing.call publish invocation = finish publish invocation closing.stage := by
  cases closing <;> rfl

end Closing
end Invocation

/-- A call on an invocation, or one that begins a new one, with what it lends to the
publisher.  Invocations are numbered in the order in which they begin. -/
inductive InvocationCall (loan : Type) where
  | start (event : Event) (lent : loan)
  | close (closing : Invocation.Closing) (number : Nat) (event : Event) (lent : loan)
  | drop (number : Nat)

/-- A call is published, and the publisher's report and the loan come back, or it is
rejected and the loan comes back, or it finds no invocation of its number. -/
inductive InvocationAnswer (loan report : Type) where
  | started (number : Nat) (report : report) (returned : loan)
  | finished (report : report) (returned : loan)
  | rejected (error : InvocationError) (returned : loan)
  | dropped (warning : Option Trace)
  | missing

/-- The state that the publisher works on, with the invocations over it by their
numbers, those that have been given up being gone, and the warnings that giving up
has left. -/
structure InvocationDesk (world : Type) where
  state : world
  begun : Nat
  held : Nat → Option Invocation
  warnings : List Trace

namespace InvocationDesk

variable {world loan report : Type}

def start (state : world) : InvocationDesk world where
  state := state
  begun := 0
  held := fun _ => none
  warnings := []

def put (desk : InvocationDesk world) (number : Nat) (invocation : Option Invocation) :
    InvocationDesk world :=
  { desk with held := fun other => if other = number then invocation else desk.held other }

theorem held_put_self (desk : InvocationDesk world) (number : Nat)
    (invocation : Option Invocation) : (desk.put number invocation).held number = invocation :=
  if_pos rfl

theorem held_put_of_ne (desk : InvocationDesk world) {number other : Nat}
    (different : other ≠ number) (invocation : Option Invocation) :
    (desk.put number invocation).held other = desk.held other :=
  if_neg different

theorem put_eq_self (desk : InvocationDesk world) {number : Nat} {invocation : Option Invocation}
    (held : desk.held number = invocation) : desk.put number invocation = desk := by
  have same : (desk.put number invocation).held = desk.held := by
    funext other
    by_cases own : other = number
    · subst own
      rw [held_put_self, held]
    · exact desk.held_put_of_ne own invocation
  exact congrArg (fun table => { desk with held := table }) same

def withState (desk : InvocationDesk world) (state : world) : InvocationDesk world :=
  { desk with state := state }

/-- Carries out a call.  What the call makes of the invocation is put back under its
number, whether the call is rejected or not. -/
def carryOut (publish : Invocation.Publisher (world × loan) report) (desk : InvocationDesk world) :
    InvocationCall loan → InvocationAnswer loan report × InvocationDesk world
  | .start event lent =>
      match Invocation.start publish event (desk.state, lent) with
      | (.ok (invocation, report), state, returned) =>
          (.started desk.begun report returned,
            { (desk.put desk.begun (some invocation)).withState state with
              begun := desk.begun + 1 })
      | (.error error, state, returned) => (.rejected error returned, desk.withState state)
  | .close closing number event lent =>
      match desk.held number with
      | none => (.missing, desk)
      | some invocation =>
          match closing.call publish invocation event (desk.state, lent) with
          | (.ok report, invocation, state, returned) =>
              (.finished report returned, (desk.put number (some invocation)).withState state)
          | (.error error, invocation, state, returned) =>
              (.rejected error returned, (desk.put number (some invocation)).withState state)
  | .drop number =>
      match desk.held number with
      | none => (.missing, desk)
      | some invocation =>
          (.dropped invocation.dropTrace?,
            { desk.put number none with
              warnings := desk.warnings ++ invocation.dropTrace?.toList })

def run (publish : Invocation.Publisher (world × loan) report) (desk : InvocationDesk world) :
    List (InvocationCall loan) →
      List (InvocationCall loan × InvocationAnswer loan report) × InvocationDesk world
  | [] => ([], desk)
  | call :: rest =>
      let (answer, next) := desk.carryOut publish call
      let (transcript, after) := next.run publish rest
      ((call, answer) :: transcript, after)

end InvocationDesk

/-! ### Transcripts -/

abbrev InvocationTranscript (loan report : Type) :=
  List (InvocationCall loan × InvocationAnswer loan report)

/-- What an invocation of a workflow may have published, each event with the stage of
the call that published it: the attempted event, and once it is finished one
terminal event. -/
inductive Course (workflow : Workflow) (attempted : Event) :
    (finished : Bool) → List (Stage × Event) → Prop where
  | underWay (begins : attempted.eventType = .lifecycle workflow .attempted) :
      Course workflow attempted false [(.attempted, attempted)]
  | over {stage : Stage} {terminal : Event}
      (begins : attempted.eventType = .lifecycle workflow .attempted)
      (ends : stage.isTerminal = true) (own : terminal.eventType = .lifecycle workflow stage) :
      Course workflow attempted true [(.attempted, attempted), (stage, terminal)]

namespace InvocationTranscript

variable {world loan report : Type}

def published? : InvocationCall loan × InvocationAnswer loan report → Option (Event × loan)
  | (.start event lent, .started ..) => some (event, lent)
  | (.close _ _ event lent, .finished ..) => some (event, lent)
  | _ => none

def published (past : InvocationTranscript loan report) : List (Event × loan) :=
  past.filterMap published?

def stateAfter (publish : Invocation.Publisher (world × loan) report) (state : world)
    (events : List (Event × loan)) : world :=
  events.foldl (fun state (event, lent) => (publish event (state, lent)).2.1) state

/-- The event that a step publishes for the invocation of a number, with the stage that
the call asks for. -/
def publishedBy? (number : Nat) :
    InvocationCall loan × InvocationAnswer loan report → Option (Stage × Event)
  | (.start event _, .started other _ _) =>
      if other = number then some (.attempted, event) else none
  | (.close closing other event _, .finished ..) =>
      if other = number then some (closing.stage, event) else none
  | _ => none

def publishedBy (past : InvocationTranscript loan report) (number : Nat) : List (Stage × Event) :=
  past.filterMap (publishedBy? number)

def GivenUp (past : InvocationTranscript loan report) (number : Nat) : Prop :=
  ∃ warning, (.drop number, .dropped warning) ∈ past

def IsOpen (past : InvocationTranscript loan report) (number : Nat) : Prop :=
  past.publishedBy number ≠ [] ∧ ¬past.GivenUp number

theorem published_append (past : InvocationTranscript loan report)
    (step : InvocationCall loan × InvocationAnswer loan report) :
    published (past ++ [step]) = past.published ++ (published? step).toList :=
  filterMap_concat _ past step

theorem publishedBy_append (past : InvocationTranscript loan report)
    (step : InvocationCall loan × InvocationAnswer loan report) (number : Nat) :
    publishedBy (past ++ [step]) number =
      past.publishedBy number ++ (publishedBy? number step).toList :=
  filterMap_concat _ past step

theorem givenUp_append (past : InvocationTranscript loan report)
    (step : InvocationCall loan × InvocationAnswer loan report) (number : Nat) :
    GivenUp (past ++ [step]) number ↔
      past.GivenUp number ∨ ∃ warning, step = (.drop number, .dropped warning) := by
  constructor
  · intro givenUp
    obtain ⟨warning, member⟩ := givenUp
    rcases List.mem_append.mp member with earlier | last
    · exact Or.inl ⟨warning, earlier⟩
    · exact Or.inr ⟨warning, (List.mem_singleton.mp last).symm⟩
  · intro either
    rcases either with ⟨warning, earlier⟩ | ⟨warning, same⟩
    · exact ⟨warning, List.mem_append_left _ earlier⟩
    · exact ⟨warning, List.mem_append_right _ (List.mem_singleton.mpr same.symm)⟩

theorem stateAfter_append (publish : Invocation.Publisher (world × loan) report) (state : world)
    (first second : List (Event × loan)) :
    stateAfter publish state (first ++ second) =
      stateAfter publish (stateAfter publish state first) second :=
  List.foldl_append

/-- The step publishes nothing for the invocation of a number, and does not give it
up. -/
structure Passes (step : InvocationCall loan × InvocationAnswer loan report) (number : Nat) :
    Prop where
  silent : publishedBy? number step = none
  keeps : ∀ warning, step ≠ (.drop number, .dropped warning)

theorem Passes.publishedBy {step : InvocationCall loan × InvocationAnswer loan report}
    {number : Nat} (passes : Passes step number) (past : InvocationTranscript loan report) :
    InvocationTranscript.publishedBy (past ++ [step]) number = past.publishedBy number := by
  rw [publishedBy_append, passes.silent, Option.toList_none, List.append_nil]

theorem Passes.givenUp {step : InvocationCall loan × InvocationAnswer loan report}
    {number : Nat} (passes : Passes step number) (past : InvocationTranscript loan report) :
    GivenUp (past ++ [step]) number ↔ past.GivenUp number := by
  rw [givenUp_append]
  refine or_iff_left ?_
  intro gone
  obtain ⟨warning, same⟩ := gone
  exact passes.keeps warning same

/-- What is held under a number is as the transcript says: the invocation that has the
number while it is open, and nothing otherwise. -/
structure Tracks (past : InvocationTranscript loan report) (number : Nat)
    (held : Option Invocation) : Prop where
  course : past.publishedBy number = [] ∨
    ∃ workflow attempted finished, Course workflow attempted finished (past.publishedBy number)
  opened : past.IsOpen number → ∃ invocation attempted, held = some invocation ∧
    invocation.attemptedId = attempted.id ∧
    Course invocation.workflow attempted invocation.finished (past.publishedBy number)
  closed : ¬past.IsOpen number → held = none

theorem Tracks.keep {past : InvocationTranscript loan report} {number : Nat}
    {held : Option Invocation} (tracks : past.Tracks number held)
    {step : InvocationCall loan × InvocationAnswer loan report} (passes : Passes step number) :
    Tracks (past ++ [step]) number held := by
  have same : IsOpen (past ++ [step]) number ↔ past.IsOpen number := by
    rw [IsOpen, IsOpen, passes.publishedBy, passes.givenUp]
  exact
    { course := passes.publishedBy past ▸ tracks.course
      opened := by
        rw [same, passes.publishedBy]
        exact tracks.opened
      closed := by
        rw [same]
        exact tracks.closed }

theorem Tracks.advance {past : InvocationTranscript loan report} {number : Nat}
    {step : InvocationCall loan × InvocationAnswer loan report} {published : Stage × Event}
    (writes : publishedBy? number step = some published)
    (keeps : ∀ warning, step ≠ (.drop number, .dropped warning))
    (present : ¬past.GivenUp number) {invocation : Invocation} {attempted : Event}
    (known : invocation.attemptedId = attempted.id)
    (course : Course invocation.workflow attempted invocation.finished
      (past.publishedBy number ++ [published])) :
    Tracks (past ++ [step]) number (some invocation) := by
  have extended : publishedBy (past ++ [step]) number = past.publishedBy number ++ [published] := by
    rw [publishedBy_append, writes, Option.toList_some]
  have isOpen : IsOpen (past ++ [step]) number := by
    refine ⟨?_, ?_⟩
    · rw [extended]
      exact List.append_ne_nil_of_right_ne_nil _ (List.cons_ne_nil _ _)
    · rw [givenUp_append]
      intro either
      rcases either with before | ⟨warning, same⟩
      · exact present before
      · exact keeps warning same
  rw [← extended] at course
  exact
    { course := Or.inr ⟨_, _, _, course⟩
      opened := fun _ => ⟨invocation, attempted, rfl, known, course⟩
      closed := fun closed => absurd isOpen closed }

theorem Tracks.giveUp {past : InvocationTranscript loan report} {number : Nat}
    {held : Option Invocation} (tracks : past.Tracks number held) (warning : Option Trace) :
    Tracks (past ++ [(.drop number, .dropped warning)]) number none := by
  have same : publishedBy (past ++ [(.drop number, .dropped warning)]) number =
      past.publishedBy number := by
    rw [publishedBy_append]
    exact List.append_nil _
  exact
    { course := same ▸ tracks.course
      opened := fun isOpen => absurd ((givenUp_append _ _ _).mpr (Or.inr ⟨warning, rfl⟩)) isOpen.2
      closed := fun _ => rfl }

end InvocationTranscript

namespace InvocationDesk

open InvocationTranscript

variable {world loan report : Type} {publish : Invocation.Publisher (world × loan) report}

/-- The desk is where the transcript of the calls leads from a first state. -/
structure Follows (publish : Invocation.Publisher (world × loan) report) (origin : world)
    (desk : InvocationDesk world) (past : InvocationTranscript loan report) : Prop where
  state : desk.state = stateAfter publish origin past.published
  fresh : ∀ number, desk.begun ≤ number → past.publishedBy number = [] ∧ ¬past.GivenUp number
  tracks : ∀ number, past.Tracks number (desk.held number)

theorem start_follows (publish : Invocation.Publisher (world × loan) report) (origin : world) :
    (start origin).Follows publish origin [] where
  state := rfl
  fresh := by
    intro number _new
    refine ⟨rfl, ?_⟩
    intro givenUp
    obtain ⟨_warning, member⟩ := givenUp
    cases member
  tracks := by
    intro number
    exact
      { course := Or.inl rfl
        opened := fun isOpen => absurd rfl isOpen.1
        closed := fun _ => rfl }

theorem Follows.begun_of_isOpen {origin : world} {desk : InvocationDesk world}
    {past : InvocationTranscript loan report} (follows : desk.Follows publish origin past)
    {number : Nat} (isOpen : past.IsOpen number) : number < desk.begun := by
  apply Nat.lt_of_not_le
  intro new
  exact isOpen.1 (follows.fresh number new).1

theorem Follows.keep {origin : world} {desk : InvocationDesk world}
    {past : InvocationTranscript loan report} (follows : desk.Follows publish origin past)
    {step : InvocationCall loan × InvocationAnswer loan report} (silent : published? step = none)
    (passes : ∀ number, Passes step number) : desk.Follows publish origin (past ++ [step]) where
  state := by
    rw [published_append, silent, Option.toList_none, List.append_nil]
    exact follows.state
  fresh := by
    intro number new
    rw [(passes number).publishedBy, (passes number).givenUp]
    exact follows.fresh number new
  tracks := fun number => (follows.tracks number).keep (passes number)

theorem Follows.step {origin : world} {desk after : InvocationDesk world}
    {past : InvocationTranscript loan report} (follows : desk.Follows publish origin past)
    {step : InvocationCall loan × InvocationAnswer loan report} (number : Nat)
    {held : Option Invocation} (own : Tracks (past ++ [step]) number held)
    (passes : ∀ other, other ≠ number → Passes step other)
    (state : after.state = stateAfter publish desk.state (published? step).toList)
    (puts : after.held = (desk.put number held).held)
    (longer : desk.begun ≤ after.begun) (known : number < after.begun) :
    after.Follows publish origin (past ++ [step]) where
  state := by
    rw [published_append, stateAfter_append, ← follows.state]
    exact state
  fresh := by
    intro other new
    have different : other ≠ number := by omega
    rw [(passes other different).publishedBy, (passes other different).givenUp]
    exact follows.fresh other (Nat.le_trans longer new)
  tracks := by
    intro other
    by_cases same : other = number
    · subst same
      rw [puts, desk.held_put_self]
      exact own
    · rw [puts, desk.held_put_of_ne same]
      exact (follows.tracks other).keep (passes other same)

/-! ### What calls deserve -/

def unfinishedWarning (workflow : Workflow) (attempted : Event) : Trace where
  level := .warn
  message := "Workflow invocation dropped without a terminal event"
  fields := [("workflow", workflow.name), ("attempted_id", attempted.id.text)]

/-- What a call has to come to.  A new invocation begins exactly with an attempted
event.  A call that ends an open invocation is published exactly when the invocation
is not finished and the event is its workflow's at the stage of the call.  A rejected
call gives the loan back and changes nothing.  An invocation that is given up leaves a
warning exactly when it is not finished. -/
def Deserves (publish : Invocation.Publisher (world × loan) report)
    (past : InvocationTranscript loan report) (desk : InvocationDesk world) :
    InvocationCall loan → InvocationAnswer loan report × InvocationDesk world → Prop
  | .start event lent, outcome =>
      (∀ workflow, event.eventType = .lifecycle workflow .attempted →
        let (report, state, returned) := publish event (desk.state, lent)
        ∃ number, past.publishedBy number = [] ∧ outcome.1 = .started number report returned ∧
          outcome.2.state = state) ∧
      ((∀ workflow, event.eventType ≠ .lifecycle workflow .attempted) →
        ∃ error, outcome = (.rejected error lent, desk))
  | .close closing number event lent, outcome =>
      (past.IsOpen number → ∃ workflow attempted finished,
        Course workflow attempted finished (past.publishedBy number) ∧
        let due := finished = false ∧ event.eventType = .lifecycle workflow closing.stage
        (due →
          let (report, state, returned) := publish event (desk.state, lent)
          outcome.1 = .finished report returned ∧ outcome.2.state = state) ∧
        (¬due → ∃ error, outcome = (.rejected error lent, desk))) ∧
      (¬past.IsOpen number → outcome = (.missing, desk))
  | .drop number, outcome =>
      (past.IsOpen number → ∃ workflow attempted finished,
        Course workflow attempted finished (past.publishedBy number) ∧
        let warning := if finished then none else some (unfinishedWarning workflow attempted)
        outcome.1 = .dropped warning ∧ outcome.2.state = desk.state ∧
          outcome.2.warnings = desk.warnings ++ warning.toList) ∧
      (¬past.IsOpen number → outcome = (.missing, desk))

structure Honours (publish : Invocation.Publisher (world × loan) report) (origin : world)
    (desk : InvocationDesk world) (past : InvocationTranscript loan report)
    (call : InvocationCall loan)
    (outcome : InvocationAnswer loan report × InvocationDesk world) : Prop where
  deserved : Deserves publish past desk call outcome
  follows : outcome.2.Follows publish origin (past ++ [(call, outcome.1)])

theorem start_honours {origin : world} {desk : InvocationDesk world}
    {past : InvocationTranscript loan report} (follows : desk.Follows publish origin past)
    (event : Event) (lent : loan) :
    Honours publish origin desk past (.start event lent)
      (desk.carryOut publish (.start event lent)) := by
  obtain ⟨nothing, present⟩ := follows.fresh desk.begun (Nat.le_refl _)
  by_cases attempt : ∃ workflow, event.eventType = .lifecycle workflow .attempted
  · obtain ⟨workflow, attempted⟩ := attempt
    rcases sent : publish event (desk.state, lent) with ⟨report, state, returned⟩
    have computed := Invocation.start_accepted publish attempted (desk.state, lent)
    rw [sent] at computed
    simp only [carryOut, computed]
    have wrote : publishedBy? desk.begun
        (.start event lent, .started desk.begun report returned) = some (.attempted, event) :=
      if_pos rfl
    have own : Tracks (past ++ [(.start event lent, .started desk.begun report returned)])
        desk.begun (some ⟨workflow, event.id, false⟩) := by
      refine Tracks.advance wrote ?_ present (show event.id = event.id from rfl) ?_
      · intro warning same
        cases same
      · rw [nothing]
        exact .underWay attempted
    exact
      { deserved := by
          simp only [Deserves, sent]
          exact ⟨fun _ _ => ⟨desk.begun, nothing, rfl, rfl⟩,
            fun other => absurd attempted (other workflow)⟩
        follows := by
          refine follows.step desk.begun own ?_ ?_ rfl (Nat.le_succ _) (Nat.lt_succ_self _)
          · intro other different
            exact ⟨if_neg (Ne.symm different), fun _ same => by cases same⟩
          · simp only [published?, Option.toList_some, stateAfter, List.foldl_cons,
              List.foldl_nil, sent]
            rfl }
  · have other (workflow : Workflow) : event.eventType ≠ .lifecycle workflow .attempted :=
      fun same => attempt ⟨workflow, same⟩
    obtain ⟨error, computed⟩ := Invocation.start_rejected publish other (desk.state, lent)
    simp only [carryOut, computed]
    exact
      { deserved := ⟨fun workflow same => absurd same (other workflow), fun _ => ⟨error, rfl⟩⟩
        follows := follows.keep rfl fun _ => ⟨rfl, fun _ same => by cases same⟩ }

theorem missing_honours {origin : world} {desk : InvocationDesk world}
    {past : InvocationTranscript loan report} (follows : desk.Follows publish origin past)
    (call : InvocationCall loan) (computed : desk.carryOut publish call = (.missing, desk))
    (deserved : Deserves publish past desk call (.missing, desk)) :
    Honours publish origin desk past call (desk.carryOut publish call) := by
  rw [computed]
  have silent : published? (call, (.missing : InvocationAnswer loan report)) = none := by
    cases call <;> rfl
  have passes (number : Nat) :
      Passes (call, (.missing : InvocationAnswer loan report)) number := by
    refine ⟨?_, fun _ same => by cases same⟩
    cases call <;> rfl
  exact ⟨deserved, follows.keep silent passes⟩

theorem close_honours {origin : world} {desk : InvocationDesk world}
    {past : InvocationTranscript loan report} (follows : desk.Follows publish origin past)
    (closing : Invocation.Closing) (number : Nat) (event : Event) (lent : loan) :
    Honours publish origin desk past (.close closing number event lent)
      (desk.carryOut publish (.close closing number event lent)) := by
  by_cases isOpen : past.IsOpen number
  · obtain ⟨invocation, attempted, held, known, course⟩ :=
      (follows.tracks number).opened isOpen
    by_cases due : invocation.finished = false ∧
        event.eventType = .lifecycle invocation.workflow closing.stage
    · rcases sent : publish event (desk.state, lent) with ⟨report, state, returned⟩
      have computed := Invocation.finish_accepted publish due (desk.state, lent)
      rw [sent] at computed
      simp only [carryOut, held, closing.call_eq, computed]
      have wrote : publishedBy? number
          (.close closing number event lent, .finished report returned) =
            some (closing.stage, event) := if_pos rfl
      have own : Tracks (past ++ [(.close closing number event lent, .finished report returned)])
          number (some { invocation with finished := true }) := by
        refine Tracks.advance wrote ?_ isOpen.2 known ?_
        · intro warning same
          cases same
        · -- Before its end an invocation has published nothing but its attempted event.
          rw [due.1] at course
          cases published : past.publishedBy number with
          | nil => exact absurd published isOpen.1
          | cons first rest =>
              rw [published] at course
              cases course with
              | underWay begins => exact .over begins closing.isTerminal_stage due.2
      exact
        { deserved := by
            refine ⟨fun _ => ⟨_, _, _, course, ?_⟩, fun closed => absurd isOpen closed⟩
            rw [sent]
            exact ⟨fun _ => ⟨rfl, rfl⟩, fun undue => absurd due undue⟩
          follows := by
            refine follows.step number own ?_ ?_ rfl (Nat.le_refl _)
              (follows.begun_of_isOpen isOpen)
            · intro other different
              exact ⟨if_neg (Ne.symm different), fun _ same => by cases same⟩
            · simp only [published?, Option.toList_some, stateAfter, List.foldl_cons,
                List.foldl_nil, sent]
              rfl }
    · obtain ⟨error, computed⟩ := Invocation.finish_rejected publish due (desk.state, lent)
      simp only [carryOut, held, closing.call_eq, computed, desk.put_eq_self held]
      exact
        { deserved := by
            refine ⟨fun _ => ⟨_, _, _, course, ?_⟩, fun closed => absurd isOpen closed⟩
            exact ⟨fun isDue => absurd isDue due, fun _ => ⟨error, rfl⟩⟩
          follows := follows.keep rfl fun _ => ⟨rfl, fun _ same => by cases same⟩ }
  · have gone := (follows.tracks number).closed isOpen
    apply missing_honours follows
    · simp only [carryOut, gone]
    · exact ⟨fun opened => absurd opened isOpen, fun _ => rfl⟩

theorem drop_honours {origin : world} {desk : InvocationDesk world}
    {past : InvocationTranscript loan report} (follows : desk.Follows publish origin past)
    (number : Nat) :
    Honours publish origin desk past (.drop number)
      (desk.carryOut publish (.drop number)) := by
  by_cases isOpen : past.IsOpen number
  · obtain ⟨invocation, attempted, held, known, course⟩ :=
      (follows.tracks number).opened isOpen
    have warning : invocation.dropTrace? =
        if invocation.finished then none
        else some (unfinishedWarning invocation.workflow attempted) := by
      rw [Invocation.dropTrace?, unfinishedWarning, known]
    simp only [carryOut, held, warning]
    exact
      { deserved := by
          refine ⟨fun _ => ⟨_, _, _, course, rfl, rfl, rfl⟩, fun closed => absurd isOpen closed⟩
        follows := by
          refine follows.step number ((follows.tracks number).giveUp _) ?_ rfl rfl
            (Nat.le_refl _) (follows.begun_of_isOpen isOpen)
          intro other different
          refine ⟨rfl, fun _ same => ?_⟩
          cases same
          exact different rfl }
  · have gone := (follows.tracks number).closed isOpen
    apply missing_honours follows
    · simp only [carryOut, gone]
    · exact ⟨fun opened => absurd opened isOpen, fun _ => rfl⟩

theorem carryOut_honours {origin : world} {desk : InvocationDesk world}
    {past : InvocationTranscript loan report} (follows : desk.Follows publish origin past)
    (call : InvocationCall loan) :
    Honours publish origin desk past call (desk.carryOut publish call) := by
  cases call with
  | start event lent => exact start_honours follows event lent
  | close closing number event lent => exact close_honours follows closing number event lent
  | drop number => exact drop_honours follows number

theorem carryOut_of_rejected (desk : InvocationDesk world) (call : InvocationCall loan)
    {error : InvocationError} {returned : loan}
    (rejected : (desk.carryOut publish call).1 = .rejected error returned) :
    (desk.carryOut publish call).2 = desk := by
  cases call with
  | start event lent =>
      by_cases attempt : ∃ workflow, event.eventType = .lifecycle workflow .attempted
      · obtain ⟨workflow, attempted⟩ := attempt
        simp only [carryOut, Invocation.start_accepted publish attempted] at rejected
        cases rejected
      · have other (workflow : Workflow) : event.eventType ≠ .lifecycle workflow .attempted :=
          fun same => attempt ⟨workflow, same⟩
        obtain ⟨_error, computed⟩ := Invocation.start_rejected publish other (desk.state, lent)
        simp only [carryOut, computed]
        rfl
  | close closing number event lent =>
      cases held : desk.held number with
      | none => simp only [carryOut, held]
      | some invocation =>
          by_cases due : invocation.finished = false ∧
              event.eventType = .lifecycle invocation.workflow closing.stage
          · have computed := Invocation.finish_accepted publish due (desk.state, lent)
            simp only [carryOut, held, closing.call_eq, computed] at rejected
            cases rejected
          · obtain ⟨_error, computed⟩ := Invocation.finish_rejected publish due (desk.state, lent)
            simp only [carryOut, held, closing.call_eq, computed, desk.put_eq_self held]
            rfl
  | drop number =>
      cases held : desk.held number with
      | none => simp only [carryOut, held]
      | some invocation =>
          simp only [carryOut, held] at rejected
          cases rejected

/-! ### Whole runs -/

theorem run_calls (publish : Invocation.Publisher (world × loan) report)
    (desk : InvocationDesk world) (calls : List (InvocationCall loan)) :
    (desk.run publish calls).1.map Prod.fst = calls := by
  induction calls generalizing desk with
  | nil => rfl
  | cons call rest ih =>
      simp only [run, List.map_cons]
      rw [ih]

theorem run_follows {origin : world} {desk : InvocationDesk world}
    {past : InvocationTranscript loan report} (follows : desk.Follows publish origin past)
    (calls : List (InvocationCall loan)) :
    (desk.run publish calls).2.Follows publish origin (past ++ (desk.run publish calls).1) := by
  induction calls generalizing desk past with
  | nil => exact (List.append_nil past).symm ▸ follows
  | cons call rest ih =>
      have later := ih (carryOut_honours follows call).follows
      rw [List.append_assoc] at later
      exact later

theorem run_of_rejected (desk : InvocationDesk world) (calls : List (InvocationCall loan))
    (rejected : ∀ step ∈ (desk.run publish calls).1,
      ∃ error returned, step.2 = .rejected error returned) :
    (desk.run publish calls).2 = desk := by
  induction calls with
  | nil => rfl
  | cons call rest ih =>
      obtain ⟨error, returned, answer⟩ := rejected _ List.mem_cons_self
      have unchanged := carryOut_of_rejected desk call answer
      simp only [run] at rejected ⊢
      rw [unchanged] at rejected ⊢
      exact ih fun step member => rejected step (List.mem_cons_of_mem _ member)

/-- The protocol of invocations, for every publisher, every state that it works on and
every interleaving of calls.  The state is what publishing the accepted calls' events
makes of the first one.  What an invocation has published is its attempted event and
at most one terminal event of the same workflow, and it is held as finished exactly
when there is one.  Every next call comes to what it has to, and any number of rejected
calls leaves everything as it was. -/
theorem run_follows_protocol (publish : Invocation.Publisher (world × loan) report)
    (origin : world) (calls : List (InvocationCall loan)) :
    let (transcript, desk) := (start origin).run publish calls
    transcript.map Prod.fst = calls ∧
      desk.state = stateAfter publish origin (published transcript) ∧
      (∀ number, publishedBy transcript number = [] ∨ ∃ workflow attempted finished,
        Course workflow attempted finished (publishedBy transcript number)) ∧
      (∀ number, IsOpen transcript number → ∃ invocation attempted,
        desk.held number = some invocation ∧ invocation.attemptedId = attempted.id ∧
          Course invocation.workflow attempted invocation.finished
            (publishedBy transcript number)) ∧
      (∀ call, Deserves publish transcript desk call (desk.carryOut publish call)) ∧
      ∀ further, (∀ step ∈ (desk.run publish further).1,
          ∃ error returned, step.2 = .rejected error returned) →
        (desk.run publish further).2 = desk := by
  have follows := run_follows (start_follows publish origin) calls
  rw [List.nil_append] at follows
  refine ⟨run_calls publish _ calls, follows.state, ?_, ?_, ?_, ?_⟩
  · exact fun number => (follows.tracks number).course
  · exact fun number => (follows.tracks number).opened
  · exact fun call => (carryOut_honours follows call).deserved
  · exact fun further => run_of_rejected _ further

end InvocationDesk
end WorkflowBus
