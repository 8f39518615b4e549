/-
Histories of an audit trail.

A desk is a trail with every session that was ever opened over it.  Calls come in
any order and for any session.  The main statement compares the entries of the
trail with the transcript of the calls and their answers: the trail is always
valid, numbered and only added to, and it holds what was recorded directly and
what was committed, each at the moment of that call, and nothing else.
-/

import WorkflowBus.Proofs.Audit.Chain
import WorkflowBus.Proofs.Since

namespace WorkflowBus

/-- A call on a trail, or on a session over it.  Sessions are numbered in the
order in which they are opened. -/
inductive AuditCall where
  | record (now : Instant) (record : AuditRecord)
  | openSession
  | recordIn (session : Nat) (record : AuditRecord)
  | commit (session : Nat) (now : Instant)
  | rollback (session : Nat)
  | drop (session : Nat)

inductive AuditAnswer where
  | recorded (id : Uuid)
  | opened (session : Nat)
  | committed (ids : List Uuid)
  | discarded
  | refused

/-- A trail with the sessions over it by their numbers, those that have ended
being gone, and the supply of identifiers. -/
structure AuditDesk where
  trail : AuditTrail
  sessions : List (Option AuditSession)
  ids : IdSupply

namespace AuditDesk

def start (ids : IdSupply) : AuditDesk where
  trail := .empty
  sessions := []
  ids := ids

def session? (desk : AuditDesk) (number : Nat) : Option AuditSession :=
  desk.sessions[number]?.join

def withSession (desk : AuditDesk) : AuditDesk :=
  { desk with sessions := desk.sessions ++ [some .start] }

def replace (desk : AuditDesk) (number : Nat) (session : Option AuditSession) : AuditDesk :=
  { desk with sessions := desk.sessions.set number session }

def withTrail (desk : AuditDesk) (trail : AuditTrail) (ids : IdSupply) : AuditDesk :=
  { desk with trail := trail, ids := ids }

/-- Carries out a call.  A session that is not open refuses. -/
def carryOut (desk : AuditDesk) : AuditCall → AuditAnswer × AuditDesk
  | .record now record =>
      match desk.trail.record now desk.ids record with
      | (.ok id, trail, ids) => (.recorded id, desk.withTrail trail ids)
      | (.error _, trail, ids) => (.refused, desk.withTrail trail ids)
  | .openSession => (.opened desk.sessions.length, desk.withSession)
  | .recordIn number record =>
      match desk.session? number with
      | none => (.refused, desk)
      | some session =>
          match session.record desk.ids record with
          | (.ok id, session, ids) =>
              (.recorded id, (desk.replace number (some session)).withTrail desk.trail ids)
          | (.error _, session, ids) =>
              (.refused, (desk.replace number (some session)).withTrail desk.trail ids)
  | .commit number now =>
      match (desk.session? number).bind fun session => session.commit? now desk.trail with
      | none => (.refused, desk)
      | some (ids, trail) => (.committed ids, (desk.replace number none).withTrail trail desk.ids)
  | .rollback number =>
      match (desk.session? number).bind AuditSession.rollback? with
      | none => (.refused, desk)
      | some _ => (.discarded, desk.replace number none)
  | .drop number =>
      match desk.session? number with
      | none => (.refused, desk)
      | some _ => (.discarded, desk.replace number none)

def run (desk : AuditDesk) : List AuditCall → List (AuditCall × AuditAnswer) × AuditDesk
  | [] => ([], desk)
  | call :: rest =>
      let (answer, next) := desk.carryOut call
      let (transcript, after) := next.run rest
      ((call, answer) :: transcript, after)

end AuditDesk

/-! ### Transcripts -/

def AuditCall.Ends (session : Nat) : AuditCall → Prop
  | .commit number _ | .rollback number | .drop number => number = session
  | _ => False

abbrev AuditTranscript := List (AuditCall × AuditAnswer)

namespace AuditTranscript

/-- The session has been opened, and no later call has ended it. -/
def IsOpen (past : AuditTranscript) (session : Nat) : Prop :=
  ∃ before after, past = before ++ (.openSession, .opened session) :: after ∧
    ∀ step ∈ after, ¬step.1.Ends session

def written? (session : Nat) : AuditCall × AuditAnswer → Option (Uuid × AuditRecord)
  | (.recordIn number record, .recorded id) => if number = session then some (id, record) else none
  | _ => none

/-- What has been written to a session, in order, under the identifiers that the
calls answered. -/
def written (past : AuditTranscript) (session : Nat) : List (Uuid × AuditRecord) :=
  past.filterMap (written? session)

/-- What a step adds to the trail: a direct record, or at a commit all that has
been written to the session. -/
def stored (past : AuditTranscript) : AuditCall × AuditAnswer → List (Uuid × AuditRecord)
  | (.record _ record, .recorded id) => [(id, record)]
  | (.commit session _, .committed _) => past.written session
  | _ => []

def allStored (past : AuditTranscript) : AuditTranscript → List (Uuid × AuditRecord)
  | [] => []
  | step :: rest => past.stored step ++ allStored (past ++ [step]) rest

/-- The answer that a call deserves.  A direct record is always taken, and a session
takes every call while it is open and none otherwise. -/
def Deserves (past : AuditTranscript) : AuditCall → AuditAnswer → Prop
  | .record _ _, answer => ∃ id, answer = .recorded id
  | .openSession, answer =>
      ∃ session, answer = .opened session ∧ (.openSession, .opened session) ∉ past
  | .recordIn session _, answer =>
      (past.IsOpen session → ∃ id, answer = .recorded id) ∧
        (¬past.IsOpen session → answer = .refused)
  | .commit session _, answer =>
      (past.IsOpen session → answer = .committed ((past.written session).map Prod.fst)) ∧
        (¬past.IsOpen session → answer = .refused)
  | .rollback session, answer | .drop session, answer =>
      (past.IsOpen session → answer = .discarded) ∧ (¬past.IsOpen session → answer = .refused)

theorem isOpen_append (past : AuditTranscript) (step : AuditCall × AuditAnswer) (session : Nat) :
    IsOpen (past ++ [step]) session ↔
      step = (.openSession, .opened session) ∨ past.IsOpen session ∧ ¬step.1.Ends session :=
  since_concat past step

theorem written_append (past : AuditTranscript) (step : AuditCall × AuditAnswer) (session : Nat) :
    written (past ++ [step]) session = past.written session ++ (written? session step).toList :=
  filterMap_concat _ past step

theorem allStored_append (past steps : AuditTranscript) (step : AuditCall × AuditAnswer) :
    allStored past (steps ++ [step]) = allStored past steps ++ stored (past ++ steps) step := by
  induction steps generalizing past with
  | nil => simp [allStored]
  | cons head rest ih =>
      simp only [List.cons_append, allStored]
      rw [ih, List.append_assoc, List.append_assoc, List.singleton_append]

end AuditTranscript

/-- The trail is valid and holds what the transcript stores. -/
structure AuditTrail.Holds (trail : AuditTrail) (past : AuditTranscript) : Prop where
  inService : trail.outage = none
  sound : trail.Sound
  contents : trail.contents = AuditTranscript.allStored [] past

namespace AuditTrail

theorem Holds.add {trail : AuditTrail} {past : AuditTranscript} (holds : trail.Holds past)
    (now : Instant) (step : AuditCall × AuditAnswer) :
    (trail.appendAll now (past.stored step)).Holds (past ++ [step]) where
  inService := (trail.appendAll_outage now _).trans holds.inService
  sound := trail.appendAll_sound now _ holds.sound
  contents := by
    rw [appendAll_contents, holds.contents, AuditTranscript.allStored_append]
    rfl

theorem Holds.keep {trail : AuditTrail} {past : AuditTranscript} (holds : trail.Holds past)
    (step : AuditCall × AuditAnswer) (nothing : past.stored step = []) :
    trail.Holds (past ++ [step]) where
  inService := holds.inService
  sound := holds.sound
  contents := by
    rw [AuditTranscript.allStored_append, List.nil_append, nothing, List.append_nil]
    exact holds.contents

end AuditTrail

/-! ### The sessions of a history -/

namespace AuditTranscript

/-- The sessions by their numbers are as the transcript says: an open one holds what
was written to it, and no other is there. -/
structure Tracks (past : AuditTranscript) (sessions : List (Option AuditSession)) : Prop where
  numbered : ∀ number, (.openSession, .opened number) ∈ past → number < sessions.length
  unwritten : ∀ number, sessions.length ≤ number → past.written number = []
  buffered : ∀ number, past.IsOpen number →
    sessions[number]?.join = some (.buffering (past.written number))
  ended : ∀ number, ¬past.IsOpen number → sessions[number]?.join = none

theorem Tracks.lt_of_isOpen {past : AuditTranscript} {sessions : List (Option AuditSession)}
    (tracks : past.Tracks sessions) (number : Nat) (isOpen : past.IsOpen number) :
    number < sessions.length := by
  have held := tracks.buffered number isOpen
  apply Nat.lt_of_not_le
  intro outside
  rw [List.getElem?_eq_none outside] at held
  cases held

/-- What a step changes of the sessions, as far as it is the same for all steps. -/
theorem Tracks.step {past : AuditTranscript} {sessions : List (Option AuditSession)}
    (tracks : past.Tracks sessions) (step : AuditCall × AuditAnswer)
    (after : List (Option AuditSession)) (longer : sessions.length ≤ after.length)
    (opened : ∀ number, step = (.openSession, .opened number) → number < after.length)
    (wrote : ∀ number, after.length ≤ number → written? number step = none)
    (buffered : ∀ number, IsOpen (past ++ [step]) number →
      after[number]?.join =
        some (.buffering (past.written number ++ (written? number step).toList)))
    (ended : ∀ number, ¬IsOpen (past ++ [step]) number → after[number]?.join = none) :
    Tracks (past ++ [step]) after where
  numbered := by
    intro number member
    rcases List.mem_append.mp member with earlier | last
    · exact Nat.lt_of_lt_of_le (tracks.numbered number earlier) longer
    · exact opened number (List.mem_singleton.mp last).symm
  unwritten := by
    intro number outside
    rw [written_append, tracks.unwritten number (Nat.le_trans longer outside),
      wrote number outside]
    rfl
  buffered := by
    intro number isOpen
    rw [written_append]
    exact buffered number isOpen
  ended := ended

theorem Tracks.keep {past : AuditTranscript} {sessions : List (Option AuditSession)}
    (tracks : past.Tracks sessions) (step : AuditCall × AuditAnswer)
    (opens : ∀ number, step ≠ (.openSession, .opened number))
    (ends : ∀ number, step.1.Ends number → ¬past.IsOpen number)
    (writes : ∀ number, written? number step = none) : Tracks (past ++ [step]) sessions := by
  have sameOpen (number : Nat) : IsOpen (past ++ [step]) number ↔ past.IsOpen number := by
    rw [isOpen_append, or_iff_right (opens number)]
    exact and_iff_left_of_imp (fun isOpen ended => ends number ended isOpen)
  apply tracks.step step sessions (Nat.le_refl _)
  · intro number same
    exact absurd same (opens number)
  · intro number _outside
    exact writes number
  · intro number isOpen
    rw [writes number, Option.toList_none, List.append_nil]
    exact tracks.buffered number ((sameOpen number).mp isOpen)
  · intro number closed
    exact tracks.ended number (fun isOpen => closed ((sameOpen number).mpr isOpen))

theorem Tracks.afterOpening {past : AuditTranscript} {sessions : List (Option AuditSession)}
    (tracks : past.Tracks sessions) :
    Tracks (past ++ [(.openSession, .opened sessions.length)]) (sessions ++ [some .start]) := by
  have longer : (sessions ++ [some AuditSession.start]).length = sessions.length + 1 := by
    rw [List.length_append, List.length_singleton]
  have nowOpen (number : Nat) :
      IsOpen (past ++ [(.openSession, .opened sessions.length)]) number ↔
        number = sessions.length ∨ past.IsOpen number := by
    rw [isOpen_append]
    constructor
    · intro either
      rcases either with same | ⟨isOpen, _goes⟩
      · cases same
        exact Or.inl rfl
      · exact Or.inr isOpen
    · intro either
      rcases either with same | isOpen
      · subst same
        exact Or.inl rfl
      · exact Or.inr ⟨isOpen, id⟩
  have others (number : Nat) (other : number ≠ sessions.length) :
      (sessions ++ [some AuditSession.start])[number]? = sessions[number]? := by
    rcases Nat.lt_or_gt_of_ne other with within | outside
    · exact List.getElem?_append_left within
    · rw [List.getElem?_eq_none (Nat.le_of_lt outside), List.getElem?_eq_none]
      omega
  apply tracks.step
  · omega
  · intro number same
    cases same
    omega
  · intro number _outside
    rfl
  · intro number isOpen
    by_cases new : number = sessions.length
    · subst new
      rw [tracks.unwritten _ (Nat.le_refl _), List.getElem?_concat_length]
      rfl
    · rw [others number new]
      have older := ((nowOpen number).mp isOpen).resolve_left new
      exact (tracks.buffered number older).trans
        (congrArg (some ∘ AuditSession.buffering) (List.append_nil _).symm)
  · intro number closed
    have other : number ≠ sessions.length := fun new => closed ((nowOpen number).mpr (Or.inl new))
    rw [others number other]
    exact tracks.ended number (fun isOpen => closed ((nowOpen number).mpr (Or.inr isOpen)))

theorem join_getElem?_set (sessions : List (Option AuditSession)) (number : Nat)
    (session : Option AuditSession) (within : number < sessions.length) (other : Nat) :
    (sessions.set number session)[other]?.join =
      if other = number then session else sessions[other]?.join := by
  rw [List.getElem?_set]
  by_cases same : other = number
  · subst other
    rw [if_pos rfl, if_pos rfl, if_pos within]
    rfl
  · rw [if_neg same, if_neg (Ne.symm same)]

theorem Tracks.afterWriting {past : AuditTranscript} {sessions : List (Option AuditSession)}
    (tracks : past.Tracks sessions) (session : Nat) (isOpen : past.IsOpen session) (id : Uuid)
    (record : AuditRecord) :
    Tracks (past ++ [(.recordIn session record, .recorded id)])
      (sessions.set session (some (.buffering (past.written session ++ [(id, record)])))) := by
  have within := tracks.lt_of_isOpen session isOpen
  have nowOpen (number : Nat) :
      IsOpen (past ++ [(.recordIn session record, .recorded id)]) number ↔
        past.IsOpen number := by
    rw [isOpen_append, or_iff_right (fun same => by cases same)]
    exact and_iff_left_of_imp (fun _isOpen ended => ended)
  have wrote (number : Nat) (other : number ≠ session) :
      written? number (.recordIn session record, .recorded id) = none :=
    if_neg (Ne.symm other)
  apply tracks.step
  · exact Nat.le_of_eq List.length_set.symm
  · intro number same
    cases same
  · intro number outside
    rw [List.length_set] at outside
    exact wrote number (by omega)
  · intro number stillOpen
    rw [join_getElem?_set sessions session _ within]
    by_cases same : number = session
    · subst same
      rw [if_pos rfl, written?, if_pos rfl]
      rfl
    · rw [if_neg same, wrote number same, Option.toList_none, List.append_nil]
      exact tracks.buffered number ((nowOpen number).mp stillOpen)
  · intro number closed
    have other : number ≠ session := fun same => closed ((nowOpen number).mpr (same ▸ isOpen))
    rw [join_getElem?_set sessions session _ within, if_neg other]
    exact tracks.ended number (fun isOpen => closed ((nowOpen number).mpr isOpen))

theorem Tracks.afterEnding {past : AuditTranscript} {sessions : List (Option AuditSession)}
    (tracks : past.Tracks sessions) (session : Nat) (isOpen : past.IsOpen session)
    (call : AuditCall) (answer : AuditAnswer)
    (ends : ∀ number, call.Ends number ↔ session = number) :
    Tracks (past ++ [(call, answer)]) (sessions.set session none) := by
  have within := tracks.lt_of_isOpen session isOpen
  have opens (number : Nat) : (call, answer) ≠ (.openSession, .opened number) := by
    intro same
    cases same
    exact (ends session).mpr rfl
  have writes (number : Nat) : written? number (call, answer) = none := by
    cases call with
    | recordIn other record => exact ((ends session).mpr rfl).elim
    | _ => rfl
  have nowOpen (number : Nat) :
      IsOpen (past ++ [(call, answer)]) number ↔ past.IsOpen number ∧ session ≠ number := by
    rw [isOpen_append, or_iff_right (opens number), ends number]
  apply tracks.step
  · exact Nat.le_of_eq List.length_set.symm
  · intro number same
    exact absurd same (opens number)
  · intro number _outside
    exact writes number
  · intro number stillOpen
    obtain ⟨before, other⟩ := (nowOpen number).mp stillOpen
    rw [join_getElem?_set sessions session _ within, if_neg (Ne.symm other), writes number,
      Option.toList_none, List.append_nil]
    exact tracks.buffered number before
  · intro number closed
    rw [join_getElem?_set sessions session _ within]
    by_cases same : number = session
    · rw [if_pos same]
    · rw [if_neg same]
      apply tracks.ended number
      intro before
      exact closed ((nowOpen number).mpr ⟨before, Ne.symm same⟩)

end AuditTranscript

/-! ### One call -/

namespace AuditDesk

structure Follows (desk : AuditDesk) (past : AuditTranscript) : Prop where
  holds : desk.trail.Holds past
  tracks : past.Tracks desk.sessions

theorem Follows.session?_of_isOpen {desk : AuditDesk} {past : AuditTranscript}
    (follows : desk.Follows past) (session : Nat) (isOpen : past.IsOpen session) :
    desk.session? session = some (.buffering (past.written session)) :=
  follows.tracks.buffered session isOpen

theorem Follows.session?_of_closed {desk : AuditDesk} {past : AuditTranscript}
    (follows : desk.Follows past) (session : Nat) (closed : ¬past.IsOpen session) :
    desk.session? session = none :=
  follows.tracks.ended session closed

theorem start_follows (ids : IdSupply) : (start ids).Follows [] where
  holds :=
    { inService := rfl
      sound := AuditTrail.sound_empty
      contents := rfl }
  tracks :=
    { numbered := by intro number impossible; cases impossible
      unwritten := by intro number _outside; rfl
      buffered := by
        intro number isOpen
        obtain ⟨before, after, split, _going⟩ := isOpen
        cases before <;> cases split
      ended := by intro number _closed; rfl }

/-- What a call on a desk that follows its transcript has to come to: the answer
that it deserves, no entry changed, and a desk that follows the longer transcript. -/
structure Honours (desk : AuditDesk) (past : AuditTranscript) (call : AuditCall)
    (outcome : AuditAnswer × AuditDesk) : Prop where
  deserved : past.Deserves call outcome.1
  extended : desk.trail.entries <+: outcome.2.trail.entries
  follows : outcome.2.Follows (past ++ [(call, outcome.1)])

theorem record_honours {desk : AuditDesk} {past : AuditTranscript} (follows : desk.Follows past)
    (now : Instant) (record : AuditRecord) :
    desk.Honours past (.record now record) (desk.carryOut (.record now record)) := by
  have computed : desk.carryOut (.record now record) =
      (.recorded desk.ids.draw.1,
        desk.withTrail (desk.trail.append now desk.ids.draw.1 record) desk.ids.draw.2) := by
    simp only [carryOut, AuditTrail.record, follows.holds.inService]
  rw [computed]
  exact
    { deserved := ⟨_, rfl⟩
      extended := List.prefix_append _ _
      follows :=
        { holds := follows.holds.add now (.record now record, .recorded desk.ids.draw.1)
          tracks := by
            apply follows.tracks.keep
            · intro number same
              cases same
            · intro number ended
              cases ended
            · intro number
              rfl } }

theorem openSession_honours {desk : AuditDesk} {past : AuditTranscript}
    (follows : desk.Follows past) :
    desk.Honours past .openSession (desk.carryOut .openSession) where
  deserved := ⟨_, rfl, fun member => Nat.lt_irrefl _ (follows.tracks.numbered _ member)⟩
  extended := List.prefix_refl _
  follows :=
    { holds := follows.holds.keep _ rfl
      tracks := follows.tracks.afterOpening }

theorem refused_honours {desk : AuditDesk} {past : AuditTranscript} (follows : desk.Follows past)
    (call : AuditCall) (computed : desk.carryOut call = (.refused, desk))
    (deserved : past.Deserves call .refused)
    (ends : ∀ number, call.Ends number → ¬past.IsOpen number) :
    desk.Honours past call (desk.carryOut call) := by
  rw [computed]
  exact
    { deserved := deserved
      extended := List.prefix_refl _
      follows :=
        { holds := follows.holds.keep _ (by cases call <;> rfl)
          tracks := by
            apply follows.tracks.keep
            · intro number same
              cases same
            · exact ends
            · intro number
              cases call <;> rfl } }

theorem recordIn_honours {desk : AuditDesk} {past : AuditTranscript} (follows : desk.Follows past)
    (session : Nat) (record : AuditRecord) :
    desk.Honours past (.recordIn session record) (desk.carryOut (.recordIn session record)) := by
  by_cases isOpen : past.IsOpen session
  · have held := follows.session?_of_isOpen session isOpen
    have computed : desk.carryOut (.recordIn session record) =
        (.recorded desk.ids.draw.1,
          (desk.replace session
            (some (.buffering (past.written session ++ [(desk.ids.draw.1, record)])))).withTrail
              desk.trail desk.ids.draw.2) := by
      simp only [carryOut, held, AuditSession.record]
    rw [computed]
    exact
      { deserved := ⟨fun _ => ⟨_, rfl⟩, fun closed => absurd isOpen closed⟩
        extended := List.prefix_refl _
        follows :=
          { holds := follows.holds.keep _ rfl
            tracks := follows.tracks.afterWriting session isOpen _ record } }
  · have gone := follows.session?_of_closed session isOpen
    apply refused_honours follows
    · simp only [carryOut, gone]
    · exact ⟨fun opened => absurd opened isOpen, fun _ => rfl⟩
    · intro number ended
      cases ended

theorem commit_honours {desk : AuditDesk} {past : AuditTranscript} (follows : desk.Follows past)
    (session : Nat) (now : Instant) :
    desk.Honours past (.commit session now) (desk.carryOut (.commit session now)) := by
  by_cases isOpen : past.IsOpen session
  · have held := follows.session?_of_isOpen session isOpen
    have computed : desk.carryOut (.commit session now) =
        (.committed ((past.written session).map Prod.fst),
          (desk.replace session none).withTrail (desk.trail.appendAll now (past.written session))
            desk.ids) := by
      simp only [carryOut, held, Option.bind_some, AuditSession.commit?]
      rfl
    rw [computed]
    exact
      { deserved := ⟨fun _ => rfl, fun closed => absurd isOpen closed⟩
        extended := AuditTrail.entries_isPrefix_appendAll _ _ _
        follows :=
          { holds := follows.holds.add now
              (.commit session now, .committed ((past.written session).map Prod.fst))
            tracks := follows.tracks.afterEnding session isOpen _ _ (fun _ => Iff.rfl) } }
  · have gone := follows.session?_of_closed session isOpen
    apply refused_honours follows
    · simp only [carryOut, gone, Option.bind_none]
    · exact ⟨fun opened => absurd opened isOpen, fun _ => rfl⟩
    · intro number same
      exact same ▸ isOpen

theorem discard_honours {desk : AuditDesk} {past : AuditTranscript} (follows : desk.Follows past)
    (session : Nat) (call : AuditCall)
    (discards : past.IsOpen session → desk.carryOut call = (.discarded, desk.replace session none))
    (refuses : ¬past.IsOpen session → desk.carryOut call = (.refused, desk))
    (ends : ∀ number, call.Ends number ↔ session = number)
    (stores : past.stored (call, .discarded) = [])
    (deserves : ∀ answer, (past.IsOpen session → answer = .discarded) →
      (¬past.IsOpen session → answer = .refused) → past.Deserves call answer) :
    desk.Honours past call (desk.carryOut call) := by
  by_cases isOpen : past.IsOpen session
  · rw [discards isOpen]
    exact
      { deserved := deserves _ (fun _ => rfl) (fun closed => absurd isOpen closed)
        extended := List.prefix_refl _
        follows :=
          { holds := follows.holds.keep _ stores
            tracks := follows.tracks.afterEnding session isOpen call .discarded ends } }
  · apply refused_honours follows call (refuses isOpen)
    · exact deserves _ (fun opened => absurd opened isOpen) (fun _ => rfl)
    · intro number ended
      exact (ends number).mp ended ▸ isOpen

theorem rollback_honours {desk : AuditDesk} {past : AuditTranscript} (follows : desk.Follows past)
    (session : Nat) :
    desk.Honours past (.rollback session) (desk.carryOut (.rollback session)) := by
  apply discard_honours follows session
  · intro isOpen
    have held := follows.session?_of_isOpen session isOpen
    simp only [carryOut, held, Option.bind_some, AuditSession.rollback?]
  · intro closed
    have gone := follows.session?_of_closed session closed
    simp only [carryOut, gone, Option.bind_none]
  · exact fun _ => Iff.rfl
  · rfl
  · exact fun _ opened closed => ⟨opened, closed⟩

theorem drop_honours {desk : AuditDesk} {past : AuditTranscript} (follows : desk.Follows past)
    (session : Nat) :
    desk.Honours past (.drop session) (desk.carryOut (.drop session)) := by
  apply discard_honours follows session
  · intro isOpen
    have held := follows.session?_of_isOpen session isOpen
    simp only [carryOut, held]
  · intro closed
    have gone := follows.session?_of_closed session closed
    simp only [carryOut, gone]
  · exact fun _ => Iff.rfl
  · rfl
  · exact fun _ opened closed => ⟨opened, closed⟩

theorem carryOut_honours {desk : AuditDesk} {past : AuditTranscript} (follows : desk.Follows past)
    (call : AuditCall) : desk.Honours past call (desk.carryOut call) := by
  cases call with
  | record now record => exact record_honours follows now record
  | openSession => exact openSession_honours follows
  | recordIn session record => exact recordIn_honours follows session record
  | commit session now => exact commit_honours follows session now
  | rollback session => exact rollback_honours follows session
  | drop session => exact drop_honours follows session

theorem run_calls (desk : AuditDesk) (calls : List AuditCall) :
    (desk.run calls).1.map Prod.fst = calls := by
  induction calls generalizing desk with
  | nil => rfl
  | cons call rest ih =>
      simp only [run, List.map_cons]
      rw [ih]

theorem run_follows {desk : AuditDesk} {past : AuditTranscript} (follows : desk.Follows past)
    (calls : List AuditCall) : (desk.run calls).2.Follows (past ++ (desk.run calls).1) := by
  induction calls generalizing desk past with
  | nil => exact (List.append_nil past).symm ▸ follows
  | cons call rest ih =>
      have later := ih (carryOut_honours follows call).follows
      rw [List.append_assoc] at later
      exact later

/-- After any history of calls on an empty trail: verification finds the trail valid
and counts all of its entries; they are numbered from one upwards; the next call,
whatever it is, only adds to them and is answered as it deserves; and the trail holds
exactly what the transcript stores. -/
theorem run_keeps_trail (ids : IdSupply) (calls : List AuditCall) :
    let (transcript, desk) := (start ids).run calls
    transcript.map Prod.fst = calls ∧
      desk.trail.verify = .valid desk.trail.entries.length ∧
      desk.trail.entries.map AuditEntry.sequenceNumber =
        (List.range desk.trail.entries.length).map (fun position : Nat => (position : Int) + 1) ∧
      desk.trail.contents = AuditTranscript.allStored [] transcript ∧
      ∀ call, desk.trail.entries <+: (desk.carryOut call).2.trail.entries ∧
        AuditTranscript.Deserves transcript call (desk.carryOut call).1 := by
  have follows := run_follows (start_follows ids) calls
  rw [List.nil_append] at follows
  obtain ⟨_inService, sound, contents⟩ := follows.holds
  refine ⟨run_calls _ calls, ?_, sound.numbered, contents, ?_⟩
  · exact Chain.verify_of_linked _ sound.linked
  · intro call
    have honoured := carryOut_honours follows call
    exact ⟨honoured.extended, honoured.deserved⟩

end AuditDesk
end WorkflowBus
