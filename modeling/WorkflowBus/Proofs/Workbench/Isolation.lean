/-
Failures stay with their category.

Two runs of the same calls differ in that some of the collaborators have been replaced,
perhaps by ones that fail every call.  The other collaborators end the same in both
runs, the logging handler tells the same, and the reports agree on every handler whose
collaborator has not been replaced.
-/

import WorkflowBus.Proofs.Workbench.Publishing

namespace WorkflowBus

def AuditSession.unnumbered : AuditSession → Except String (List AuditRecord)
  | .buffering pending => .ok (pending.map Prod.snd)
  | .down message => .error message

theorem AuditSession.unnumbered_receive (session : AuditSession)
    (written : List (Uuid × AuditRecord)) :
    (session.receive written).unnumbered =
      session.unnumbered.map (· ++ written.map Prod.snd) := by
  cases session with
  | buffering pending => exact congrArg Except.ok List.map_append
  | down message => rfl

theorem AuditSession.map_unnumbered_receive (found : Option AuditSession)
    (written : List (Uuid × AuditRecord)) :
    (found.map (·.receive written)).map unnumbered =
      (found.map unnumbered).map (Except.map (· ++ written.map Prod.snd)) := by
  cases found with
  | none => rfl
  | some session => exact congrArg some (session.unnumbered_receive written)

theorem AuditSession.refusal?_of_unnumbered {left right : AuditSession}
    (same : left.unnumbered = right.unnumbered) : left.refusal? = right.refusal? := by
  cases left with
  | buffering pending =>
      cases right with
      | buffering pending => rfl
      | down message => cases same
  | down message =>
      cases right with
      | buffering pending => cases same
      | down other =>
          cases same
          rfl

theorem AuditSession.map_refusal?_of_unnumbered {left right : Option AuditSession}
    (same : left.map unnumbered = right.map unnumbered) :
    left.map refusal? = right.map refusal? := by
  cases left with
  | none => rw [Option.map_eq_none_iff.mp same.symm]
  | some session =>
      obtain ⟨other, found, alike⟩ := Option.map_eq_some_iff.mp same.symm
      rw [found]
      exact congrArg some (refusal?_of_unnumbered alike.symm)

theorem Voice.Gains.congr {records : List LogRecord} {left right leftAfter rightAfter : Voice}
    (leftGains : Gains records left leftAfter) (rightGains : Gains records right rightAfter)
    (logged : left.logged = right.logged) (sink : left.1.made = right.1.made) :
    leftAfter.logged = rightAfter.logged ∧ leftAfter.1.made = rightAfter.1.made := by
  constructor
  · rw [leftGains.logged, rightGains.logged, logged, sink]
  · rw [leftGains.sink, rightGains.sink, sink]

namespace Workbench

/-- The answers to one call in two runs: both times there is no session, or both reports
are about the same event, with the same handlers in the same order and the same
outcomes of the handlers whose category is kept. -/
inductive AnswersMatch (kept : Category → Prop) :
    Except WorkbenchError PublishReport → Except WorkbenchError PublishReport → Prop
  | unpublished (error : WorkbenchError) : AnswersMatch kept (.error error) (.error error)
  | published {left right : PublishReport} (eventId : left.eventId = right.eventId)
      (eventType : left.eventType = right.eventType)
      (matching : List.Forall₂ (Outcome.Matches kept) left.outcomes right.outcomes) :
      AnswersMatch kept (.ok left) (.ok right)

theorem countP_isOf_of_matches {kept : Category → Prop} {left right : List Outcome}
    (matching : List.Forall₂ (Outcome.Matches kept) left right) (category : Category) :
    left.countP (Outcome.isOf category) = right.countP (Outcome.isOf category) := by
  induction matching with
  | nil => rfl
  | cons head _rest ih =>
      rw [List.countP_cons, List.countP_cons, ih, Outcome.isOf, Outcome.isOf, head.handler]

theorem AnswersMatch.countP_isOf {kept : Category → Prop}
    {left right : Except WorkbenchError PublishReport} (matching : AnswersMatch kept left right)
    (category : Category) :
    (outcomes left).countP (Outcome.isOf category) =
      (outcomes right).countP (Outcome.isOf category) := by
  cases matching with
  | unpublished error => rfl
  | published _eventId _eventType matching => exact countP_isOf_of_matches matching category

/-- A handler fares the same in a call if its category is kept; the audit handler also
if the call lends a session. -/
def Steady (kept : Category → Prop) (call : Call) (category : Category) : Prop :=
  kept category ∨ category = .audit ∧ call.session.isSome

/-- Two workbenches agree on the collaborators of the kept categories, on the records of
the logging handler, and on the sessions up to identifiers. -/
structure Isolated (kept : Category → Prop) (left right : Workbench) : Prop where
  bus : left.deployment.bus = right.deployment.bus
  now : left.atWork.now = right.atWork.now
  trail : kept .audit → left.atWork.audit = right.atWork.audit ∧
    left.atWork.ids = right.atWork.ids ∧
    ∀ name, left.sessions.lookup name = right.sessions.lookup name
  sender : kept .notification → left.atWork.notifications = right.atWork.notifications
  store : kept .invalidation → left.atWork.sessions = right.atWork.sessions
  buffered : ∀ name, (left.sessions.lookup name).map AuditSession.unnumbered =
    (right.sessions.lookup name).map AuditSession.unnumbered
  logged : left.atWork.voice.logged = right.atWork.voice.logged
  sink : left.atWork.voice.1.made = right.atWork.voice.1.made

variable {kept : Category → Prop} {left right : Workbench}

theorem Isolated.lent (isolated : Isolated kept left right) (call : Call) :
    (∃ error, left.lent? call = .error error ∧ right.lent? call = .error error) ∨
    ∃ leftContext rightContext, left.lent? call = .ok leftContext ∧
      right.lent? call = .ok rightContext ∧
      ∀ category, Steady kept call category →
        Wiring.Agree (left.scope leftContext) (right.scope rightContext) category := by
  have sessions (name : String) : (left.sessions.lookup name).map AuditSession.refusal? =
      (right.sessions.lookup name).map AuditSession.refusal? :=
    AuditSession.map_refusal?_of_unnumbered (isolated.buffered name)
  rcases lent?_alike rfl sessions with
    unlent | ⟨leftContext, rightContext, leftLent, rightLent, refusals⟩
  · exact Or.inl unlent
  · refine Or.inr ⟨leftContext, rightContext, leftLent, rightLent, ?_⟩
    intro category steady
    rcases steady with isKept | ⟨audit, lends⟩
    · cases category with
      | logging => trivial
      | audit => exact refusals (Or.inr (congrArg AuditTrail.outage (isolated.trail isKept).1))
      | notification => exact isolated.sender isKept
      | invalidation => exact isolated.store isKept
    · subst audit
      exact refusals (Or.inl lends)

/-- What is filed depends on whether records are refused, and its identifiers on the
supply. -/
theorem filed_eq_stamp (registry : Registry) {call : Call}
    {leftContext rightContext : Option DispatchContext}
    (leftLent : left.lent? call = .ok leftContext)
    (rightLent : right.lent? call = .ok rightContext)
    (agree : Wiring.Agree (left.scope leftContext) (right.scope rightContext) .audit) :
    ∃ records, left.filed registry call = left.atWork.ids.stamp records ∧
      right.filed registry call = right.atWork.ids.stamp records := by
  have refusals : (left.scope leftContext).refusal? = (right.scope rightContext).refusal? := agree
  refine ⟨_, filed_of_lent registry leftLent, ?_⟩
  rw [filed_of_lent registry rightLent, refusals, operation?_of_lent leftLent,
    operation?_of_lent rightLent]

theorem publish_isolated {registry : Registry} {settings : BusSettings}
    (wired : left.deployment.bus = Wiring.bus registry settings)
    (isolated : Isolated kept left right) (call : Call) :
    AnswersMatch (Steady kept call) (left.publish call).1 (right.publish call).1 ∧
      Isolated kept (left.publish call).2 (right.publish call).2 := by
  rcases isolated.lent call with
    ⟨error, leftError, rightError⟩ | ⟨leftContext, rightContext, leftLent, rightLent, agree⟩
  · rw [publish_of_unlent leftError, publish_of_unlent rightError]
    exact ⟨.unpublished error, isolated⟩
  · have rightWired : right.deployment.bus = Wiring.bus registry settings :=
      isolated.bus.symm.trans wired
    have leftEffect := publish_effect wired call
    have rightEffect := publish_effect rightWired call
    have matching : AnswersMatch (Steady kept call) (left.publish call).1
        (right.publish call).1 := by
      rw [publish_of_lent leftLent, publish_of_lent rightLent, wired, rightWired]
      refine .published ?_ ?_
        (Wiring.publish_matches registry settings call.event isolated.now agree)
      · rw [EventBus.eventId_publish, EventBus.eventId_publish]
      · rw [EventBus.eventType_publish, EventBus.eventType_publish]
    have gains := leftEffect.gains.congr
      (matching.countP_isOf .logging ▸ rightEffect.gains) isolated.logged isolated.sink
    refine ⟨matching, ?_⟩
    exact
      { bus := leftEffect.bus.trans (isolated.bus.trans rightEffect.bus.symm)
        now := leftEffect.now.trans (isolated.now.trans rightEffect.now.symm)
        trail := by
          intro isKept
          obtain ⟨trails, supplies, sessions⟩ := isolated.trail isKept
          obtain ⟨records, leftFiled, rightFiled⟩ :=
            filed_eq_stamp registry leftLent rightLent (agree .audit (Or.inl isKept))
          have filed : left.filed registry call = right.filed registry call := by
            rw [leftFiled, rightFiled, supplies]
          refine ⟨?_, ?_, ?_⟩
          · rw [leftEffect.audit, rightEffect.audit, filed, trails, isolated.now]
          · rw [leftEffect.ids, rightEffect.ids, filed, supplies]
          · intro name
            rw [leftEffect.sessions, rightEffect.sessions, filed, sessions]
        sender := by
          intro isKept
          rw [publish_of_lent leftLent, publish_of_lent rightLent, wired, rightWired,
            atWork_resume, atWork_resume]
          exact Wiring.agree_publish registry settings call.event isolated.now
            (agree .notification (Or.inl isKept))
        store := by
          intro isKept
          rw [publish_of_lent leftLent, publish_of_lent rightLent, wired, rightWired,
            atWork_resume, atWork_resume]
          exact Wiring.agree_publish registry settings call.event isolated.now
            (agree .invalidation (Or.inl isKept))
        buffered := by
          intro name
          rw [leftEffect.sessions, rightEffect.sessions, AuditSession.map_unnumbered_receive,
            AuditSession.map_unnumbered_receive, isolated.buffered]
          -- A lent session takes the records even where the trail has been replaced.
          by_cases named : call.session = some name
          · have lends : call.session.isSome = true := by rw [named]; rfl
            obtain ⟨records, leftFiled, rightFiled⟩ :=
              filed_eq_stamp registry leftLent rightLent (agree .audit (Or.inr ⟨rfl, lends⟩))
            rw [if_pos named, if_pos named, leftFiled, rightFiled, IdSupply.stamp_records,
              IdSupply.stamp_records]
          · rw [if_neg named, if_neg named]
        logged := gains.1
        sink := gains.2 }

structure StepsMatch (kept : Category → Prop)
    (left right : Call × Except WorkbenchError PublishReport) : Prop where
  call : left.1 = right.1
  answers : AnswersMatch (Steady kept left.1) left.2 right.2

theorem publishAll_isolated {registry : Registry} {settings : BusSettings}
    (wired : left.deployment.bus = Wiring.bus registry settings)
    (isolated : Isolated kept left right) (calls : List Call) :
    List.Forall₂ (StepsMatch kept) (left.publishAll calls).1 (right.publishAll calls).1 ∧
      Isolated kept (left.publishAll calls).2 (right.publishAll calls).2 := by
  induction calls generalizing left right with
  | nil => exact ⟨.nil, isolated⟩
  | cons call rest ih =>
      obtain ⟨matching, next⟩ := publish_isolated wired isolated call
      have stillWired := (publish_effect wired call).bus.trans wired
      obtain ⟨later, after⟩ := ih stillWired next
      exact ⟨.cons ⟨rfl, matching⟩ later, after⟩

end Workbench

/-! ### Replaced collaborators -/

/-- Collaborators that take the place of those in use; a category without one keeps
its own. -/
structure Replacement where
  audit : Option AuditTrail
  notification : Option NotificationSender
  invalidation : Option SessionStore

def Replacement.Keeps (replacement : Replacement) : Category → Prop
  | .logging => True
  | .audit => replacement.audit = none
  | .notification => replacement.notification = none
  | .invalidation => replacement.invalidation = none

def Services.replacing (services : Services) (replacement : Replacement) : Services :=
  { services with
    audit := replacement.audit.getD services.audit
    notifications := replacement.notification.getD services.notifications
    sessions := replacement.invalidation.getD services.sessions }

namespace Workbench

def replacing (bench : Workbench) (replacement : Replacement) : Workbench :=
  bench.mapServices fun services => (services.exchanged.replacing replacement).exchanged

theorem atWork_replacing (bench : Workbench) (replacement : Replacement) :
    (bench.replacing replacement).atWork = bench.atWork.replacing replacement :=
  (bench.atWork.replacing replacement).exchanged_exchanged

theorem replacing_isolated (bench : Workbench) (replacement : Replacement) :
    Isolated replacement.Keeps bench (bench.replacing replacement) where
  bus := rfl
  now := by rw [atWork_replacing]; rfl
  trail := by
    intro isKept
    have own : replacement.audit = none := isKept
    rw [atWork_replacing, Services.replacing, own]
    exact ⟨rfl, rfl, fun _ => rfl⟩
  sender := by
    intro isKept
    have own : replacement.notification = none := isKept
    rw [atWork_replacing, Services.replacing, own]
    rfl
  store := by
    intro isKept
    have own : replacement.invalidation = none := isKept
    rw [atWork_replacing, Services.replacing, own]
    rfl
  buffered := fun _ => rfl
  logged := by rw [atWork_replacing]; rfl
  sink := by rw [atWork_replacing]; rfl

/-- Failures stay with their category.  Let any of the audit trail, the sender and the
session store that a wired bus works with be replaced, in particular by ones that fail
every call.  Then over every list of calls the others end as they would have: the trail
with its entries and the supply of identifiers and so every lent session, the sender,
and the session store.  The lent sessions hold the same records in any case, if perhaps
under other identifiers; the records of the logging handler are the same; and the
reports are about the same handlers in the same order, with the same outcomes of those
that have kept their collaborator or write to a lent session. -/
theorem publishAll_isolates_replaced (registry : Registry) (settings : BusSettings)
    (services : Services) (sessions : List (String × AuditSession)) (replacement : Replacement)
    (calls : List Call) :
    let bench := wired registry settings services sessions
    let (transcript, after) := bench.publishAll calls
    let (otherTranscript, otherAfter) := (bench.replacing replacement).publishAll calls
    transcript.map Prod.fst = calls ∧
      List.Forall₂ (StepsMatch replacement.Keeps) transcript otherTranscript ∧
      Isolated replacement.Keeps after otherAfter := by
  intro bench
  have isolated := replacing_isolated bench replacement
  exact ⟨bench.publishAll_calls calls, publishAll_isolated rfl isolated calls⟩

end Workbench
end WorkflowBus
