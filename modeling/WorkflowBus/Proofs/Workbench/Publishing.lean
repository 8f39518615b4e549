/-
Publishing on a workbench.

A call lends the session that it names, and the bus of the deployment works on what is
at work.  The records that a call makes go to the lent session, and without one to the
trail; no other session is touched.
-/

import WorkflowBus.Proofs.Json.Sorting
import WorkflowBus.Proofs.Wiring.Publication
import WorkflowBus.Workbench

namespace WorkflowBus

/-- The operation that a call tells; without a session nothing is lent, and no operation
is told. -/
def Call.told? (call : Call) : Option OperationContext :=
  call.session.bind fun _ => call.operation

namespace Workbench

/-- The services as the bus finds them: it works with its own collaborators if it has
any. -/
def atWork (bench : Workbench) : Services :=
  bench.services.exchanged

def scope (bench : Workbench) (context : Option DispatchContext) : Scope :=
  ⟨bench.atWork, context⟩

def resume (bench : Workbench) (call : Call) (left : Scope) : Workbench :=
  bench.takeBack call
    ({ bench.deployment with services := left.services.exchanged }, left.context)

theorem atWork_resume (bench : Workbench) (call : Call) (left : Scope) :
    (bench.resume call left).atWork = left.services :=
  left.services.exchanged_exchanged

theorem publish_of_lent {bench : Workbench} {call : Call} {context : Option DispatchContext}
    (lent : bench.lent? call = .ok context) :
    bench.publish call =
      (.ok (bench.deployment.bus.publish call.event (bench.scope context)).1,
        bench.resume call (bench.deployment.bus.publish call.event (bench.scope context)).2) := by
  simp only [publish, lend, lent]
  rfl

theorem publish_of_unlent {bench : Workbench} {call : Call} {error : WorkbenchError}
    (unlent : bench.lent? call = .error error) : bench.publish call = (.error error, bench) := by
  simp only [publish, lend, unlent]

theorem lent?_cases (bench : Workbench) (call : Call) :
    (call.session = none ∧ bench.lent? call = .ok none) ∨
    (∃ name session, call.session = some name ∧ bench.sessions.lookup name = some session ∧
      bench.lent? call = .ok (some ⟨session, call.operation⟩)) ∨
    (∃ name, call.session = some name ∧ bench.sessions.lookup name = none ∧
      bench.lent? call = .error .noSuchSession) := by
  unfold lent?
  cases call.session with
  | none => exact Or.inl ⟨rfl, rfl⟩
  | some name =>
      cases found : bench.sessions.lookup name with
      | some session => exact Or.inr (Or.inl ⟨name, session, rfl, found, by simp only [found]⟩)
      | none => exact Or.inr (Or.inr ⟨name, rfl, found, by simp only [found]⟩)

theorem operation?_of_lent {bench : Workbench} {call : Call} {context : Option DispatchContext}
    (lent : bench.lent? call = .ok context) :
    (bench.scope context).operation? = call.told? := by
  rcases bench.lent?_cases call with
    ⟨unnamed, nothing⟩ | ⟨name, session, named, _found, same⟩ | ⟨name, _named, _lost, error⟩
  · cases nothing.symm.trans lent
    rw [Call.told?, unnamed]
    rfl
  · cases same.symm.trans lent
    rw [Call.told?, named]
    rfl
  · cases error.symm.trans lent

theorem isSome_of_lent {bench : Workbench} {call : Call} {context : Option DispatchContext}
    (lent : bench.lent? call = .ok context) : context.isSome = call.session.isSome := by
  rcases bench.lent?_cases call with
    ⟨unnamed, nothing⟩ | ⟨name, session, named, _found, same⟩ | ⟨name, _named, _lost, error⟩
  · cases nothing.symm.trans lent
    rw [unnamed]
    rfl
  · cases same.symm.trans lent
    rw [named]
    rfl
  · cases error.symm.trans lent

/-- Where the sessions of each name take records alike, two calls that name the same
session find none in either workbench, or they lend contexts under which records are
refused alike: for the sake of the session if one is lent, and else for the trail's. -/
theorem lent?_alike {left right : Workbench} {call other : Call}
    (same : other.session = call.session)
    (sessions : ∀ name, (left.sessions.lookup name).map AuditSession.refusal? =
      (right.sessions.lookup name).map AuditSession.refusal?) :
    (∃ error, left.lent? call = .error error ∧ right.lent? other = .error error) ∨
    ∃ leftContext rightContext, left.lent? call = .ok leftContext ∧
      right.lent? other = .ok rightContext ∧
      (call.session.isSome ∨ left.atWork.audit.outage = right.atWork.audit.outage →
        (left.scope leftContext).refusal? = (right.scope rightContext).refusal?) := by
  rcases left.lent?_cases call with
    ⟨unnamed, leftLent⟩ | ⟨name, session, named, leftFound, leftLent⟩ |
      ⟨name, named, leftLost, leftError⟩
  · have rightLent : right.lent? other = .ok none := by simp only [lent?, same, unnamed]
    refine Or.inr ⟨none, none, leftLent, rightLent, ?_⟩
    intro either
    rcases either with lends | outages
    · rw [unnamed] at lends
      cases lends
    · exact congrArg (Option.map AuditError.unavailable) outages
  · have alike := sessions name
    rw [leftFound] at alike
    obtain ⟨found, rightFound, refusals⟩ := Option.map_eq_some_iff.mp alike.symm
    have rightLent : right.lent? other = .ok (some ⟨found, other.operation⟩) := by
      simp only [lent?, same, named, rightFound]
    exact Or.inr ⟨_, _, leftLent, rightLent, fun _either => refusals.symm⟩
  · have alike := sessions name
    rw [leftLost] at alike
    have rightLost := Option.map_eq_none_iff.mp alike.symm
    have rightError : right.lent? other = .error .noSuchSession := by
      simp only [lent?, same, named, rightLost]
    exact Or.inl ⟨_, leftError, rightError⟩

/-! ### What a call files -/

def filed (registry : Registry) (bench : Workbench) (call : Call) : List (Uuid × AuditRecord) :=
  match bench.lent? call with
  | .ok context =>
      bench.atWork.ids.stamp ((Wiring.called registry call.event.eventType).flatMap
        (Wiring.filings registry call.event (bench.scope context).refusal? call.told?))
  | .error _ => []

theorem filed_of_lent (registry : Registry) {bench : Workbench} {call : Call}
    {context : Option DispatchContext} (lent : bench.lent? call = .ok context) :
    bench.filed registry call =
      bench.atWork.ids.stamp ((Wiring.called registry call.event.eventType).flatMap
        (Wiring.filings registry call.event (bench.scope context).refusal?
          (bench.scope context).operation?)) := by
  rw [operation?_of_lent lent]
  simp only [filed, lent]

theorem lookup_sessions_resume {bench : Workbench} {call : Call}
    {context : Option DispatchContext} (lent : bench.lent? call = .ok context) {left : Scope}
    {written : List (Uuid × AuditRecord)}
    (returned : left.context = context.map (·.receive written)) (name : String) :
    (bench.resume call left).sessions.lookup name =
      (bench.sessions.lookup name).map
        (·.receive (if call.session = some name then written else [])) := by
  simp only [resume, takeBack, returned]
  rcases bench.lent?_cases call with
    ⟨unnamed, nothing⟩ | ⟨own, session, named, found, same⟩ | ⟨own, _named, _lost, error⟩
  · cases nothing.symm.trans lent
    rw [unnamed, if_neg nofun, AuditSession.map_receive_nil]
  · cases same.symm.trans lent
    simp only [named, Option.map_some, Json.lookup_insertMember, Option.some.injEq]
    by_cases here : name = own
    · subst here
      rw [if_pos rfl, if_pos rfl, found]
      rfl
    · rw [if_neg here, if_neg (Ne.symm here), AuditSession.map_receive_nil]
  · cases error.symm.trans lent

def outcomes : Except WorkbenchError PublishReport → List Outcome
  | .ok report => report.outcomes
  | .error _ => []

/-- What a call on the bus of a registry comes to.  Its records go to the session that
it lends, and without one to the trail; no other session is touched. -/
structure Effect (registry : Registry) (call : Call) (before : Workbench)
    (answer : Except WorkbenchError PublishReport) (after : Workbench) : Prop where
  bus : after.deployment.bus = before.deployment.bus
  now : after.atWork.now = before.atWork.now
  aside : after.atWork.aside = before.atWork.aside
  journal : after.atWork.journal = before.atWork.journal
  ids : after.atWork.ids = before.atWork.ids.skip (before.filed registry call).length
  audit : after.atWork.audit =
    if call.session.isSome then before.atWork.audit
    else before.atWork.audit.appendAll before.atWork.now (before.filed registry call)
  sessions : ∀ name, after.sessions.lookup name =
    (before.sessions.lookup name).map
      (·.receive (if call.session = some name then before.filed registry call else []))
  completes : ∀ context, before.lent? call = .ok context → ∀ outcome ∈ outcomes answer,
    Wiring.Completes registry call.event (before.scope context).refusal? outcome
  counted : (before.filed registry call).length = (outcomes answer).countP Outcome.hasFiled
  gains : Voice.Gains
    (List.replicate ((outcomes answer).countP (Outcome.isOf .logging))
      (LoggingHandler.recordFor call.event call.told?))
    before.atWork.voice after.atWork.voice

theorem publish_effect {registry : Registry} {settings : BusSettings} {bench : Workbench}
    (wired : bench.deployment.bus = Wiring.bus registry settings) (call : Call) :
    Effect registry call bench (bench.publish call).1 (bench.publish call).2 := by
  cases lent : bench.lent? call with
  | error error =>
      have nothing : bench.filed registry call = [] := by simp only [filed, lent]
      rw [publish_of_unlent lent]
      exact
        { bus := rfl
          now := rfl
          aside := rfl
          journal := rfl
          ids := by rw [nothing]; rfl
          audit := by rw [nothing]; exact (ite_self _).symm
          sessions := by
            intro name
            rw [nothing, ite_self, AuditSession.map_receive_nil]
          completes := by
            intro context accepted
            cases lent.symm.trans accepted
          counted := by rw [nothing]; rfl
          gains := .refl bench.atWork.voice }
  | ok context =>
      have published := Wiring.publish_spec registry settings call.event (bench.scope context)
      have filed := filed_of_lent registry lent
      have files := published.files
      have length : (bench.filed registry call).length =
          ((Wiring.called registry call.event.eventType).flatMap
            (Wiring.filings registry call.event (bench.scope context).refusal?
              (bench.scope context).operation?)).length := by
        rw [filed, ← List.length_map Prod.snd, IdSupply.stamp_records]
      have invoked := Outcome.countP_isOf .logging published.invoked
      rw [publish_of_lent lent, wired]
      exact
        { bus := rfl
          now := by rw [atWork_resume]; exact files.now
          aside := by rw [atWork_resume]; exact published.touches.aside
          journal := by rw [atWork_resume]; exact published.touches.journal
          ids := by rw [atWork_resume, length]; exact files.ids
          audit := by
            rw [atWork_resume, ← isSome_of_lent lent, filed]
            exact files.audit
          sessions := by
            rw [filed]
            exact lookup_sessions_resume lent files.context
          completes := by
            intro other accepted
            cases lent.symm.trans accepted
            exact published.completes
          counted := length.trans published.counted
          gains := by
            rw [atWork_resume, ← operation?_of_lent lent]
            exact invoked ▸ published.gains }

def wired (registry : Registry) (settings : BusSettings) (services : Services)
    (sessions : List (String × AuditSession)) : Workbench where
  deployment := ⟨registry, Wiring.bus registry settings, services⟩
  sessions := sessions
  invocations := []

def publishAll (bench : Workbench) :
    List Call → List (Call × Except WorkbenchError PublishReport) × Workbench
  | [] => ([], bench)
  | call :: rest =>
      let (answer, next) := bench.publish call
      let (transcript, after) := next.publishAll rest
      ((call, answer) :: transcript, after)

theorem publishAll_cons (bench : Workbench) (call : Call) (rest : List Call) :
    bench.publishAll (call :: rest) =
      ((call, (bench.publish call).1) :: ((bench.publish call).2.publishAll rest).1,
        ((bench.publish call).2.publishAll rest).2) :=
  rfl

theorem publishAll_append (bench : Workbench) (first second : List Call) :
    bench.publishAll (first ++ second) =
      ((bench.publishAll first).1 ++ ((bench.publishAll first).2.publishAll second).1,
        ((bench.publishAll first).2.publishAll second).2) := by
  induction first generalizing bench with
  | nil => rfl
  | cons call rest ih =>
      rw [List.cons_append, publishAll_cons, ih]
      rfl

theorem publishAll_calls (bench : Workbench) (calls : List Call) :
    (bench.publishAll calls).1.map Prod.fst = calls := by
  induction calls generalizing bench with
  | nil => rfl
  | cons call rest ih => rw [publishAll_cons, List.map_cons, ih]

theorem bus_publishAll {registry : Registry} {settings : BusSettings} {bench : Workbench}
    (wired : bench.deployment.bus = Wiring.bus registry settings) (calls : List Call) :
    (bench.publishAll calls).2.deployment.bus = Wiring.bus registry settings := by
  induction calls generalizing bench with
  | nil => exact wired
  | cons call rest ih => exact ih ((publish_effect wired call).bus.trans wired)

end Workbench
end WorkflowBus
