/-
What a call tells stays with the call.

The audit records of a call that lends a session go to that session, and those of a call
without one to the trail.  Every record carries what its own call tells of its operation
and nothing of any other call's.  A run in which one call is made within another
operation differs from the first in those parts of that call's own records only.
-/

import WorkflowBus.Proofs.Workbench.Publishing

namespace WorkflowBus

/-- Two records differ at most in what a call tells of its operation. -/
def AuditRecord.ApartFromOperation (left right : AuditRecord) : Prop :=
  right =
    { left with
      correlationId := right.correlationId
      clientIp := right.clientIp
      userAgent := right.userAgent
      actorId := right.actorId }

theorem AuditHandler.inOperation_apart (record : AuditRecord)
    (left right : Option OperationContext) :
    (inOperation record left).ApartFromOperation (inOperation record right) := by
  cases left <;> cases right <;> rfl

/-- The record tells what the call tells, and nothing where the call tells nothing; the
user of the request stands in for an actor who is not known. -/
structure AuditRecord.TellsOf (record : AuditRecord) (call : Call) : Prop where
  eventId : record.eventId = call.event.id
  correlationId : record.correlationId = call.told?.bind OperationContext.correlationId
  clientIp : record.clientIp = call.told?.bind OperationContext.clientIp
  userAgent : record.userAgent = call.told?.bind OperationContext.userAgent
  actorId : record.actorId =
    (call.event.actorId? <|> call.told?.bind OperationContext.requestUserId)

theorem AuditHandler.inOperation_tellsOf {registry : Registry} {call : Call}
    {record : AuditRecord} (classified : recordFor registry call.event = .ok record) :
    (inOperation record call.told?).TellsOf call := by
  obtain ⟨entry, _owned, _audited, rfl⟩ := (recordFor_eq_ok_iff _ _ _).mp classified
  cases told : call.told? with
  | none =>
      exact
        { eventId := rfl
          correlationId := by rw [told]; rfl
          clientIp := by rw [told]; rfl
          userAgent := by rw [told]; rfl
          actorId := by
            rw [told]
            change call.event.actorId? = (call.event.actorId? <|> none)
            cases call.event.actorId? <;> rfl }
  | some operation =>
      exact
        { eventId := rfl
          correlationId := by rw [told]; rfl
          clientIp := by rw [told]; rfl
          userAgent := by rw [told]; rfl
          actorId := by rw [told]; rfl }

def Call.within (call : Call) (operation : Option OperationContext) : Call :=
  { call with operation := operation }

theorem Call.told?_within (call : Call) (unnamed : call.session = none)
    (operation : Option OperationContext) : (call.within operation).told? = call.told? := by
  simp only [told?, within, unnamed]
  rfl

structure SameFiling (left right : Uuid × AuditRecord) : Prop where
  id : left.1 = right.1
  record : left.2.ApartFromOperation right.2

theorem IdSupply.stamp_sameFiling (supply : IdSupply) {left right : List AuditRecord}
    (apart : List.Forall₂ AuditRecord.ApartFromOperation left right) :
    List.Forall₂ SameFiling (supply.stamp left) (supply.stamp right) := by
  induction apart generalizing supply with
  | nil => exact .nil
  | cons head _rest ih => exact .cons ⟨rfl, head⟩ (ih supply.draw.2)

theorem SameFiling.refl (item : Uuid × AuditRecord) : SameFiling item item :=
  ⟨rfl, rfl⟩

theorem map_fst_of_sameFiling {left right : List (Uuid × AuditRecord)}
    (same : List.Forall₂ SameFiling left right) : left.map Prod.fst = right.map Prod.fst := by
  induction same with
  | nil => rfl
  | cons head _rest ih => rw [List.map_cons, List.map_cons, head.id, ih]

structure AuditEntry.ApartFromOperation (left right : AuditEntry) : Prop where
  id : left.id = right.id
  sequenceNumber : left.sequenceNumber = right.sequenceNumber
  record : left.record.ApartFromOperation right.record
  recordedAt : left.recordedAt = right.recordedAt

theorem AuditTrail.appendAll_apart {left right : AuditTrail}
    (entries : List.Forall₂ AuditEntry.ApartFromOperation left.entries right.entries)
    (now : Instant) {written other : List (Uuid × AuditRecord)}
    (same : List.Forall₂ SameFiling written other) :
    List.Forall₂ AuditEntry.ApartFromOperation (left.appendAll now written).entries
      (right.appendAll now other).entries := by
  induction same generalizing left right with
  | nil => exact entries
  | cons head _rest ih =>
      have next : (left.entries.length : Int) + 1 = (right.entries.length : Int) + 1 := by
        rw [entries.length_eq]
      exact ih (List.rel_append entries (.cons ⟨head.id, next, head.record, rfl⟩ .nil))

theorem AuditSession.commit?_apart (session : AuditSession)
    {written other : List (Uuid × AuditRecord)} (same : List.Forall₂ SameFiling written other)
    (now : Instant) (trail : AuditTrail) :
    Option.Rel
      (fun left right => left.1 = right.1 ∧
        List.Forall₂ AuditEntry.ApartFromOperation left.2.entries right.2.entries)
      ((session.receive written).commit? now trail)
      ((session.receive other).commit? now trail) := by
  cases session with
  | down message => exact .none
  | buffering pending =>
      have items : List.Forall₂ SameFiling (pending ++ written) (pending ++ other) :=
        List.rel_append (List.forall₂_same.mpr fun item _member => .refl item) same
      have entries : List.Forall₂ AuditEntry.ApartFromOperation trail.entries trail.entries :=
        List.forall₂_same.mpr fun entry _member => ⟨rfl, rfl, rfl, rfl⟩
      exact .some ⟨map_fst_of_sameFiling items, AuditTrail.appendAll_apart entries now items⟩

theorem Wiring.filings_apart (registry : Registry) (event : Event) (refusal : Option AuditError)
    (left right : Option OperationContext) (categories : List Category) :
    List.Forall₂ AuditRecord.ApartFromOperation
      (categories.flatMap (filings registry event refusal left))
      (categories.flatMap (filings registry event refusal right)) := by
  induction categories with
  | nil => exact .nil
  | cons category rest ih =>
      refine List.rel_append ?_ ih
      cases category with
      | audit =>
          simp only [filings]
          cases AuditHandler.due registry event refusal with
          | error error => exact .nil
          | ok record => exact .cons (AuditHandler.inOperation_apart record left right) .nil
      | logging => exact .nil
      | notification => exact .nil
      | invalidation => exact .nil

/-- All services are the same but for what has been told. -/
structure Services.SameButTold (left right : Services) : Prop where
  audit : left.audit = right.audit
  notifications : left.notifications = right.notifications
  sessions : left.sessions = right.sessions
  aside : left.aside = right.aside
  ids : left.ids = right.ids
  now : left.now = right.now
  journal : left.journal = right.journal

namespace Workbench

theorem mem_filed {registry : Registry} {bench : Workbench} {call : Call}
    {item : Uuid × AuditRecord} (member : item ∈ bench.filed registry call) :
    item.2.TellsOf call := by
  cases lent : bench.lent? call with
  | error error =>
      simp only [filed, lent] at member
      cases member
  | ok context =>
      have recorded : item.2 ∈ (bench.filed registry call).map Prod.snd :=
        List.mem_map_of_mem member
      rw [filed_of_lent registry lent, IdSupply.stamp_records] at recorded
      obtain ⟨category, _called, filing⟩ := List.mem_flatMap.mp recorded
      obtain ⟨record, classified, same⟩ := Wiring.mem_filings filing
      rw [same, operation?_of_lent lent]
      exact AuditHandler.inOperation_tellsOf classified

/-! ### Calls within other operations -/

/-- Two workbenches differ at most in what has been told and in what the sessions hold;
the sessions of a name take records alike. -/
structure Level (left right : Workbench) : Prop where
  bus : left.deployment.bus = right.deployment.bus
  services : left.atWork.SameButTold right.atWork
  sessions : ∀ name, (left.sessions.lookup name).map AuditSession.refusal? =
    (right.sessions.lookup name).map AuditSession.refusal?

theorem Level.refl (bench : Workbench) : Level bench bench :=
  ⟨rfl, ⟨rfl, rfl, rfl, rfl, rfl, rfl, rfl⟩, fun _ => rfl⟩

variable {left right : Workbench}

theorem Level.lent (level : Level left right) (call : Call)
    (operation : Option OperationContext) :
    (∃ error, left.lent? call = .error error ∧ right.lent? (call.within operation) = .error error) ∨
    ∃ leftContext rightContext, left.lent? call = .ok leftContext ∧
      right.lent? (call.within operation) = .ok rightContext ∧
      ∀ category, Wiring.Agree (left.scope leftContext) (right.scope rightContext) category := by
  rcases lent?_alike (show (call.within operation).session = call.session from rfl)
      level.sessions with unlent | ⟨leftContext, rightContext, leftLent, rightLent, refusals⟩
  · exact Or.inl unlent
  · refine Or.inr ⟨leftContext, rightContext, leftLent, rightLent, ?_⟩
    intro category
    cases category with
    | logging => trivial
    | audit => exact refusals (Or.inr (congrArg AuditTrail.outage level.services.audit))
    | notification => exact level.services.notifications
    | invalidation => exact level.services.sessions

theorem Level.filed (level : Level left right) (registry : Registry) (call : Call)
    (operation : Option OperationContext) :
    List.Forall₂ SameFiling (left.filed registry call)
      (right.filed registry (call.within operation)) := by
  rcases level.lent call operation with
    ⟨error, leftError, rightError⟩ | ⟨leftContext, rightContext, leftLent, rightLent, agree⟩
  · simp only [Workbench.filed, leftError, rightError]
    exact .nil
  · have refusals : (left.scope leftContext).refusal? = (right.scope rightContext).refusal? :=
      agree .audit
    rw [filed_of_lent registry leftLent, filed_of_lent registry rightLent, refusals,
      level.services.ids]
    exact IdSupply.stamp_sameFiling _ (Wiring.filings_apart _ _ _ _ _ _)

theorem Level.filed_eq (level : Level left right) (registry : Registry) (call : Call)
    {operation : Option OperationContext} (told : (call.within operation).told? = call.told?) :
    left.filed registry call = right.filed registry (call.within operation) := by
  rcases level.lent call operation with
    ⟨error, leftError, rightError⟩ | ⟨leftContext, rightContext, leftLent, rightLent, agree⟩
  · simp only [Workbench.filed, leftError, rightError]
  · have refusals : (left.scope leftContext).refusal? = (right.scope rightContext).refusal? :=
      agree .audit
    rw [filed_of_lent registry leftLent, filed_of_lent registry rightLent, refusals,
      level.services.ids, operation?_of_lent leftLent, operation?_of_lent rightLent, told]
    rfl

variable {registry : Registry} {settings : BusSettings}

theorem Level.answer (level : Level left right)
    (wired : left.deployment.bus = Wiring.bus registry settings) (call : Call)
    (operation : Option OperationContext) :
    (left.publish call).1 = (right.publish (call.within operation)).1 := by
  rcases level.lent call operation with
    ⟨error, leftError, rightError⟩ | ⟨leftContext, rightContext, leftLent, rightLent, agree⟩
  · rw [publish_of_unlent leftError, publish_of_unlent rightError]
  · rw [publish_of_lent leftLent, publish_of_lent rightLent, ← level.bus, wired]
    exact congrArg Except.ok (Wiring.publish_report_congr registry settings call.event
      level.services.now agree)

theorem Level.tells (level : Level left right)
    (wired : left.deployment.bus = Wiring.bus registry settings) (call : Call)
    (operation : Option OperationContext) :
    ∃ count told, Speech call.event count told ∧
      (left.publish call).2.atWork.voice = left.atWork.voice.tellAll (told call.told?) ∧
      (right.publish (call.within operation)).2.atWork.voice =
        right.atWork.voice.tellAll (told (call.within operation).told?) := by
  rcases level.lent call operation with
    ⟨error, leftError, rightError⟩ | ⟨leftContext, rightContext, leftLent, rightLent, agree⟩
  · rw [publish_of_unlent leftError, publish_of_unlent rightError]
    exact ⟨0, fun _ => [], .fixed [] nofun, rfl, rfl⟩
  · obtain ⟨told, speech, leftTells, rightTells⟩ := Wiring.publish_tells registry settings
      call.event level.services.now level.services.ids agree
    refine ⟨_, told, speech, ?_, ?_⟩
    · rw [publish_of_lent leftLent, atWork_resume, wired, ← operation?_of_lent leftLent]
      exact leftTells
    · rw [publish_of_lent rightLent, atWork_resume, ← level.bus, wired,
        ← operation?_of_lent rightLent]
      exact rightTells

theorem Level.agree (level : Level left right)
    (wired : left.deployment.bus = Wiring.bus registry settings) (call : Call)
    (operation : Option OperationContext) :
    (left.publish call).2.atWork.notifications =
        (right.publish (call.within operation)).2.atWork.notifications ∧
      (left.publish call).2.atWork.sessions =
        (right.publish (call.within operation)).2.atWork.sessions := by
  rcases level.lent call operation with
    ⟨error, leftError, rightError⟩ | ⟨leftContext, rightContext, leftLent, rightLent, agree⟩
  · rw [publish_of_unlent leftError, publish_of_unlent rightError]
    exact ⟨level.services.notifications, level.services.sessions⟩
  · rw [publish_of_lent leftLent, publish_of_lent rightLent, atWork_resume, atWork_resume,
      ← level.bus, wired]
    exact ⟨Wiring.agree_publish registry settings call.event level.services.now
        (agree .notification),
      Wiring.agree_publish registry settings call.event level.services.now
        (agree .invalidation)⟩

theorem Level.publish (level : Level left right)
    (wired : left.deployment.bus = Wiring.bus registry settings) (call : Call)
    (operation : Option OperationContext) :
    Level (left.publish call).2 (right.publish (call.within operation)).2 := by
  have leftEffect := publish_effect wired call
  have rightEffect := publish_effect (level.bus.symm.trans wired) (call.within operation)
  have length := (level.filed registry call operation).length_eq
  obtain ⟨notifications, sessions⟩ := level.agree wired call operation
  refine ⟨leftEffect.bus.trans (level.bus.trans rightEffect.bus.symm), ?_, ?_⟩
  · exact
      { audit := by
          rw [leftEffect.audit, rightEffect.audit, level.services.now, level.services.audit]
          by_cases lends : call.session.isSome = true
          · rw [if_pos lends]
            exact (if_pos lends).symm
          · -- A call that writes to the trail lends nothing, so it tells no operation.
            have unnamed : call.session = none := Option.not_isSome_iff_eq_none.mp lends
            rw [if_neg lends, level.filed_eq registry call (call.told?_within unnamed operation)]
            exact (if_neg lends).symm
        notifications := notifications
        sessions := sessions
        aside := leftEffect.aside.trans (level.services.aside.trans rightEffect.aside.symm)
        ids := by rw [leftEffect.ids, rightEffect.ids, length, level.services.ids]
        now := leftEffect.now.trans (level.services.now.trans rightEffect.now.symm)
        journal :=
          leftEffect.journal.trans (level.services.journal.trans rightEffect.journal.symm) }
  · intro name
    rw [leftEffect.sessions, rightEffect.sessions, AuditSession.map_refusal?_receive,
      AuditSession.map_refusal?_receive]
    exact level.sessions name

/-- From two workbenches on, the same has been told, and the sessions of each name have
received the same. -/
structure Parallel (left right leftAfter rightAfter : Workbench) : Prop where
  voice : ∃ told, leftAfter.atWork.voice = left.atWork.voice.tellAll told ∧
    rightAfter.atWork.voice = right.atWork.voice.tellAll told
  sessions : ∀ name, ∃ written,
    leftAfter.sessions.lookup name = (left.sessions.lookup name).map (·.receive written) ∧
    rightAfter.sessions.lookup name = (right.sessions.lookup name).map (·.receive written)

theorem Parallel.refl (left right : Workbench) : Parallel left right left right where
  voice := ⟨[], rfl, rfl⟩
  sessions := by
    intro name
    exact ⟨[], (AuditSession.map_receive_nil _).symm, (AuditSession.map_receive_nil _).symm⟩

theorem Parallel.trans {left right leftBetween rightBetween leftAfter rightAfter : Workbench}
    (parallel : Parallel left right leftBetween rightBetween)
    (later : Parallel leftBetween rightBetween leftAfter rightAfter) :
    Parallel left right leftAfter rightAfter where
  voice := by
    obtain ⟨told, leftTold, rightTold⟩ := parallel.voice
    obtain ⟨further, leftFurther, rightFurther⟩ := later.voice
    refine ⟨told ++ further, ?_, ?_⟩
    · rw [Voice.tellAll_append, ← leftTold, leftFurther]
    · rw [Voice.tellAll_append, ← rightTold, rightFurther]
  sessions := by
    intro name
    obtain ⟨written, leftWritten, rightWritten⟩ := parallel.sessions name
    obtain ⟨further, leftFurther, rightFurther⟩ := later.sessions name
    refine ⟨written ++ further, ?_, ?_⟩
    · rw [leftFurther, leftWritten, AuditSession.map_receive_append]
    · rw [rightFurther, rightWritten, AuditSession.map_receive_append]

theorem publish_parallel (level : Level left right)
    (wired : left.deployment.bus = Wiring.bus registry settings) (call : Call) :
    Parallel left right (left.publish call).2 (right.publish call).2 where
  voice := by
    obtain ⟨_count, told, _speech, leftTells, rightTells⟩ := level.tells wired call call.operation
    exact ⟨told call.told?, leftTells, rightTells⟩
  sessions := by
    intro name
    have leftEffect := publish_effect wired call
    have rightEffect := publish_effect (level.bus.symm.trans wired) call
    have filed : left.filed registry call = right.filed registry call :=
      level.filed_eq registry call rfl
    rw [leftEffect.sessions, rightEffect.sessions, filed]
    exact ⟨_, rfl, rfl⟩

theorem publishAll_parallel (level : Level left right)
    (wired : left.deployment.bus = Wiring.bus registry settings) (calls : List Call) :
    (left.publishAll calls).1 = (right.publishAll calls).1 ∧
      Level (left.publishAll calls).2 (right.publishAll calls).2 ∧
      Parallel left right (left.publishAll calls).2 (right.publishAll calls).2 := by
  induction calls generalizing left right with
  | nil => exact ⟨rfl, level, .refl left right⟩
  | cons call rest ih =>
      have answers : (left.publish call).1 = (right.publish call).1 :=
        level.answer wired call call.operation
      have next : Level (left.publish call).2 (right.publish call).2 :=
        level.publish wired call call.operation
      obtain ⟨transcripts, after, parallel⟩ := ih next ((publish_effect wired call).bus.trans wired)
      rw [publishAll_cons, publishAll_cons, answers, transcripts]
      exact ⟨rfl, after, (publish_parallel level wired call).trans parallel⟩

/-! ### One call among others -/

/-- What becomes of the records that a call makes.  With a session they go to that
session, whatever the state of the trail, and neither the trail nor another session is
touched; without one they go to the trail.  There is one for each audit handler that
has completed, and each tells what the call tells; so does the record of the logging
handler. -/
structure ScopedCall (registry : Registry) (call : Call) (before : Workbench)
    (answer : Except WorkbenchError PublishReport) (after : Workbench)
    (made : List (Uuid × AuditRecord)) : Prop where
  lent : ∀ name, call.session = some name →
    after.atWork.audit = before.atWork.audit ∧
      after.sessions.lookup name = (before.sessions.lookup name).map (·.receive made) ∧
      ∀ other, other ≠ name → after.sessions.lookup other = before.sessions.lookup other
  unlent : call.session = none →
    after.atWork.audit = before.atWork.audit.appendAll before.atWork.now made ∧
      ∀ name, after.sessions.lookup name = before.sessions.lookup name
  counted : made.length = (outcomes answer).countP Outcome.hasFiled
  buffered : ∀ name pending record, call.session = some name →
    before.sessions.lookup name = some (.buffering pending) →
    AuditHandler.recordFor registry call.event = .ok record →
    ∀ outcome ∈ outcomes answer, outcome.isOf .audit = true → outcome.isCompleted = true
  told : ∀ item ∈ made, item.2.TellsOf call
  logged : Voice.Gains
    (List.replicate ((outcomes answer).countP (Outcome.isOf .logging))
      (LoggingHandler.recordFor call.event call.told?))
    before.atWork.voice after.atWork.voice
  correlation : (LoggingHandler.recordFor call.event call.told?).get? "correlation_id" =
    LoggingHandler.correlation? call.told?

theorem publish_scoped {bench : Workbench}
    (wired : bench.deployment.bus = Wiring.bus registry settings) (call : Call) :
    ScopedCall registry call bench (bench.publish call).1 (bench.publish call).2
      (bench.filed registry call) := by
  have effect := publish_effect wired call
  exact
    { lent := by
        intro name named
        refine ⟨?_, ?_, ?_⟩
        · rw [effect.audit, named]
          rfl
        · rw [effect.sessions, if_pos named]
        · intro other different
          have unnamed : ¬call.session = some other := by
            intro same
            exact different (Option.some.inj (same.symm.trans named))
          rw [effect.sessions, if_neg unnamed, AuditSession.map_receive_nil]
      unlent := by
        intro unnamed
        refine ⟨?_, ?_⟩
        · rw [effect.audit, unnamed]
          rfl
        · intro name
          rw [effect.sessions, unnamed, if_neg nofun, AuditSession.map_receive_nil]
      counted := effect.counted
      buffered := by
        intro name pending record named found classified outcome member audits
        have lent : bench.lent? call = .ok (some ⟨.buffering pending, call.operation⟩) := by
          simp only [lent?, named, found]
        have completes := effect.completes _ lent outcome member
        have accepted : (bench.scope (some ⟨.buffering pending, call.operation⟩)).refusal? = none :=
          rfl
        exact (completes.audit audits).mpr
          ⟨record, (AuditHandler.due_eq_ok_iff _ _ _ _).mpr ⟨classified, accepted⟩⟩
      told := fun item member => mem_filed member
      logged := effect.gains
      correlation := LoggingHandler.get?_recordFor call.event call.told? }

/-- Two runs from a workbench differ only in what a call has filed and told there within
one operation and within another. -/
structure DifferByOperation (call : Call) (operation : Option OperationContext)
    (before after otherAfter : Workbench) (made otherMade : List (Uuid × AuditRecord)) : Prop where
  filed : List.Forall₂ SameFiling made otherMade
  services : after.atWork.SameButTold otherAfter.atWork
  voice : ∃ told otherTold rest,
    List.Forall₂ (Utterance.Echoes call.event call.told? (call.within operation).told?) told
      otherTold ∧
    after.atWork.voice = before.atWork.voice.tellAll (told ++ rest) ∧
    otherAfter.atWork.voice = before.atWork.voice.tellAll (otherTold ++ rest)
  sessions : ∀ name, ∃ further,
    after.sessions.lookup name = (before.sessions.lookup name).map
      (·.receive ((if call.session = some name then made else []) ++ further)) ∧
    otherAfter.sessions.lookup name = (before.sessions.lookup name).map
      (·.receive ((if call.session = some name then otherMade else []) ++ further))

/-- The sessions of each name are committed under the same identifiers, to entries that
differ at most in what the call tells and in hashes. -/
def CommitAlike (left right : Workbench) : Prop :=
  ∀ name now trail,
    Option.Rel
      (fun committed otherCommitted => committed.1 = otherCommitted.1 ∧
        List.Forall₂ AuditEntry.ApartFromOperation committed.2.entries otherCommitted.2.entries)
      ((left.sessions.lookup name).bind fun session => session.commit? now trail)
      ((right.sessions.lookup name).bind fun session => session.commit? now trail)

theorem DifferByOperation.commitAlike {call : Call} {operation : Option OperationContext}
    {before after otherAfter : Workbench} {made otherMade : List (Uuid × AuditRecord)}
    (differ : DifferByOperation call operation before after otherAfter made otherMade) :
    CommitAlike after otherAfter := by
  intro name now trail
  obtain ⟨further, received, otherReceived⟩ := differ.sessions name
  rw [received, otherReceived]
  cases before.sessions.lookup name with
  | none => exact .none
  | some session =>
      refine session.commit?_apart ?_ now trail
      refine List.rel_append ?_ (List.forall₂_same.mpr fun item _member => .refl item)
      split
      · exact differ.filed
      · exact .nil

/-- What a call tells of its operation stays with the call.  On a wired bus, at any point
of any run, the records that a call makes go where the call wants them, and tell what
that call tells.  If the call had been made within another operation, then over the
whole run all answers, the trail, the notifications, the session store, the supply of
identifiers and every session that the call does not lend would have been the same; the
lent session would hold the same records, and the same would have been told, but for
that in that call's own records.  Once committed, the records make the same entries but
for that and for hashes. -/
theorem publishAll_scopes_calls (registry : Registry) (settings : BusSettings)
    (services : Services) (sessions : List (String × AuditSession)) (earlier later : List Call)
    (call : Call) (operation : Option OperationContext) :
    let bench := wired registry settings services sessions
    let other := call.within operation
    let before := (bench.publishAll earlier).2
    let (transcript, after) := bench.publishAll (earlier ++ call :: later)
    let (otherTranscript, otherAfter) := bench.publishAll (earlier ++ other :: later)
    ∃ made otherMade,
      ScopedCall registry call before (before.publish call).1 (before.publish call).2 made ∧
      ScopedCall registry other before (before.publish other).1 (before.publish other).2 otherMade ∧
      transcript.map Prod.snd = otherTranscript.map Prod.snd ∧
      DifferByOperation call operation before after otherAfter made otherMade ∧
      CommitAlike after otherAfter := by
  intro bench other before
  have stillWired : before.deployment.bus = Wiring.bus registry settings :=
    bus_publishAll (show bench.deployment.bus = Wiring.bus registry settings from rfl) earlier
  have level := Level.refl before
  have effect := publish_effect stillWired call
  have otherEffect := publish_effect stillWired other
  have answers : (before.publish call).1 = (before.publish other).1 :=
    level.answer stillWired call operation
  obtain ⟨_count, told, speech, tells, otherTells⟩ := level.tells stillWired call operation
  obtain ⟨transcripts, services, parallel⟩ := publishAll_parallel
    (level.publish stillWired call operation) (effect.bus.trans stillWired) later
  obtain ⟨rest, restTold, otherRestTold⟩ := parallel.voice
  have differ : DifferByOperation call operation before
      ((before.publish call).2.publishAll later).2 ((before.publish other).2.publishAll later).2
      (before.filed registry call) (before.filed registry other) :=
    { filed := level.filed registry call operation
      services := services.services
      voice := by
        refine ⟨told call.told?, told other.told?, rest, speech.echoes _ _, ?_, ?_⟩
        · rw [Voice.tellAll_append, ← tells]
          exact restTold
        · rw [Voice.tellAll_append, ← otherTells]
          exact otherRestTold
      sessions := by
        intro name
        obtain ⟨further, received, otherReceived⟩ := parallel.sessions name
        refine ⟨further, ?_, ?_⟩
        · rw [AuditSession.map_receive_append, ← effect.sessions]
          exact received
        · rw [AuditSession.map_receive_append]
          exact otherReceived.trans (congrArg _ (otherEffect.sessions name)) }
  rw [publishAll_append, publishAll_append, publishAll_cons, publishAll_cons]
  refine ⟨before.filed registry call, before.filed registry other,
    publish_scoped stillWired call, publish_scoped stillWired other, ?_, differ, differ.commitAlike⟩
  rw [List.map_append, List.map_append, List.map_cons, List.map_cons, answers, transcripts]

end Workbench
end WorkflowBus
