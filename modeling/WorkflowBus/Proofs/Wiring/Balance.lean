/-
The audit trail is balanced.

The events of workflows are published through invocations on the bus of the standard catalog,
and operational events in between.  Then the trail records for each workflow as many attempts
as outcomes, but for the attempts whose invocations have published no outcome; and at no
point of the trail are there more outcomes than attempts before it.
-/

import WorkflowBus.Proofs.Bus.Outstanding
import WorkflowBus.Proofs.Registry.WellFormed
import WorkflowBus.Proofs.Wiring.Standard

namespace WorkflowBus

open InvocationTranscript

def EventBus.publisher (bus : EventBus) : Invocation.Publisher (Services × Unit) PublishReport :=
  fun event (services, _) =>
    let (report, scope) := bus.publish event ⟨services, none⟩
    (report, scope.services, ())

theorem EventBus.stateAfter_publisher (bus : EventBus) (services : Services)
    (published : Event × Unit) :
    stateAfter bus.publisher services [published] =
      (bus.publish published.1 ⟨services, none⟩).2.services :=
  rfl

/-- A call on invocations, the publishing of an operational event, or the passing of time. -/
inductive GuardedStep where
  | guarded (call : InvocationCall Unit)
  | telemetry (event : Event) (operational : event.eventType.family = .operational)
  | wait (later : Instant)

def GuardedStep.run (bus : EventBus) :
    List GuardedStep → InvocationDesk Services →
      InvocationTranscript Unit PublishReport × InvocationDesk Services
  | [], desk => ([], desk)
  | .guarded call :: rest, desk =>
      let (answer, next) := desk.carryOut bus.publisher call
      let (transcript, last) := run bus rest next
      ((call, answer) :: transcript, last)
  | .telemetry event _ :: rest, desk =>
      run bus rest (desk.withState (bus.publish event ⟨desk.state, none⟩).2.services)
  | .wait later :: rest, desk =>
      run bus rest (desk.withState { desk.state with now := later })

def recorded (action : String) (stage : Stage) (actions : List String) : Nat :=
  actions.count (action ++ "." ++ stage.name)

def outcomes (action : String) (actions : List String) : Nat :=
  recorded action .succeeded actions + recorded action .failed actions

theorem recorded_append (action : String) (stage : Stage) (earlier later : List String) :
    recorded action stage (earlier ++ later) =
      recorded action stage earlier + recorded action stage later :=
  List.count_append

theorem outcomes_append (action : String) (earlier later : List String) :
    outcomes action (earlier ++ later) = outcomes action earlier + outcomes action later := by
  simp only [outcomes, recorded_append]
  omega

namespace Catalog

open Wiring

/-- The action that the trail records of an event of a type, if it records the event. -/
def action? (eventType : EventType) : Option String :=
  ((registry.owner? eventType).filter fun entry => entry.requires .audit).map
    fun entry => entry.auditActionFor eventType

/-- On a bus over a working trail, publishing records the catalog's actions and nothing else. -/
def RecordedBy (bus : EventBus) : Prop :=
  ∀ (event : Event) (services : Services), services.audit.outage = none →
    let after := (bus.publish event ⟨services, none⟩).2.services.audit
    after.outage = none ∧
      after.actions = services.audit.actions ++ (action? event.eventType).toList

theorem recordedBy_bus (settings : BusSettings) : RecordedBy (bus registry settings) := by
  intro event services working
  have accepts : (⟨services, none⟩ : Scope).refusal? = none :=
    Option.map_eq_none_iff.mpr working
  have untold : (⟨services, none⟩ : Scope).operation? = none := rfl
  have files := (publish_spec registry settings event ⟨services, none⟩).files
  rw [accepts, untold, registry, Workbench.filings_alone regular] at files
  have audit := files.audit
  simp only [Option.isSome_none, Bool.false_eq_true, if_false] at audit
  rw [registry, audit]
  refine ⟨(AuditTrail.appendAll_outage _ _ _).trans working, ?_⟩
  have records := congrArg (List.map AuditRecord.action)
    (services.audit.records_appendAll services.now (services.ids.stamp
      (Workbench.auditRecords (.ofEntries entries) [event])))
  rw [List.map_map, List.map_append, List.map_map, IdSupply.stamp_records] at records
  refine records.trans (congrArg _ ?_)
  rw [Workbench.auditRecords, List.filterMap_cons, List.filterMap_nil, Registry.ownerRequiring?,
    action?, registry]
  cases ((Registry.ofEntries entries).owner? event.eventType).filter fun entry =>
    entry.requires .audit <;> rfl

theorem exists_entry (workflow : Workflow) : ∃ entry ∈ entries,
    registry.find? workflow.name = some entry ∧ entry.name = workflow.name := by
  have present : (registry.find? workflow.name).isSome = true := by cases workflow <;> rfl
  obtain ⟨entry, found⟩ := Option.isSome_iff_exists.mp present
  have named := List.find?_some (p := fun entry : Entry => entry.name = workflow.name) found
  exact ⟨entry, List.mem_of_find?_eq_some found, found, of_decide_eq_true named⟩

theorem recorded_action? : ∀ entry ∈ entries, ∀ workflow ∈ Workflow.all,
    entry.name = workflow.name → ∀ stage ∈ Stage.all, ∀ eventType ∈ EventType.all,
      recorded entry.auditAction stage (action? eventType).toList =
        if eventType = .lifecycle workflow stage then 1 else 0 := by
  decide +kernel

variable {entry : Entry} {workflow : Workflow}

theorem attempted_action? (member : entry ∈ entries) (same : entry.name = workflow.name)
    (eventType : EventType) :
    recorded entry.auditAction .attempted (action? eventType).toList =
      opens workflow eventType :=
  recorded_action? entry member workflow workflow.mem_all same .attempted Stage.attempted.mem_all
    eventType eventType.mem_all

theorem outcomes_action? (member : entry ∈ entries) (same : entry.name = workflow.name)
    (eventType : EventType) :
    outcomes entry.auditAction (action? eventType).toList = closes workflow eventType := by
  have recordedAt (stage : Stage) := recorded_action? entry member workflow workflow.mem_all same
    stage stage.mem_all eventType eventType.mem_all
  rw [outcomes, recordedAt, recordedAt, closes]

end Catalog

/-! ### The balance -/

open Wiring

/-- The trail of the services at the desk has as many attempts of a workflow as it has
outcomes and the transcript has invocations outstanding, and no point before it has more
outcomes than attempts. -/
structure Balanced (action : String) (workflow : Workflow)
    (past : InvocationTranscript Unit PublishReport) (desk : InvocationDesk Services) : Prop where
  registers : desk.Registers past
  working : desk.state.audit.outage = none
  settled : recorded action .attempted desk.state.audit.actions =
    outcomes action desk.state.audit.actions + past.outstanding workflow
  prefixes : ∀ seen, seen <+: desk.state.audit.actions →
    outcomes action seen ≤ recorded action .attempted seen

section

variable {action : String} {workflow : Workflow}
  {past later : InvocationTranscript Unit PublishReport} {desk next : InvocationDesk Services}

theorem balanced_start (action : String) (workflow : Workflow) {services : Services}
    (fresh : services.audit = .empty) : Balanced action workflow [] (.start services) := by
  have blank : (InvocationDesk.start services).state.audit.actions = [] := by
    rw [InvocationDesk.start, fresh]
    rfl
  exact
    { registers := InvocationDesk.start_registers services
      working := by
        rw [InvocationDesk.start, fresh]
        rfl
      settled := by
        rw [blank]
        rfl
      prefixes := by
        intro seen before
        rw [blank, List.prefix_nil] at before
        rw [before]
        exact Nat.le_refl 0 }

theorem Balanced.extend (balanced : Balanced action workflow past desk) (added : Option String)
    (registers : next.Registers later) (working : next.state.audit.outage = none)
    (actions : next.state.audit.actions = desk.state.audit.actions ++ added.toList)
    (balance : later.outstanding workflow + outcomes action added.toList =
      past.outstanding workflow + recorded action .attempted added.toList) :
    Balanced action workflow later next := by
  have settled : recorded action .attempted next.state.audit.actions =
      outcomes action next.state.audit.actions + later.outstanding workflow := by
    rw [actions, recorded_append, outcomes_append, balanced.settled]
    omega
  refine ⟨registers, working, settled, fun seen before => ?_⟩
  cases added with
  | none =>
      rw [actions, Option.toList_none, List.append_nil] at before
      exact balanced.prefixes seen before
  | some last =>
      rw [actions, Option.toList_some] at before
      rcases List.prefix_concat_iff.mp before with whole | earlier
      · rw [whole, ← Option.toList_some, ← actions, settled]
        exact Nat.le_add_right _ _
      · exact balanced.prefixes seen earlier

end

section

variable {bus : EventBus} {entry : Entry} {workflow : Workflow}
  {past : InvocationTranscript Unit PublishReport} {desk : InvocationDesk Services}

theorem Balanced.publish (records : Catalog.RecordedBy bus) (member : entry ∈ Catalog.entries)
    (same : entry.name = workflow.name) (balanced : Balanced entry.auditAction workflow past desk)
    (event : Event) {next : InvocationDesk Services}
    {later : InvocationTranscript Unit PublishReport} (registers : next.Registers later)
    (state : next.state = (bus.publish event ⟨desk.state, none⟩).2.services)
    (balance : later.outstanding workflow + closes workflow event.eventType =
      past.outstanding workflow + opens workflow event.eventType) :
    Balanced entry.auditAction workflow later next := by
  obtain ⟨working, actions⟩ := records event desk.state balanced.working
  rw [← state] at working actions
  refine balanced.extend _ registers working actions ?_
  rw [Catalog.outcomes_action? member same, Catalog.attempted_action? member same, balance]

theorem Balanced.guarded (records : Catalog.RecordedBy bus) (member : entry ∈ Catalog.entries)
    (same : entry.name = workflow.name) (balanced : Balanced entry.auditAction workflow past desk)
    (call : InvocationCall Unit) :
    Balanced entry.auditAction workflow (past ++ [(call, (desk.carryOut bus.publisher call).1)])
      (desk.carryOut bus.publisher call).2 := by
  obtain ⟨registers, state, balances⟩ :=
    InvocationDesk.carryOut_accounts bus.publisher balanced.registers call
  have balance := balances workflow
  cases published : published? (call, (desk.carryOut bus.publisher call).1) with
  | none =>
      rw [published] at state balance
      refine balanced.extend none registers ?_ ?_ balance
      · rw [state]
        exact balanced.working
      · rw [state]
        exact (List.append_nil _).symm
  | some publication =>
      rw [published, Option.toList_some, EventBus.stateAfter_publisher] at state
      rw [published, Option.elim_some, Option.elim_some] at balance
      exact balanced.publish records member same publication.1 registers state balance

theorem Balanced.telemetry (records : Catalog.RecordedBy bus) (member : entry ∈ Catalog.entries)
    (same : entry.name = workflow.name) (balanced : Balanced entry.auditAction workflow past desk)
    (event : Event) (operational : event.eventType.family = .operational) :
    Balanced entry.auditAction workflow past
      (desk.withState (bus.publish event ⟨desk.state, none⟩).2.services) := by
  have apart (stage : Stage) : event.eventType ≠ .lifecycle workflow stage := by
    intro lifecycle
    rw [lifecycle] at operational
    cases operational
  refine balanced.publish records member same event (balanced.registers.withState _) rfl ?_
  rw [closes, opens, if_neg (apart _), if_neg (apart _), if_neg (apart _)]

theorem Balanced.wait (balanced : Balanced entry.auditAction workflow past desk)
    (later : Instant) :
    Balanced entry.auditAction workflow past (desk.withState { desk.state with now := later }) :=
  ⟨balanced.registers.withState _, balanced.working, balanced.settled, balanced.prefixes⟩

theorem Balanced.run (records : Catalog.RecordedBy bus) (member : entry ∈ Catalog.entries)
    (same : entry.name = workflow.name) (steps : List GuardedStep)
    (balanced : Balanced entry.auditAction workflow past desk) :
    Balanced entry.auditAction workflow (past ++ (GuardedStep.run bus steps desk).1)
      (GuardedStep.run bus steps desk).2 := by
  induction steps generalizing past desk with
  | nil =>
      rw [GuardedStep.run, List.append_nil]
      exact balanced
  | cons step rest ih =>
      cases step with
      | guarded call =>
          have next := ih (balanced.guarded records member same call)
          rw [List.append_assoc] at next
          exact next
      | telemetry event operational =>
          exact ih (balanced.telemetry records member same event operational)
      | wait later => exact ih (balanced.wait later)

end

/-- The audit trail is balanced.  On the bus wired from the standard catalog over services whose
trail is empty, let workflow events be published through invocations only, any number of them
at once and their calls in any order, whether accepted or rejected; and let operational events
be published, and time pass, in between.  Then for every workflow, up to every point of the
trail, no more entries record a success or a failure than record an attempt; and at the end
the attempts exceed them by as many as the invocations of the workflow that have published no
terminal event. -/
theorem run_balances_trail (settings : BusSettings) (wired : EventBus) (services : Services)
    (built : build Catalog.registry settings = .ok wired) (fresh : services.audit = .empty)
    (steps : List GuardedStep) :
    let run := GuardedStep.run wired steps (.start services)
    let transcript := run.1
    let trail := run.2.state.audit.entries
    ∀ workflow : Workflow, ∃ entry, Catalog.registry.find? workflow.name = some entry ∧
      let recordedAt := fun (stage : Stage) (seen : List AuditEntry) =>
        seen.countP fun written => written.record.action = entry.auditAction ++ "." ++ stage.name
      (∀ seen, seen <+: trail →
        recordedAt .succeeded seen + recordedAt .failed seen ≤ recordedAt .attempted seen) ∧
      recordedAt .attempted trail =
        recordedAt .succeeded trail + recordedAt .failed trail +
          transcript.outstanding workflow := by
  intro run transcript trail workflow
  cases eq_bus_of_build built
  obtain ⟨entry, member, found, same⟩ := Catalog.exists_entry workflow
  have balanced := (balanced_start entry.auditAction workflow fresh).run
    (Catalog.recordedBy_bus settings) member same steps
  refine ⟨entry, found, ?_⟩
  intro recordedAt
  have counted (stage : Stage) (seen : List AuditEntry) : recordedAt stage seen =
      recorded entry.auditAction stage (seen.map fun written => written.record.action) := by
    rw [recorded, List.count, List.countP_map]
    rfl
  simp only [counted]
  exact ⟨fun seen before => balanced.prefixes _ (before.map _), balanced.settled⟩

/-- Two logins are attempted, an event that attempts nothing is rejected, and one login
succeeds. -/
theorem half_of_logins_outstanding :
    let settings := BusSettings.default.strict
    let wired := bus Catalog.registry settings
    let services := Services.start .inProcess .numbered .epoch
    let login : WorkflowFact → Nat → Event := fun fact number =>
      ⟨.numbered number, .epoch, .lifecycle fact⟩
    let attempted := WorkflowFact.userLoginAttempted "user@example.org"
    let succeeded := WorkflowFact.userLoginSucceeded (.numbered 8) "user@example.org" (.numbered 9)
    let steps : List GuardedStep := [.guarded (.start (login attempted 1) ()),
      .guarded (.start (login attempted 2) ()),
      .telemetry ⟨.numbered 3, .epoch, .telemetry (.suspiciousSessionActivity (.numbered 9)
        (.numbered 8) "new address")⟩ rfl,
      .guarded (.start (login succeeded 4) ()), .guarded (.close .succeed 0 (login succeeded 5) ()),
      .guarded (.close .fail 1 (login succeeded 6) ()), .guarded (.drop 1)]
    let run := GuardedStep.run wired steps (.start services)
    let recordedAs := fun (action : String) =>
      run.2.state.audit.entries.countP fun written => written.record.action = action
    build Catalog.registry settings = .ok wired ∧ services.audit = .empty ∧
      run.1.outstanding .userLogin = 1 ∧
      recordedAs "auth.login.attempted" =
        recordedAs "auth.login.succeeded" + recordedAs "auth.login.failed" + 1 := by
  intro settings wired services login attempted succeeded steps
  have built : build Catalog.registry settings = .ok wired :=
    build_strict_of_nothing rfl (by decide +kernel) rfl
  have one : (GuardedStep.run wired steps (.start services)).1.outstanding .userLogin = 1 := by
    decide +kernel
  have action {entry : Entry} (found : Catalog.registry.find? "user_login" = some entry) :
      entry.auditAction = "auth.login" := by
    cases found
    rfl
  obtain ⟨entry, found, _prefixes, settled⟩ :=
    run_balances_trail settings wired services built rfl steps .userLogin
  -- The run is left as it is; otherwise comparing the two sides would carry it out.
  generalize GuardedStep.run wired steps (.start services) = outcome at one settled ⊢
  rw [one, action found] at settled
  exact ⟨built, rfl, one, settled⟩

end WorkflowBus
