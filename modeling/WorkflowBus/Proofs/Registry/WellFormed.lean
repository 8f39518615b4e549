/-
Well-formed registries.

An entry is well formed when it declares the three event types of the workflow that it is
named after, or the event type of the operational kind, and can name its audit action where
it has to.  The check of a registry finds nothing exactly when the entries are well formed and
no two have the same name; and then no event type is declared twice.
-/

import Mathlib.Data.List.Perm.Basic
import WorkflowBus.Proofs.Registry.Regular
import WorkflowBus.Registry.Catalog

namespace WorkflowBus

theorem Workflow.ofName?_name (workflow : Workflow) : ofName? workflow.name = some workflow := by
  cases workflow <;> decide

theorem Workflow.name_injective {left right : Workflow} (same : left.name = right.name) :
    left = right := by
  have read := left.ofName?_name
  rw [same, right.ofName?_name] at read
  exact (Option.some.inj read).symm

theorem Workflow.name_ne_empty (workflow : Workflow) : workflow.name ≠ "" := by
  cases workflow <;> decide

theorem OperationalKind.name_ne_empty (kind : OperationalKind) : kind.name ≠ "" := by
  cases kind <;> decide

theorem Workflow.mem_all (workflow : Workflow) : workflow ∈ Workflow.all := by
  cases workflow <;> decide

theorem Stage.mem_all (stage : Stage) : stage ∈ Stage.all := by
  cases stage <;> decide

theorem Workflow.mem_eventTypes (workflow : Workflow) (eventType : EventType) :
    eventType ∈ workflow.eventTypes ↔ ∃ stage, eventType = .lifecycle workflow stage := by
  rw [eventTypes, List.mem_map]
  constructor
  · intro ⟨stage, _listed, same⟩
    exact ⟨stage, same.symm⟩
  · intro ⟨stage, same⟩
    exact ⟨stage, stage.mem_all, same.symm⟩

namespace Entry

/-- The entry names its audit action if it requires audit, and declares the event types of
what it is named after: those of a workflow in any order, or that of an operational kind. -/
structure WellFormed (entry : Entry) : Prop where
  audited : entry.requires .audit = true → entry.auditAction ≠ ""
  workflow : entry.family = .workflow → ∃ workflow : Workflow,
    entry.name = workflow.name ∧ entry.eventTypes.Perm workflow.eventTypes
  operational : entry.family = .operational → ∃ kind : OperationalKind,
    entry.name = kind.name ∧ entry.eventTypes = [.telemetry kind]

theorem namingProblems_eq_nil_iff (entry : Entry) :
    entry.namingProblems = [] ↔
      entry.name ≠ "" ∧ (entry.requires .audit = true → entry.auditAction ≠ "") := by
  unfold namingProblems
  rw [List.append_eq_nil_iff]
  apply and_congr
  · split <;> simp_all
  · split <;> simp_all

theorem membershipProblem?_eq_none_iff (entry : Entry) (eventType : EventType) :
    entry.membershipProblem? eventType = none ↔
      eventType.family = entry.family ∧ eventType.registryName = entry.name := by
  unfold membershipProblem?
  split
  · simp_all
  · split <;> simp_all

theorem workflow_of_problems_eq_nil (entry : Entry) (right : entry.problems = [])
    (family : entry.family = .workflow) : ∃ workflow : Workflow,
      entry.name = workflow.name ∧ entry.eventTypes.Perm workflow.eventTypes := by
  -- Each stage occurs, and what stands there is of the one workflow that has the entry's name.
  have staged (stage : Stage) : ∃ workflow : Workflow,
      .lifecycle workflow stage ∈ entry.eventTypes ∧ entry.name = workflow.name := by
    have occurs : 0 < entry.countAt stage := by
      rw [entry.countAt_eq_one right family stage]
      exact Nat.zero_lt_one
    obtain ⟨eventType, declared, here⟩ := List.countP_pos_iff.mp occurs
    have belongs := entry.belongs_of_problems_eq_nil right eventType declared
    cases eventType with
    | telemetry kind => cases here
    | lifecycle workflow other =>
        cases eq_of_beq here
        exact ⟨workflow, declared, belongs.2.symm⟩
  obtain ⟨workflow, _attempted, named⟩ := staged .attempted
  refine ⟨workflow, named, ?_⟩
  have distinct : workflow.eventTypes.Nodup := by cases workflow <;> decide
  apply (List.perm_ext_iff_of_nodup (entry.nodup_eventTypes right) distinct).mpr
  intro eventType
  rw [workflow.mem_eventTypes]
  constructor
  · intro declared
    obtain ⟨own, name⟩ := entry.belongs_of_problems_eq_nil right eventType declared
    cases eventType with
    | telemetry kind =>
        rw [family] at own
        cases own
    | lifecycle other stage =>
        have same : other = workflow := Workflow.name_injective (name.trans named)
        exact ⟨stage, same ▸ rfl⟩
  · rintro ⟨stage, rfl⟩
    obtain ⟨other, declared, name⟩ := staged stage
    have same : other = workflow := Workflow.name_injective (name.symm.trans named)
    exact same ▸ declared

theorem operational_of_problems_eq_nil (entry : Entry) (right : entry.problems = [])
    (family : entry.family = .operational) : ∃ kind : OperationalKind,
      entry.name = kind.name ∧ entry.eventTypes = [.telemetry kind] := by
  obtain ⟨only, single⟩ := List.length_eq_one_iff.mp (entry.length_eq_one right family)
  have declared : only ∈ entry.eventTypes := single ▸ List.mem_cons_self
  obtain ⟨own, name⟩ := entry.belongs_of_problems_eq_nil right only declared
  cases only with
  | lifecycle workflow stage =>
      rw [family] at own
      cases own
  | telemetry kind => exact ⟨kind, name.symm, single⟩

theorem WellFormed.belongs {entry : Entry} (formed : entry.WellFormed) {eventType : EventType}
    (declared : eventType ∈ entry.eventTypes) :
    eventType.family = entry.family ∧ eventType.registryName = entry.name := by
  cases family : entry.family with
  | workflow =>
      obtain ⟨workflow, named, types⟩ := formed.workflow family
      obtain ⟨stage, rfl⟩ := (workflow.mem_eventTypes eventType).mp (types.mem_iff.mp declared)
      exact ⟨rfl, named.symm⟩
  | operational =>
      obtain ⟨kind, named, types⟩ := formed.operational family
      rw [types] at declared
      cases List.mem_singleton.mp declared
      exact ⟨rfl, named.symm⟩

theorem WellFormed.name_ne_empty {entry : Entry} (formed : entry.WellFormed) :
    entry.name ≠ "" := by
  cases family : entry.family with
  | workflow =>
      obtain ⟨workflow, named, _types⟩ := formed.workflow family
      rw [named]
      exact workflow.name_ne_empty
  | operational =>
      obtain ⟨kind, named, _types⟩ := formed.operational family
      rw [named]
      exact kind.name_ne_empty

theorem WellFormed.countProblems_eq_nil {entry : Entry} (formed : entry.WellFormed) :
    entry.countProblems = [] := by
  unfold countProblems
  cases family : entry.family with
  | workflow =>
      obtain ⟨workflow, _named, types⟩ := formed.workflow family
      apply List.filterMap_eq_nil_iff.mpr
      intro stage _listed
      have once : entry.countAt stage = 1 := by
        rw [countAt, types.countP_eq]
        cases stage <;> rfl
      exact if_neg (not_not_intro once)
  | operational =>
      obtain ⟨kind, _named, types⟩ := formed.operational family
      rw [types]
      rfl

theorem problems_eq_nil_iff (entry : Entry) : entry.problems = [] ↔ entry.WellFormed := by
  constructor
  · intro right
    have naming := (List.append_eq_nil_iff.mp (List.append_eq_nil_iff.mp right).1).1
    exact
      { audited := ((entry.namingProblems_eq_nil_iff).mp naming).2
        workflow := entry.workflow_of_problems_eq_nil right
        operational := entry.operational_of_problems_eq_nil right }
  · intro formed
    have naming := (entry.namingProblems_eq_nil_iff).mpr ⟨formed.name_ne_empty, formed.audited⟩
    have members : entry.eventTypes.filterMap entry.membershipProblem? = [] :=
      List.filterMap_eq_nil_iff.mpr fun eventType declared =>
        (entry.membershipProblem?_eq_none_iff eventType).mpr (formed.belongs declared)
    rw [problems, naming, members, formed.countProblems_eq_nil]
    rfl

end Entry

/-! ### Registries without findings -/

namespace Compliance

/-- Every event type has been declared under the name of the entry that it belongs to. -/
def Proper (declarations : Declarations) : Prop :=
  ∀ declared ∈ declarations, declared.2 = declared.1.registryName

theorem proper_nil : Proper [] := by
  intro declared member
  cases member

theorem Proper.owner_eq {declarations : Declarations} (proper : Proper declarations)
    {eventType : EventType} {owner : String}
    (found : declarations.lookup eventType = some owner) : owner = eventType.registryName := by
  obtain ⟨before, after, split, _first⟩ := List.lookup_eq_some_iff.mp found
  apply proper (eventType, owner)
  rw [split]
  exact List.mem_append_right before List.mem_cons_self

theorem declare_proper {declarations : Declarations} (proper : Proper declarations)
    {name : String} {eventTypes : List EventType}
    (own : ∀ eventType ∈ eventTypes, eventType.registryName = name) :
    (declare name declarations eventTypes).1 = [] ∧
      Proper (declare name declarations eventTypes).2 := by
  induction eventTypes generalizing declarations with
  | nil => exact ⟨rfl, proper⟩
  | cons eventType rest ih =>
      obtain ⟨here, later⟩ := List.forall_mem_cons.mp own
      have properNow : Proper ((eventType, name) :: declarations) :=
        List.forall_mem_cons.mpr ⟨here.symm, proper⟩
      obtain ⟨nothing, properAfter⟩ := ih properNow later
      unfold declare
      cases found : declarations.lookup eventType with
      | none => exact ⟨nothing, properAfter⟩
      | some owner =>
          simp only [if_pos ((proper.owner_eq found).trans here)]
          exact ⟨nothing, properAfter⟩

theorem entryViolations_eq_nil_of_right {names : List String} {declarations : Declarations}
    (proper : Proper declarations) {entries : List Entry}
    (distinct : (entries.map Entry.name).Nodup) (fresh : ∀ entry ∈ entries, entry.name ∉ names)
    (right : ∀ entry ∈ entries, entry.problems = []) :
    entryViolations names declarations entries = [] := by
  induction entries generalizing names declarations with
  | nil => rfl
  | cons entry rest ih =>
      obtain ⟨unrepeated, restDistinct⟩ := List.nodup_cons.mp distinct
      obtain ⟨freshEntry, freshRest⟩ := List.forall_mem_cons.mp fresh
      obtain ⟨rightEntry, rightRest⟩ := List.forall_mem_cons.mp right
      -- A well-shaped entry declares only what belongs to it, so no other has declared it.
      obtain ⟨unclaimed, properAfter⟩ := declare_proper proper fun eventType declared =>
        (entry.belongs_of_problems_eq_nil rightEntry eventType declared).2
      have freshAfter : ∀ other ∈ rest, other.name ∉ entry.name :: names := by
        intro other member known
        rcases List.mem_cons.mp known with same | earlier
        · exact unrepeated (same ▸ List.mem_map_of_mem member)
        · exact freshRest other member earlier
      simp only [entryViolations, if_neg freshEntry, rightEntry, unclaimed, List.append_nil,
        List.map_nil, ih properAfter restDistinct freshAfter rightRest]

theorem checkRegistry_eq_nil_iff_regular (registry : Registry) :
    checkRegistry registry = [] ↔ registry.Regular :=
  ⟨regular_of_checkRegistry_eq_nil registry, fun regular =>
    entryViolations_eq_nil_of_right proper_nil regular.names (fun _ _ => List.not_mem_nil)
      regular.right⟩

end Compliance

namespace Registry

theorem Regular.countP_declared_le {registry : Registry} (regular : registry.Regular)
    (eventType : EventType) :
    registry.entries.countP (fun entry => eventType ∈ entry.eventTypes) ≤ 1 := by
  have distinct : registry.entries.Nodup := regular.names.of_map
  rw [List.countP_eq_length_filter]
  have once := distinct.filter fun entry => decide (eventType ∈ entry.eventTypes)
  have all : ∀ entry ∈ registry.entries.filter fun entry => decide (eventType ∈ entry.eventTypes),
      entry ∈ registry.entries ∧ eventType ∈ entry.eventTypes := by
    intro entry member
    obtain ⟨listed, declares⟩ := List.mem_filter.mp member
    exact ⟨listed, of_decide_eq_true declares⟩
  generalize registry.entries.filter (fun entry => decide (eventType ∈ entry.eventTypes)) =
    declaring at once all
  match declaring, once, all with
  | [], _, _ => exact Nat.zero_le 1
  | [_], _, _ => exact Nat.le_refl 1
  | first :: second :: rest, once, all =>
      obtain ⟨inFirst, byFirst⟩ := all first List.mem_cons_self
      obtain ⟨inSecond, bySecond⟩ := all second (List.mem_cons_of_mem _ List.mem_cons_self)
      have same := regular.eq_of_declared inFirst inSecond byFirst bySecond
      exact absurd (same ▸ List.mem_cons_self) (List.nodup_cons.mp once).1

end Registry

namespace Compliance

/-- The check of a registry finds nothing exactly if no two entries have the same name and
every entry is well formed, and then each event type is declared by one entry at most. -/
theorem checkRegistry_exact (entries : List Entry) :
    (checkRegistry (.ofEntries entries) = [] ↔
        (entries.map Entry.name).Nodup ∧ ∀ entry ∈ entries, entry.WellFormed) ∧
      (checkRegistry (.ofEntries entries) = [] →
        ∀ eventType : EventType,
          entries.countP (fun entry => eventType ∈ entry.eventTypes) ≤ 1) := by
  rw [checkRegistry_eq_nil_iff_regular]
  constructor
  · constructor
    · intro regular
      exact ⟨regular.names, fun entry member =>
        entry.problems_eq_nil_iff.mp (regular.right entry member)⟩
    · intro ⟨names, formed⟩
      exact ⟨names, fun entry member => entry.problems_eq_nil_iff.mpr (formed entry member)⟩
  · intro regular eventType
    exact regular.countP_declared_le eventType

/-- The entries of the standard catalog are well formed, and no event type is declared twice. -/
theorem checkRegistry_catalog :
    checkRegistry (.ofEntries Catalog.entries) = [] ∧
      (Catalog.entries.map Entry.name).Nodup ∧ (∀ entry ∈ Catalog.entries, entry.WellFormed) ∧
      ∀ eventType : EventType,
        Catalog.entries.countP (fun entry => eventType ∈ entry.eventTypes) ≤ 1 := by
  have nothing : checkRegistry (.ofEntries Catalog.entries) = [] := by decide +kernel
  obtain ⟨accepts, once⟩ := checkRegistry_exact Catalog.entries
  obtain ⟨names, formed⟩ := accepts.mp nothing
  exact ⟨nothing, names, formed, once nothing⟩

end Compliance
end WorkflowBus
