/-
Regular registries.

A registry is regular when no two entries share a name and the shape of every entry
is right.  Then an entry declares each of its event types once and owns it.  A
registry that the check finds nothing against is regular.
-/

import Mathlib.Data.List.Nodup
import WorkflowBus.Compliance.Check
import WorkflowBus.Proofs.Registry.Index

namespace WorkflowBus

namespace Entry

theorem mem_expectedSubscriptions (entry : Entry) (eventType : EventType) (category : Category) :
    (eventType, category) ∈ entry.expectedSubscriptions ↔
      eventType ∈ entry.eventTypes ∧ entry.requires category = true ∧
        category.appliesTo eventType = true := by
  have all : category ∈ Category.all := by cases category <;> decide
  simp only [expectedSubscriptions, List.mem_flatMap, List.mem_map, List.mem_filter,
    requiredCategories, Obligations.toList, Prod.mk.injEq]
  constructor
  · intro wanted
    obtain ⟨_declared, member, _category, ⟨⟨_listed, required⟩, applies⟩, rfl, rfl⟩ := wanted
    exact ⟨member, required, applies⟩
  · intro wanted
    obtain ⟨member, required, applies⟩ := wanted
    exact ⟨eventType, member, category, ⟨⟨all, required⟩, applies⟩, rfl, rfl⟩

theorem belongs_of_problems_eq_nil (entry : Entry) (right : entry.problems = [])
    (eventType : EventType) (declared : eventType ∈ entry.eventTypes) :
    eventType.family = entry.family ∧ eventType.registryName = entry.name := by
  obtain ⟨named, _counted⟩ := List.append_eq_nil_iff.mp right
  have proper := List.filterMap_eq_nil_iff.mp (List.append_eq_nil_iff.mp named).2
  have member := proper eventType declared
  unfold membershipProblem? at member
  split at member
  · cases member
  · rename_i family
    split at member
    · cases member
    · rename_i owner
      exact ⟨Decidable.not_not.mp family, Decidable.not_not.mp owner⟩

theorem countAt_eq_one (entry : Entry) (right : entry.problems = [])
    (workflow : entry.family = .workflow) (stage : Stage) : entry.countAt stage = 1 := by
  have counted := (List.append_eq_nil_iff.mp right).2
  simp only [countProblems, workflow] at counted
  have single := List.filterMap_eq_nil_iff.mp counted stage (by cases stage <;> decide)
  apply Decidable.not_not.mp
  intro wrong
  rw [if_pos wrong] at single
  cases single

theorem length_eq_one (entry : Entry) (right : entry.problems = [])
    (operational : entry.family = .operational) : entry.eventTypes.length = 1 := by
  have counted := (List.append_eq_nil_iff.mp right).2
  simp only [countProblems, operational] at counted
  apply Decidable.not_not.mp
  intro wrong
  rw [if_pos wrong] at counted
  cases counted

/-- An entry of a right shape declares each event type once: those of a workflow
have stages, of which each occurs once. -/
theorem nodup_eventTypes (entry : Entry) (right : entry.problems = []) :
    entry.eventTypes.Nodup := by
  cases family : entry.family with
  | operational =>
      obtain ⟨only, single⟩ := List.length_eq_one_iff.mp (length_eq_one entry right family)
      rw [single]
      exact List.nodup_singleton only
  | workflow =>
      rw [List.nodup_iff_count]
      intro eventType
      by_cases declared : eventType ∈ entry.eventTypes
      · have belongs := (entry.belongs_of_problems_eq_nil right eventType declared).1
        rw [family] at belongs
        cases eventType with
        | telemetry kind => cases belongs
        | lifecycle workflow stage =>
            calc entry.eventTypes.count (.lifecycle workflow stage)
                ≤ entry.countAt stage := by
                  apply List.countP_mono_left
                  intro other _member same
                  rw [eq_of_beq same]
                  exact beq_self_eq_true (some stage)
              _ = 1 := entry.countAt_eq_one right family stage
      · rw [List.count_eq_zero.mpr declared]
        exact Nat.zero_le 1

end Entry

namespace Registry

/-- No two entries share a name, and no entry has a problem of its own. -/
structure Regular (registry : Registry) : Prop where
  names : (registry.entries.map Entry.name).Nodup
  right : ∀ entry ∈ registry.entries, entry.problems = []

end Registry

namespace Compliance

theorem entryViolations_eq_nil (names : List String) (declarations : Declarations)
    (entries : List Entry) (nothing : entryViolations names declarations entries = []) :
    (entries.map Entry.name).Nodup ∧
      ∀ entry ∈ entries, entry.name ∉ names ∧ entry.problems = [] := by
  induction entries generalizing names declarations with
  | nil => exact ⟨List.nodup_nil, nofun⟩
  | cons entry rest ih =>
      obtain ⟨own, later⟩ := List.append_eq_nil_iff.mp nothing
      obtain ⟨repeated, malformed⟩ := List.append_eq_nil_iff.mp own
      obtain ⟨restNames, restRight⟩ := ih _ _ later
      have fresh : entry.name ∉ names := by
        intro known
        rw [if_pos known] at repeated
        cases repeated
      have right : entry.problems = [] :=
        (List.append_eq_nil_iff.mp (List.map_eq_nil_iff.mp malformed)).1
      constructor
      · rw [List.map_cons, List.nodup_cons]
        refine ⟨?_, restNames⟩
        intro again
        obtain ⟨other, member, same⟩ := List.mem_map.mp again
        exact (restRight other member).1 (same ▸ List.mem_cons_self)
      · intro other member
        rcases List.mem_cons.mp member with rfl | member
        · exact ⟨fresh, right⟩
        · obtain ⟨unknown, otherRight⟩ := restRight other member
          exact ⟨fun known => unknown (List.mem_cons_of_mem _ known), otherRight⟩

theorem regular_of_checkRegistry_eq_nil (registry : Registry)
    (nothing : checkRegistry registry = []) : registry.Regular := by
  obtain ⟨names, entries⟩ := entryViolations_eq_nil [] [] registry.entries nothing
  exact ⟨names, fun entry member => (entries entry member).2⟩

end Compliance

namespace Registry

theorem Regular.eq_of_declared {registry : Registry} (regular : registry.Regular)
    {left right : Entry} (inLeft : left ∈ registry.entries) (inRight : right ∈ registry.entries)
    {eventType : EventType} (byLeft : eventType ∈ left.eventTypes)
    (byRight : eventType ∈ right.eventTypes) : left = right := by
  have leftName := (left.belongs_of_problems_eq_nil (regular.right left inLeft) _ byLeft).2
  have rightName := (right.belongs_of_problems_eq_nil (regular.right right inRight) _ byRight).2
  exact List.inj_on_of_nodup_map regular.names inLeft inRight (leftName.symm.trans rightName)

theorem Regular.owner?_eq {entries : List Entry} (regular : (ofEntries entries).Regular)
    {entry : Entry} (member : entry ∈ entries) {eventType : EventType}
    (declared : eventType ∈ entry.eventTypes) :
    (ofEntries entries).owner? eventType = some entry := by
  cases owned : (ofEntries entries).owner? eventType with
  | none => exact absurd ⟨entry, member, declared⟩ ((owner?_eq_none_iff entries eventType).mp owned)
  | some owner =>
      obtain ⟨ownerMember, ownerDeclares⟩ := mem_of_owner? owned
      rw [regular.eq_of_declared ownerMember member ownerDeclares declared]

end Registry
end WorkflowBus
