/-
The verdict of the compliance check.

The check is sound and complete: it finds nothing exactly when the registry is in
order, the count fits, and every event type is subscribed as its owner calls for.
-/

import WorkflowBus.Proofs.Compliance.Findings

namespace WorkflowBus
namespace Compliance

theorem countViolations_eq_nil_iff (registry : Registry) (expected : Option Nat) :
    countViolations registry expected = [] ↔
      ∀ count, expected = some count → registry.size = count := by
  cases expected with
  | none => exact iff_of_true rfl nofun
  | some expected =>
      simp only [countViolations]
      by_cases fits : registry.size = expected
      · rw [if_neg (not_not_intro fits)]
        refine iff_of_true rfl ?_
        intro count same
        cases same
        exact fits
      · rw [if_pos fits]
        exact iff_of_false (List.cons_ne_nil _ _) (fun all => fits (all expected rfl))

theorem disallowed_eq_nil_iff (entries : List Entry) (eventType : EventType) (id : HandlerId) :
    disallowed (.ofEntries entries) eventType id = [] ↔
      (Registry.ofEntries entries).Declares eventType ∧
        (id.NamesCategory → (Registry.ofEntries entries).CallsFor eventType id) := by
  have declared := Registry.owner?_eq_none_iff entries eventType
  rcases disallowed_cases (.ofEntries entries) eventType id with
    ⟨unowned, found⟩ | ⟨⟨entry, owned⟩, allowed, found⟩ | ⟨entry, owned, named, uncalled, found⟩
  · rw [found]
    exact iff_of_false (List.cons_ne_nil _ _) (fun both => declared.mp unowned both.1)
  · refine iff_of_true found ⟨?_, allowed⟩
    obtain ⟨member, declares⟩ := Registry.mem_of_owner? owned
    exact ⟨entry, member, declares⟩
  · rw [found]
    exact iff_of_false (List.cons_ne_nil _ _) (fun both => uncalled (both.2 named))

theorem presentViolations_eq_nil_iff (registry : Registry) (bus : EventBus) :
    presentViolations registry bus = [] ↔
      ∀ eventType, (bus.handlersFor eventType).Nodup ∧
        ∀ id ∈ bus.handlersFor eventType, disallowed registry eventType id = [] := by
  have each (count : Nat) (eventType : EventType) (id : HandlerId) :
      subscriptionViolations registry count eventType id = [] ↔
        count ≤ 1 ∧ disallowed registry eventType id = [] := by
    rw [subscriptionViolations, List.append_eq_nil_iff]
    refine and_congr_left' ?_
    split
    · exact iff_of_false (List.cons_ne_nil _ _) (by omega)
    · exact iff_of_true rfl (by omega)
  simp only [presentViolations, List.flatMap_eq_nil_iff, mem_distinct, Prod.forall,
    EventBus.mem_listing, EventBus.count_listing, each]
  constructor
  · intro all eventType
    refine ⟨List.nodup_iff_count.mpr fun id => ?_, fun id member => (all eventType id member).2⟩
    by_cases member : id ∈ bus.handlersFor eventType
    · exact (all eventType id member).1
    · rw [List.count_eq_zero.mpr member]
      exact Nat.zero_le 1
  · intro all eventType id member
    exact ⟨List.nodup_iff_count.mp (all eventType).1 id, (all eventType).2 id member⟩

theorem missingSubscriptions_eq_nil_iff {entries : List Entry}
    (regular : (Registry.ofEntries entries).Regular) (bus : EventBus) :
    missingSubscriptions (.ofEntries entries) bus = [] ↔
      ∀ eventType id, (Registry.ofEntries entries).CallsFor eventType id →
        id ∈ bus.handlersFor eventType := by
  rw [List.eq_nil_iff_forall_not_mem]
  constructor
  · intro nothing eventType id calls
    obtain ⟨entry, category, owned, required, applies, rfl⟩ := calls
    obtain ⟨member, declared⟩ := Registry.mem_of_owner? owned
    have expected := (entry.mem_expectedSubscriptions _ _).mpr ⟨declared, required, applies⟩
    apply Decidable.not_not.mp
    intro absent
    exact nothing _ (mem_missingSubscriptions.mpr
      ⟨entry, member, eventType, category, expected, absent, rfl⟩)
  · intro all violation missing
    obtain ⟨entry, member, eventType, category, expected, absent, _found⟩ :=
      mem_missingSubscriptions.mp missing
    obtain ⟨declared, required, applies⟩ := (entry.mem_expectedSubscriptions _ _).mp expected
    exact absent (all eventType _
      ⟨entry, category, regular.owner?_eq member declared, required, applies, rfl⟩)

theorem check_violations_eq_nil_iff (registry : Registry) (bus : EventBus)
    (expected : Option Nat) :
    (check registry bus expected).violations = [] ↔
      checkRegistry registry = [] ∧ countViolations registry expected = [] ∧
        missingSubscriptions registry bus = [] ∧ presentViolations registry bus = [] := by
  simp only [check, List.append_eq_nil_iff, and_assoc]

/-- The event type is subscribed as the registry calls for: each identity once,
nothing on a type that no entry declares, and under the names of categories exactly
what the owner requires and what applies. -/
structure SubscribedAsCalled (registry : Registry) (bus : EventBus) (eventType : EventType) :
    Prop where
  once : (bus.handlersFor eventType).Nodup
  declared : bus.handlersFor eventType ≠ [] → registry.Declares eventType
  called : ∀ id, id ∈ bus.handlersFor eventType ∧ id.NamesCategory ↔
    registry.CallsFor eventType id

/-- Over a regular registry the bus is not found fault with when every event type is
subscribed as called. -/
theorem subscriptionFindings_eq_nil_iff {entries : List Entry}
    (regular : (Registry.ofEntries entries).Regular) (bus : EventBus) :
    missingSubscriptions (.ofEntries entries) bus = [] ∧
        presentViolations (.ofEntries entries) bus = [] ↔
      ∀ eventType, SubscribedAsCalled (.ofEntries entries) bus eventType := by
  rw [missingSubscriptions_eq_nil_iff regular, presentViolations_eq_nil_iff]
  simp only [disallowed_eq_nil_iff]
  constructor
  · intro ⟨complete, allowed⟩ eventType
    obtain ⟨once, each⟩ := allowed eventType
    refine ⟨once, ?_, fun id => ⟨?_, ?_⟩⟩
    · intro somebody
      obtain ⟨id, member⟩ := List.exists_mem_of_ne_nil _ somebody
      exact (each id member).1
    · intro ⟨member, named⟩
      exact (each id member).2 named
    · intro calls
      exact ⟨complete eventType id calls, calls.namesCategory⟩
  · intro all
    constructor
    · intro eventType id calls
      exact (((all eventType).called id).mpr calls).1
    · intro eventType
      refine ⟨(all eventType).once, fun id member => ?_⟩
      exact ⟨(all eventType).declared (List.ne_nil_of_mem member),
        fun named => ((all eventType).called id).mp ⟨member, named⟩⟩

/-- The check of any bus against any registry is sound and complete, and every fault
of a subscription is reported exactly once. -/
theorem check_exact (entries : List Entry) (bus : EventBus) (expected : Option Nat) :
    let registry := Registry.ofEntries entries
    let report := check registry bus expected
    (report.isCompliant = true ↔
      checkRegistry registry = [] ∧ (∀ count, expected = some count → registry.size = count) ∧
        ∀ eventType, SubscribedAsCalled registry bus eventType) ∧
    ∀ eventType id,
      (∀ count, ReportedOnceIff report.violations (.duplicateSubscription eventType id count)
        (1 < count ∧ (bus.handlersFor eventType).count id = count)) ∧
      ReportedOnceIff report.violations (.orphanedSubscription eventType id)
        (id ∈ bus.handlersFor eventType ∧ ¬registry.Declares eventType) ∧
      ∀ name, ReportedOnceIff report.violations (.unexpectedSubscription name eventType id)
        (id ∈ bus.handlersFor eventType ∧ id.NamesCategory ∧
          (∃ entry, registry.owner? eventType = some entry ∧ entry.name = name) ∧
            ¬registry.CallsFor eventType id) := by
  intro registry report
  refine ⟨?_, fun eventType id => ⟨fun count => ?_, ?_, fun name => ?_⟩⟩
  · rw [Report.isCompliant, List.isEmpty_iff, check_violations_eq_nil_iff,
      countViolations_eq_nil_iff]
    refine and_congr_right fun nothing => and_congr_right fun _fits => ?_
    have regular := regular_of_checkRegistry_eq_nil registry nothing
    exact subscriptionFindings_eq_nil_iff regular bus
  · exact duplicate_reportedOnceIff registry bus expected eventType id count
  · exact orphaned_reportedOnceIff entries bus expected eventType id
  · exact unexpected_reportedOnceIff registry bus expected name eventType id

end Compliance
end WorkflowBus
