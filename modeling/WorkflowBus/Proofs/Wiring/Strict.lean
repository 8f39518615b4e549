/-
Strict wiring.

The bus that a registry calls for has nothing missing and nothing orphaned, whatever
the registry.  If the registry is in order, nothing at all is found against its bus
but perhaps the number of entries; so strict wiring hands the bus out exactly when
the registry is in order and has as many entries as are expected.
-/

import WorkflowBus.Deployment
import WorkflowBus.Proofs.Compliance.Verdict
import WorkflowBus.Proofs.Wiring.Table

namespace WorkflowBus
namespace Wiring

open Compliance

theorem missingSubscriptions_bus (registry : Registry) (settings : BusSettings) :
    missingSubscriptions registry (bus registry settings) = [] := by
  rw [List.eq_nil_iff_forall_not_mem]
  intro violation missing
  obtain ⟨entry, member, eventType, category, expected, absent, _found⟩ :=
    mem_missingSubscriptions.mp missing
  have wanted : (eventType, category) ∈ pairs registry :=
    List.mem_flatMap.mpr ⟨entry, member, expected⟩
  exact absent ((mem_handlersFor_bus registry settings eventType _).mpr ⟨category, wanted, rfl⟩)

theorem declares_of_mem_handlersFor {registry : Registry} {settings : BusSettings}
    {eventType : EventType} {id : HandlerId}
    (subscribed : id ∈ (bus registry settings).handlersFor eventType) :
    registry.Declares eventType := by
  obtain ⟨category, wanted, _same⟩ := (mem_handlersFor_bus _ _ _ _).mp subscribed
  obtain ⟨entry, member, declared, _required, _applies⟩ := (mem_pairs _ _ _).mp wanted
  exact ⟨entry, member, declared⟩

theorem missing_not_mem_check (registry : Registry) (settings : BusSettings)
    (expected : Option Nat) (name : String) (eventType : EventType) (id : HandlerId) :
    .missingSubscription name eventType id ∉
      (check registry (bus registry settings) expected).violations := by
  intro member
  simp only [check, missingSubscriptions_bus, List.append_nil, List.mem_append] at member
  rcases member with (registered | counted) | present
  · rcases shape_of_mem_entryViolations [] [] registry.entries registered with
      ⟨_name, _problem, same⟩ | ⟨_name, same⟩ <;> cases same
  · obtain ⟨_expected, _actual, same⟩ := shape_of_mem_countViolations counted
    cases same
  · obtain ⟨_pair, _listed, found⟩ := List.mem_flatMap.mp present
    cases subscription?_of_mem found

theorem orphaned_not_mem_check (entries : List Entry) (settings : BusSettings)
    (expected : Option Nat) (eventType : EventType) (id : HandlerId) :
    .orphanedSubscription eventType id ∉
      (check (.ofEntries entries) (bus (.ofEntries entries) settings) expected).violations := by
  rw [← List.count_eq_zero]
  apply (orphaned_reportedOnceIff entries _ expected eventType id).2
  intro ⟨subscribed, undeclared⟩
  exact undeclared (declares_of_mem_handlersFor subscribed)

theorem bus_subscribedAsCalled {entries : List Entry}
    (regular : (Registry.ofEntries entries).Regular) (settings : BusSettings)
    (eventType : EventType) :
    SubscribedAsCalled (.ofEntries entries) (bus (.ofEntries entries) settings) eventType where
  once := by
    rw [handlersFor_bus]
    refine ((nodup_pairs regular).sublist List.filter_sublist).map_on ?_
    intro (leftType, left) inLeft (rightType, right) inRight same
    have leftHere : leftType = eventType := of_decide_eq_true (List.mem_filter.mp inLeft).2
    have rightHere : rightType = eventType := of_decide_eq_true (List.mem_filter.mp inRight).2
    subst leftHere
    subst rightHere
    have categories : left = right := HandlerId.ofCategory_injective rightType same
    rw [categories]
  declared := by
    intro somebody
    obtain ⟨id, member⟩ := List.exists_mem_of_ne_nil _ somebody
    exact declares_of_mem_handlersFor member
  called := by
    intro id
    rw [mem_handlersFor_bus]
    constructor
    · intro ⟨⟨category, wanted, same⟩, _named⟩
      obtain ⟨entry, member, declared, required, applies⟩ := (mem_pairs _ _ _).mp wanted
      exact ⟨entry, category, regular.owner?_eq member declared, required, applies, same⟩
    · intro calls
      refine ⟨?_, calls.namesCategory⟩
      obtain ⟨entry, category, owned, required, applies, same⟩ := calls
      obtain ⟨member, declared⟩ := Registry.mem_of_owner? owned
      exact ⟨category, (mem_pairs _ _ _).mpr ⟨entry, member, declared, required, applies⟩, same⟩

theorem check_bus_of_nothing (entries : List Entry) (settings : BusSettings)
    (expected : Option Nat) (nothing : checkRegistry (.ofEntries entries) = []) :
    (check (.ofEntries entries) (bus (.ofEntries entries) settings) expected).violations =
      countViolations (.ofEntries entries) expected := by
  have regular := regular_of_checkRegistry_eq_nil _ nothing
  obtain ⟨complete, allowed⟩ := (subscriptionFindings_eq_nil_iff regular _).mpr
    (bus_subscribedAsCalled regular settings)
  simp only [check, nothing, complete, allowed, List.nil_append, List.append_nil]

theorem build_lenient (registry : Registry) (settings : BusSettings)
    (lenient : settings.strictWiring = false) :
    build registry settings = .ok (bus registry settings) := by
  simp only [build, lenient, Bool.false_eq_true, if_false]

theorem build_strict_ok_iff (registry : Registry) (settings : BusSettings)
    (strict : settings.strictWiring = true) :
    (∃ wired, build registry settings = .ok wired) ↔
      (check registry (bus registry settings) settings.expectedEntries).violations = [] := by
  simp only [build, strict, if_true, Report.isCompliant, List.isEmpty_iff]
  by_cases faultless :
      (check registry (bus registry settings) settings.expectedEntries).violations = []
  · rw [if_pos faultless]
    exact iff_of_true ⟨_, rfl⟩ faultless
  · rw [if_neg faultless]
    refine iff_of_false ?_ faultless
    intro handedOut
    obtain ⟨_wired, impossible⟩ := handedOut
    cases impossible

theorem eq_bus_of_build {registry : Registry} {settings : BusSettings} {wired : EventBus}
    (built : build registry settings = .ok wired) : wired = bus registry settings := by
  simp only [build] at built
  split at built
  · split at built
    · exact (Except.ok.inj built).symm
    · cases built
  · exact (Except.ok.inj built).symm

theorem build_strict_of_nothing {entries : List Entry} {settings : BusSettings}
    (strict : settings.strictWiring = true)
    (nothing : checkRegistry (.ofEntries entries) = [])
    (counted : countViolations (.ofEntries entries) settings.expectedEntries = []) :
    build (.ofEntries entries) settings = .ok (bus (.ofEntries entries) settings) := by
  have faultless := check_bus_of_nothing entries settings settings.expectedEntries nothing
  rw [counted] at faultless
  simp only [build, strict, if_true, Report.isCompliant, faultless, List.isEmpty_nil]

theorem regular_of_build {entries : List Entry} {settings : BusSettings} {bus : EventBus}
    (strict : settings.strictWiring = true)
    (built : build (.ofEntries entries) settings = .ok bus) :
    bus = Wiring.bus (.ofEntries entries) settings ∧ (Registry.ofEntries entries).Regular := by
  have faultless := (build_strict_ok_iff _ settings strict).mp ⟨bus, built⟩
  have nothing := ((check_violations_eq_nil_iff _ _ _).mp faultless).1
  exact ⟨eq_bus_of_build built, regular_of_checkRegistry_eq_nil _ nothing⟩

theorem wired_ok_iff (registry : Registry) (settings : BusSettings) (services : Services)
    (own : Option Collaborators) :
    (∃ deployment, (Deployment.wired registry settings services own).1 = .ok deployment) ↔
      ∃ wired, build registry settings = .ok wired := by
  cases built : build registry settings with
  | error error =>
      simp only [Deployment.wired, built, reduceCtorEq, exists_false]
  | ok wired =>
      simp only [Deployment.wired, built, Except.ok.injEq, exists_eq']

/-- Strict wiring is exact.  Over all collaborators, strict wiring of any registry
succeeds exactly when the registry is in order and has the expected number of
entries; and the bus that lenient wiring hands out always lacks nothing and has
nothing orphaned, and is faultless up to that number if the registry is in order. -/
theorem build_exact (entries : List Entry) (settings : BusSettings) (services : Services)
    (own : Option Collaborators) :
    let registry := Registry.ofEntries entries
    let strict := { settings with strictWiring := true }
    let lenient := { settings with strictWiring := false }
    let inOrder := checkRegistry registry = [] ∧
      ∀ count, settings.expectedEntries = some count → registry.size = count
    ((∃ wired, build registry strict = .ok wired) ↔ inOrder) ∧
    ((∃ deployment, (Deployment.wired registry strict services own).1 = .ok deployment) ↔
      inOrder) ∧
    ∃ wired, build registry lenient = .ok wired ∧ ∀ expected,
      let violations := (check registry wired expected).violations
      (∀ name eventType id, .missingSubscription name eventType id ∉ violations) ∧
      (∀ eventType id, .orphanedSubscription eventType id ∉ violations) ∧
      (checkRegistry registry = [] → ∀ violation ∈ violations,
        ∃ wanted actual, violation = .entryCountMismatch wanted actual) := by
  intro registry strict lenient inOrder
  have built : (∃ wired, build registry strict = .ok wired) ↔ inOrder := by
    rw [build_strict_ok_iff registry strict rfl]
    constructor
    · intro faultless
      obtain ⟨nothing, counted, _rest⟩ := (check_violations_eq_nil_iff _ _ _).mp faultless
      exact ⟨nothing, (countViolations_eq_nil_iff _ _).mp counted⟩
    · intro ⟨nothing, fits⟩
      rw [check_bus_of_nothing entries strict _ nothing]
      exact (countViolations_eq_nil_iff _ _).mpr fits
  refine ⟨built, (wired_ok_iff _ _ _ _).trans built, bus registry lenient,
    build_lenient registry lenient rfl, fun expected => ⟨?_, ?_, ?_⟩⟩
  · exact missing_not_mem_check registry lenient expected
  · exact orphaned_not_mem_check entries lenient expected
  · intro nothing violation member
    rw [check_bus_of_nothing entries lenient expected nothing] at member
    exact shape_of_mem_countViolations member

end Wiring
end WorkflowBus
