/-
Owners decide who is called.

On the bus of a regular registry the handlers of an event are those that the owner of its
type calls for, in the order of the categories.
-/

import WorkflowBus.Proofs.Wiring.Publication
import WorkflowBus.Proofs.Wiring.Strict

namespace WorkflowBus

namespace Entry

def categoriesFor (entry : Entry) (eventType : EventType) : List Category :=
  Category.all.filter fun category =>
    entry.requires category && category.appliesTo eventType

theorem mem_categoriesFor (entry : Entry) (eventType : EventType) (category : Category) :
    category ∈ entry.categoriesFor eventType ↔
      entry.requires category = true ∧ category.appliesTo eventType = true := by
  have all : category ∈ Category.all := by cases category <;> decide
  rw [categoriesFor, List.mem_filter, and_iff_right all, Bool.and_eq_true]

theorem nodup_categoriesFor (entry : Entry) (eventType : EventType) :
    (entry.categoriesFor eventType).Nodup := by
  have all : Category.all.Nodup := by decide
  exact all.sublist List.filter_sublist

theorem pairs_of_declared (entry : Entry) {eventType : EventType}
    (once : entry.eventTypes.Nodup) (declared : eventType ∈ entry.eventTypes) :
    (entry.expectedSubscriptions.filter fun pair => pair.1 = eventType) =
      (entry.categoriesFor eventType).map fun category => (eventType, category) := by
  have categories (other : EventType) :
      (entry.requiredCategories.filter fun category => category.appliesTo other) =
        entry.categoriesFor other := by
    rw [requiredCategories, Obligations.toList, List.filter_filter, categoriesFor]
    congr 1
    funext category
    exact Bool.and_comm _ _
  rw [expectedSubscriptions, List.filter_flatMap,
    flatMap_of_nodup once _ declared (by
      intro other _declared different
      rw [List.filter_eq_nil_iff]
      intro pair member
      obtain ⟨_category, _calledFor, rfl⟩ := List.mem_map.mp member
      exact fun same => different (of_decide_eq_true same)),
    categories]
  rw [List.filter_eq_self]
  intro pair member
  obtain ⟨_category, _calledFor, rfl⟩ := List.mem_map.mp member
  exact decide_eq_true rfl

theorem pairs_of_undeclared (entry : Entry) {eventType : EventType}
    (undeclared : eventType ∉ entry.eventTypes) :
    (entry.expectedSubscriptions.filter fun pair => pair.1 = eventType) = [] := by
  rw [List.filter_eq_nil_iff]
  intro (other, category) member same
  have here : other = eventType := of_decide_eq_true same
  subst here
  exact undeclared ((entry.mem_expectedSubscriptions other category).mp member).1

end Entry

namespace Wiring

variable {entries : List Entry}

theorem pairs_of_owner (regular : (Registry.ofEntries entries).Regular) {eventType : EventType}
    {entry : Entry} (owned : (Registry.ofEntries entries).owner? eventType = some entry) :
    (pairs (.ofEntries entries)).filter (fun pair => pair.1 = eventType) =
      (entry.categoriesFor eventType).map fun category => (eventType, category) := by
  obtain ⟨member, declared⟩ := Registry.mem_of_owner? owned
  have once := entry.nodup_eventTypes (regular.right entry member)
  have distinct : entries.Nodup := regular.names.of_map
  have own (other : Entry) (present : other ∈ entries) (different : other ≠ entry) :
      (other.expectedSubscriptions.filter fun pair => pair.1 = eventType) = [] := by
    apply other.pairs_of_undeclared
    intro alsoDeclared
    exact different (regular.eq_of_declared present member alsoDeclared declared)
  rw [pairs, List.filter_flatMap]
  exact (flatMap_of_nodup distinct _ member own).trans (entry.pairs_of_declared once declared)

theorem pairs_of_unowned {eventType : EventType}
    (unowned : (Registry.ofEntries entries).owner? eventType = none) :
    (pairs (.ofEntries entries)).filter (fun pair => pair.1 = eventType) = [] := by
  have undeclared := (Registry.owner?_eq_none_iff entries eventType).mp unowned
  rw [pairs, List.filter_flatMap, List.flatMap_eq_nil_iff]
  intro entry member
  apply entry.pairs_of_undeclared
  exact fun declared => undeclared ⟨entry, member, declared⟩

theorem called_of_owner (regular : (Registry.ofEntries entries).Regular) {eventType : EventType}
    {entry : Entry} (owned : (Registry.ofEntries entries).owner? eventType = some entry) :
    called (.ofEntries entries) eventType = entry.categoriesFor eventType := by
  rw [called, pairs_of_owner regular owned, List.map_map]
  exact List.map_id _

theorem called_of_unowned {eventType : EventType}
    (unowned : (Registry.ofEntries entries).owner? eventType = none) :
    called (.ofEntries entries) eventType = [] :=
  List.map_eq_nil_iff.mpr (pairs_of_unowned unowned)

theorem nodup_called_of_regular (regular : (Registry.ofEntries entries).Regular)
    (eventType : EventType) : (called (.ofEntries entries) eventType).Nodup := by
  cases owned : (Registry.ofEntries entries).owner? eventType with
  | none =>
      rw [called_of_unowned owned]
      exact List.nodup_nil
  | some entry =>
      rw [called_of_owner regular owned]
      exact entry.nodup_categoriesFor eventType

theorem due_of_owner {registry : Registry} {event : Event} {entry : Entry}
    (owned : registry.owner? event.eventType = some entry) (record : AuditRecord) :
    AuditHandler.due registry event none = .ok record ↔
      entry.requires .audit = true ∧ record = AuditHandler.recordOf entry event := by
  rw [AuditHandler.due_eq_ok_iff, AuditHandler.recordFor_eq_ok_iff, and_iff_left rfl, owned]
  constructor
  · intro ⟨other, same, audited, recorded⟩
    cases same
    exact ⟨audited, recorded⟩
  · intro ⟨audited, recorded⟩
    exact ⟨entry, rfl, audited, recorded⟩

theorem recordFor_of_called (regular : (Registry.ofEntries entries).Regular) {event : Event}
    (member : .audit ∈ called (.ofEntries entries) event.eventType) :
    ∃ record, AuditHandler.recordFor (.ofEntries entries) event = .ok record := by
  cases owned : (Registry.ofEntries entries).owner? event.eventType with
  | none =>
      rw [called_of_unowned owned] at member
      cases member
  | some entry =>
      rw [called_of_owner regular owned] at member
      obtain ⟨audited, _applies⟩ := (entry.mem_categoriesFor _ _).mp member
      exact ⟨_, (AuditHandler.recordFor_eq_ok_iff _ event _).mpr ⟨entry, owned, audited, rfl⟩⟩

theorem filings_of_owner (regular : (Registry.ofEntries entries).Regular) {event : Event}
    {entry : Entry} (owned : (Registry.ofEntries entries).owner? event.eventType = some entry) :
    (called (.ofEntries entries) event.eventType).flatMap
        (filings (.ofEntries entries) event none none) =
      if entry.requires .audit then [AuditHandler.recordOf entry event] else [] := by
  rw [called_of_owner regular owned]
  by_cases audited : entry.requires .audit = true
  · have member : .audit ∈ entry.categoriesFor event.eventType :=
      (entry.mem_categoriesFor _ _).mpr ⟨audited, rfl⟩
    have due := (due_of_owner owned _).mpr ⟨audited, rfl⟩
    rw [if_pos audited, flatMap_of_nodup (entry.nodup_categoriesFor _) _ member
      fun other _called different => filings_of_ne different]
    simp only [filings, due]
    rfl
  · rw [if_neg audited, List.flatMap_eq_nil_iff]
    intro category member
    apply filings_of_ne
    rintro rfl
    exact audited ((entry.mem_categoriesFor _ _).mp member).1

theorem count_logging_of_owner (regular : (Registry.ofEntries entries).Regular)
    {eventType : EventType} {entry : Entry}
    (owned : (Registry.ofEntries entries).owner? eventType = some entry) :
    (called (.ofEntries entries) eventType).count .logging =
      if entry.requires .logging then 1 else 0 := by
  rw [called_of_owner regular owned]
  by_cases logged : entry.requires .logging = true
  · rw [if_pos logged]
    exact List.count_eq_one_of_mem (entry.nodup_categoriesFor _)
      ((entry.mem_categoriesFor _ _).mpr ⟨logged, rfl⟩)
  · rw [if_neg logged, List.count_eq_zero]
    exact fun member => logged ((entry.mem_categoriesFor _ _).mp member).1

end Wiring
end WorkflowBus
