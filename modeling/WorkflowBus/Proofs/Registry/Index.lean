/-
The index of a registry.

Building a registry notes for each event type the first entry that declares it.
Looking an event type up in the index comes to the same as searching the entries
from the front, and what the index stores are the positions of those first entries.
-/

import WorkflowBus.Registry.Basic

namespace WorkflowBus

def Registry.Declares (registry : Registry) (eventType : EventType) : Prop :=
  ∃ entry ∈ registry.entries, eventType ∈ entry.eventTypes

namespace Registry

theorem lookup_claim (position : Nat) (owners : List (EventType × Nat))
    (claimed eventType : EventType) :
    (claim position owners claimed).lookup eventType =
      (owners.lookup eventType).or (if eventType = claimed then some position else none) := by
  unfold claim
  by_cases same : eventType = claimed
  · subst same
    rw [if_pos rfl]
    cases owned : owners.lookup eventType with
    | some owner => exact owned
    | none =>
        rw [if_neg nofun, List.lookup_append, owned, List.lookup_cons_self]
  · rw [if_neg same, Option.or_none]
    split
    · rfl
    · have other : (eventType == claimed) = false := beq_eq_false_iff_ne.mpr same
      rw [List.lookup_append, List.lookup_cons, other]
      exact Option.or_none

theorem lookup_foldl_claim (position : Nat) (owners : List (EventType × Nat))
    (claimed : List EventType) (eventType : EventType) :
    (claimed.foldl (claim position) owners).lookup eventType =
      (owners.lookup eventType).or (if eventType ∈ claimed then some position else none) := by
  induction claimed generalizing owners with
  | nil => exact Option.or_none.symm
  | cons head rest ih =>
      rw [List.foldl_cons, ih, lookup_claim, Option.or_assoc]
      congr 1
      by_cases here : eventType = head
      · rw [if_pos here, if_pos (List.mem_cons.mpr (Or.inl here))]
        rfl
      · rw [if_neg here, Option.none_or]
        by_cases later : eventType ∈ rest
        · rw [if_pos later, if_pos (List.mem_cons_of_mem head later)]
        · rw [if_neg later, if_neg (fun member => (List.mem_cons.mp member).elim here later)]

theorem lookup_claims (position : Nat) (owners : List (EventType × Nat)) (entries : List Entry)
    (eventType : EventType) :
    (claims position owners entries).lookup eventType =
      (owners.lookup eventType).or
        ((entries.findIdx? fun entry => decide (eventType ∈ entry.eventTypes)).map
          (position + ·)) := by
  induction entries generalizing position owners with
  | nil => exact Option.or_none.symm
  | cons entry rest ih =>
      rw [claims, ih, lookup_foldl_claim, Option.or_assoc, List.findIdx?_cons]
      congr 1
      by_cases declared : eventType ∈ entry.eventTypes
      · rw [if_pos declared, if_pos (decide_eq_true declared)]
        rfl
      · rw [if_neg declared, if_neg (by simpa using declared), Option.none_or, Option.map_map]
        congr 1
        funext offset
        simp only [Function.comp_apply]
        omega

theorem lookup_owners_ofEntries (entries : List Entry) (eventType : EventType) :
    (ofEntries entries).owners.lookup eventType =
      entries.findIdx? fun entry => decide (eventType ∈ entry.eventTypes) := by
  have indexed := lookup_claims 0 [] entries eventType
  simp only [List.lookup_nil, Option.none_or, Nat.zero_add, Option.map_id'] at indexed
  exact indexed

theorem owner?_ofEntries (entries : List Entry) (eventType : EventType) :
    (ofEntries entries).owner? eventType =
      entries.find? fun entry => decide (eventType ∈ entry.eventTypes) := by
  rw [List.find?_eq_bind_findIdx?_getElem?, ← lookup_owners_ofEntries]
  rfl

theorem mem_of_owner? {entries : List Entry} {eventType : EventType} {entry : Entry}
    (owns : (ofEntries entries).owner? eventType = some entry) :
    entry ∈ entries ∧ eventType ∈ entry.eventTypes := by
  rw [owner?_ofEntries] at owns
  have declared := List.find?_some owns
  exact ⟨List.mem_of_find?_eq_some owns, of_decide_eq_true declared⟩

theorem owner?_eq_none_iff (entries : List Entry) (eventType : EventType) :
    (ofEntries entries).owner? eventType = none ↔ ¬(ofEntries entries).Declares eventType := by
  rw [owner?_ofEntries, List.find?_eq_none]
  constructor
  · intro unowned declaring
    obtain ⟨entry, member, declared⟩ := declaring
    exact unowned entry member (decide_eq_true declared)
  · intro undeclared entry member declared
    exact undeclared ⟨entry, member, of_decide_eq_true declared⟩

/-- An entry declares an event type that none of the entries before it declares. -/
structure DeclaresFirst (before : List Entry) (entry : Entry) (eventType : EventType) : Prop where
  declared : eventType ∈ entry.eventTypes
  undeclared : ∀ other ∈ before, eventType ∉ other.eventTypes

theorem findIdx?_eq_some_iff_declaresFirst {entries : List Entry} {eventType : EventType}
    {position : Nat} :
    entries.findIdx? (fun entry => decide (eventType ∈ entry.eventTypes)) = some position ↔
      ∃ before entry after, entries = before ++ entry :: after ∧
        DeclaresFirst before entry eventType ∧ before.length = position := by
  rw [List.findIdx?_eq_some_iff_getElem]
  constructor
  · intro ⟨inside, declared, undeclared⟩
    refine ⟨entries.take position, entries[position], entries.drop (position + 1), ?_, ?_, ?_⟩
    · rw [List.getElem_cons_drop, List.take_append_drop]
    · refine ⟨of_decide_eq_true declared, fun other member => ?_⟩
      obtain ⟨earlier, before, rfl⟩ := List.mem_take_iff_getElem.mp member
      exact fun declares => undeclared earlier (by omega) (decide_eq_true declares)
    · rw [List.length_take, Nat.min_eq_left (Nat.le_of_lt inside)]
  · rintro ⟨before, entry, after, rfl, first, rfl⟩
    refine ⟨by simp, ?_, fun earlier inside => ?_⟩
    · simpa using first.declared
    · rw [List.getElem_append_left inside, decide_eq_true_eq]
      exact first.undeclared _ (List.getElem_mem inside)

theorem owner?_eq_some_iff {entries : List Entry} {eventType : EventType} {entry : Entry} :
    (ofEntries entries).owner? eventType = some entry ↔
      ∃ before after, entries = before ++ entry :: after ∧
        DeclaresFirst before entry eventType := by
  rw [owner?_ofEntries, List.find?_eq_some_iff_append]
  constructor
  · intro ⟨declared, before, after, split, undeclared⟩
    refine ⟨before, after, split, of_decide_eq_true declared, fun other member => ?_⟩
    simpa using undeclared other member
  · intro ⟨before, after, split, first⟩
    refine ⟨decide_eq_true first.declared, before, after, split, fun other member => ?_⟩
    simpa using first.undeclared other member

/-- No event type is noted a second time, so that what is noted is what is found. -/
def Settled (owners : List (EventType × Nat)) : Prop :=
  ∀ noted ∈ owners, owners.lookup noted.1 = some noted.2

theorem settled_nil : Settled [] := by
  intro noted member
  cases member

theorem Settled.claim {owners : List (EventType × Nat)} (settled : Settled owners)
    (position : Nat) (eventType : EventType) : Settled (claim position owners eventType) := by
  intro noted member
  rw [lookup_claim]
  unfold Registry.claim at member
  split at member
  · rw [settled noted member, Option.some_or]
  · next unowned =>
      rcases List.mem_append.mp member with before | new
      · rw [settled noted before, Option.some_or]
      · cases List.mem_singleton.mp new
        rw [Option.not_isSome_iff_eq_none.mp unowned, Option.none_or, if_pos rfl]

theorem Settled.foldl_claim {owners : List (EventType × Nat)} (settled : Settled owners)
    (position : Nat) (claimed : List EventType) :
    Settled (claimed.foldl (Registry.claim position) owners) := by
  induction claimed generalizing owners with
  | nil => exact settled
  | cons head rest ih => exact ih (settled.claim position head)

theorem Settled.claims {owners : List (EventType × Nat)} (settled : Settled owners)
    (position : Nat) (entries : List Entry) : Settled (claims position owners entries) := by
  induction entries generalizing position owners with
  | nil => exact settled
  | cons entry rest ih => exact ih (settled.foldl_claim position entry.eventTypes) (position + 1)

theorem Settled.mem_iff_lookup {owners : List (EventType × Nat)} (settled : Settled owners)
    {eventType : EventType} {position : Nat} :
    (eventType, position) ∈ owners ↔ owners.lookup eventType = some position := by
  refine ⟨settled (eventType, position), fun found => ?_⟩
  obtain ⟨before, after, split, _absent⟩ := List.lookup_eq_some_iff.mp found
  rw [split]
  exact List.mem_append_right before List.mem_cons_self

theorem mem_owners_iff {entries : List Entry} {eventType : EventType} {position : Nat} :
    (eventType, position) ∈ (ofEntries entries).owners ↔
      ∃ before entry after, entries = before ++ entry :: after ∧
        DeclaresFirst before entry eventType ∧ before.length = position := by
  have settled : Settled (ofEntries entries).owners := settled_nil.claims 0 entries
  rw [settled.mem_iff_lookup, lookup_owners_ofEntries, findIdx?_eq_some_iff_declaresFirst]

theorem contains_eq_isSome_owner? (entries : List Entry) (eventType : EventType) :
    (ofEntries entries).contains eventType =
      ((ofEntries entries).owner? eventType).isSome := by
  rw [contains, owner?_ofEntries, lookup_owners_ofEntries, List.isSome_find?, List.findIdx?_isSome]

/-- Looking an event type up in the index comes to searching the entries from the front,
whatever they declare.  The owner is the first entry that declares the event type; there is
none exactly if no entry declares it, and the registry contains what has an owner.  What the
index stores is the position of that first entry, which stands within the list. -/
theorem index_eq_scan (entries : List Entry) (eventType : EventType) :
    let registry := ofEntries entries
    registry.owner? eventType = entries.find? (fun entry => eventType ∈ entry.eventTypes) ∧
      (∀ entry, registry.owner? eventType = some entry ↔
        ∃ before after, entries = before ++ entry :: after ∧
          DeclaresFirst before entry eventType) ∧
      (registry.owner? eventType = none ↔ ∀ entry ∈ entries, eventType ∉ entry.eventTypes) ∧
      (registry.contains eventType = true ↔ ∃ entry, registry.owner? eventType = some entry) ∧
      (∀ position, (eventType, position) ∈ registry.owners ↔
        ∃ before entry after, entries = before ++ entry :: after ∧
          DeclaresFirst before entry eventType ∧ before.length = position) ∧
      ∀ noted ∈ registry.owners, noted.2 < registry.entries.length := by
  intro registry
  refine ⟨owner?_ofEntries entries eventType, fun entry => owner?_eq_some_iff, ?_, ?_,
    fun position => mem_owners_iff, ?_⟩
  · rw [owner?_eq_none_iff]
    exact ⟨fun undeclared entry member declared => undeclared ⟨entry, member, declared⟩,
      fun undeclared ⟨entry, member, declared⟩ => undeclared entry member declared⟩
  · rw [contains_eq_isSome_owner?]
    exact Option.isSome_iff_exists
  · intro (eventType, position) stored
    obtain ⟨before, entry, after, split, _first, rfl⟩ := mem_owners_iff.mp stored
    show before.length < entries.length
    rw [split, List.length_append, List.length_cons]
    omega

end Registry
end WorkflowBus
