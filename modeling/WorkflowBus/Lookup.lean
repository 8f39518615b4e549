/-
Lists of pairs that are looked up by their first component.

Where the keys are distinct, the pairs and what is found under a key tell the same, and their
order does not matter.
-/

namespace WorkflowBus

variable {κ α : Type} [DecidableEq κ] {key : κ} {pairs : List (κ × α)}

theorem lookup_eq_none_iff_not_mem : pairs.lookup key = none ↔ key ∉ pairs.map Prod.fst := by
  rw [List.lookup_eq_none_iff, List.mem_map]
  constructor
  · rintro absent ⟨pair, member, rfl⟩
    exact bne_iff_ne.mp (absent pair member) rfl
  · intro absent pair member
    exact bne_iff_ne.mpr fun same => absent ⟨pair, member, same.symm⟩

theorem lookup_of_not_mem (absent : key ∉ pairs.map Prod.fst) : pairs.lookup key = none :=
  lookup_eq_none_iff_not_mem.mpr absent

theorem lookup_cons_of_ne {other : κ} (different : key ≠ other) (value : α)
    (pairs : List (κ × α)) : ((other, value) :: pairs).lookup key = pairs.lookup key := by
  rw [List.lookup_cons, beq_eq_false_iff_ne.mpr different]

theorem lookup_cons (key other : κ) (value : α) (pairs : List (κ × α)) :
    ((key, value) :: pairs).lookup other =
      if other = key then some value else pairs.lookup other := by
  by_cases same : other = key
  · rw [if_pos same, same]
    exact List.lookup_cons_self
  · rw [if_neg same, lookup_cons_of_ne same]

/-- Where no key is repeated, every pair is found. -/
theorem mem_iff_lookup (distinct : (pairs.map Prod.fst).Nodup) {value : α} :
    (key, value) ∈ pairs ↔ pairs.lookup key = some value := by
  induction pairs with
  | nil => exact iff_of_false List.not_mem_nil nofun
  | cons head rest ih =>
      obtain ⟨other, stored⟩ := head
      obtain ⟨fresh, restDistinct⟩ := List.nodup_cons.mp distinct
      rw [List.mem_cons, lookup_cons, ih restDistinct]
      by_cases here : key = other
      · subst here
        have absent : rest.lookup key = none := lookup_of_not_mem fresh
        simp only [absent, if_true, reduceCtorEq, or_false, Prod.mk.injEq, true_and,
          Option.some.injEq, eq_comm]
      · simp only [Prod.mk.injEq, here, false_and, false_or, if_false]

theorem lookup_mapValues {β : Type} (change : α → β) (pairs : List (κ × α)) (key : κ) :
    (pairs.map fun (name, value) => (name, change value)).lookup key =
      (pairs.lookup key).map change := by
  induction pairs with
  | nil => rfl
  | cons head rest ih =>
      obtain ⟨name, value⟩ := head
      rw [List.map_cons, lookup_cons, lookup_cons, ih]
      split <;> rfl

theorem lookup_eq_of_perm {left right : List (κ × α)} (order : left.Perm right)
    (distinct : (left.map Prod.fst).Nodup) (key : κ) : left.lookup key = right.lookup key := by
  induction order with
  | nil => rfl
  | cons member _ ih =>
      obtain ⟨name, value⟩ := member
      rw [lookup_cons, lookup_cons, ih (List.nodup_cons.mp distinct).2]
  | swap first second rest =>
      obtain ⟨name, value⟩ := first
      obtain ⟨other, otherValue⟩ := second
      have apart : other ≠ name := by
        intro same
        exact (List.nodup_cons.mp distinct).1 (same ▸ List.mem_cons_self)
      simp only [lookup_cons]
      by_cases here : key = other
      · rw [if_pos here, if_neg (here ▸ apart), if_pos here]
      · rw [if_neg here, if_neg here]
  | trans first _ ihFirst ihSecond =>
      rw [ihFirst distinct, ihSecond ((first.map Prod.fst).nodup_iff.mp distinct)]

theorem lookup_filter_ne (pairs : List (κ × α)) (key other : κ) :
    (pairs.filter fun pair => pair.1 ≠ key).lookup other =
      if other = key then none else pairs.lookup other := by
  induction pairs with
  | nil => exact (ite_self none).symm
  | cons pair rest ih =>
      obtain ⟨name, value⟩ := pair
      rw [List.filter_cons, lookup_cons]
      by_cases erased : name = key
      · rw [if_neg (by simpa using erased), ih, ← erased]
        by_cases here : other = name
        · rw [if_pos here, if_pos here]
        · rw [if_neg here, if_neg here, if_neg here]
      · rw [if_pos (by simpa using erased), lookup_cons, ih]
        by_cases here : other = name
        · rw [if_pos here, if_neg (here ▸ erased), if_pos here]
        · rw [if_neg here, if_neg here]

theorem lookup_map_at (pairs : List (κ × α)) (key other : κ) (change : α → α) :
    (pairs.map fun pair => (pair.1, if pair.1 = key then change pair.2 else pair.2)).lookup other =
      if other = key then (pairs.lookup other).map change else pairs.lookup other := by
  induction pairs with
  | nil => exact (ite_self none).symm
  | cons pair rest ih =>
      obtain ⟨name, value⟩ := pair
      rw [List.map_cons, lookup_cons, lookup_cons, ih]
      by_cases here : other = name
      · subst here
        by_cases changed : other = key
        · rw [if_pos rfl, if_pos changed, if_pos rfl, if_pos changed]
          rfl
        · rw [if_pos rfl, if_neg changed, if_pos rfl, if_neg changed]
      · rw [if_neg here, if_neg here]

end WorkflowBus
