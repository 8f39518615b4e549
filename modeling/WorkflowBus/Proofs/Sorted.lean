/-
Lists in the order of a key.

A list that is in the order of a key is told by what it has of each key.  So there is one
way to bring a list into that order that leaves items of equal keys as they stand, and
`List.mergeSort` takes it.
-/

namespace WorkflowBus

variable {α κ : Type} [DecidableEq κ] {rank : κ → Nat} {key : α → κ}

def isOrdered (rank : κ → Nat) (key : α → κ) (left right : α) : Bool :=
  rank (key left) ≤ rank (key right)

omit [DecidableEq κ] in
theorem isOrdered_trans (left middle right : α) (before : isOrdered rank key left middle = true)
    (after : isOrdered rank key middle right = true) : isOrdered rank key left right = true :=
  decide_eq_true (Nat.le_trans (of_decide_eq_true before) (of_decide_eq_true after))

omit [DecidableEq κ] in
theorem isOrdered_total (left right : α) :
    (isOrdered rank key left right || isOrdered rank key right left) = true := by
  rw [Bool.or_eq_true, isOrdered, isOrdered, decide_eq_true_iff, decide_eq_true_iff]
  exact Nat.le_total _ _

omit [DecidableEq κ] in
theorem isOrdered_of_eq {left right : α} (same : key left = key right) :
    isOrdered rank key left right = true :=
  decide_eq_true (Nat.le_of_eq (congrArg rank same))

theorem mem_of_filters {first second : List α}
    (same : ∀ own, first.filter (fun item => key item = own) =
      second.filter (fun item => key item = own)) (item : α) : item ∈ first ↔ item ∈ second := by
  have filtered := congrArg (item ∈ ·) (same (key item))
  simpa only [List.mem_filter, decide_true, and_true, eq_iff_iff] using filtered

omit [DecidableEq κ] in
theorem isOrdered_head {head item : α} {rest : List α}
    (sorted : (head :: rest).Pairwise fun left right => isOrdered rank key left right = true)
    (member : item ∈ head :: rest) : isOrdered rank key head item = true := by
  rcases List.mem_cons.mp member with rfl | later
  · exact isOrdered_of_eq rfl
  · exact (List.pairwise_cons.mp sorted).1 item later

theorem eq_of_sorted (injective : ∀ left right, rank left = rank right → left = right)
    {first second : List α}
    (firstSorted : first.Pairwise fun left right => isOrdered rank key left right = true)
    (secondSorted : second.Pairwise fun left right => isOrdered rank key left right = true)
    (same : ∀ own, first.filter (fun item => key item = own) =
      second.filter (fun item => key item = own)) : first = second := by
  have members := mem_of_filters same
  induction first generalizing second with
  | nil =>
      symm
      rw [List.eq_nil_iff_forall_not_mem]
      exact fun item member => List.not_mem_nil ((members item).mpr member)
  | cons head rest ih =>
      cases second with
      | nil => exact absurd ((members head).mp List.mem_cons_self) List.not_mem_nil
      | cons other others =>
          -- Neither head comes before the other, so both have one key.
          have keys : key head = key other := by
            apply injective
            apply Nat.le_antisymm
            · exact of_decide_eq_true
                (isOrdered_head firstSorted ((members other).mpr List.mem_cons_self))
            · exact of_decide_eq_true
                (isOrdered_head secondSorted ((members head).mp List.mem_cons_self))
          have heads := same (key head)
          simp only [List.filter_cons, keys, decide_true, if_true, List.cons.injEq] at heads
          obtain ⟨rfl, tails⟩ := heads
          have sameRest (own : κ) : rest.filter (fun item => key item = own) =
              others.filter (fun item => key item = own) := by
            by_cases here : key head = own
            · exact here ▸ tails
            · have filtered := same own
              simpa only [List.filter_cons, here, decide_false, Bool.false_eq_true, if_false]
                using filtered
          rw [ih (List.pairwise_cons.mp firstSorted).2 (List.pairwise_cons.mp secondSorted).2
            sameRest (mem_of_filters sameRest)]

theorem filter_key_mergeSort (items : List α) (own : κ) :
    (items.mergeSort (isOrdered rank key)).filter (fun item => key item = own) =
      items.filter fun item => key item = own := by
  have level : (items.filter fun item => key item = own).Pairwise fun left right =>
      isOrdered rank key left right = true := by
    rw [List.pairwise_filter]
    refine List.pairwise_of_forall fun left right inLeft inRight => ?_
    exact isOrdered_of_eq ((of_decide_eq_true inLeft).trans (of_decide_eq_true inRight).symm)
  have kept := (List.sublist_mergeSort isOrdered_trans isOrdered_total level
    List.filter_sublist).filter fun item => decide (key item = own)
  rw [List.filter_filter] at kept
  simp only [Bool.and_self] at kept
  exact (kept.eq_of_length
    (((List.mergeSort_perm items _).filter _).length_eq.symm)).symm

/-- What is in the order of a key, and has of each key what a list has of it, is that list
sorted stably. -/
theorem eq_mergeSort (injective : ∀ left right, rank left = rank right → left = right)
    {sorted items : List α}
    (ascending : sorted.Pairwise fun left right => isOrdered rank key left right = true)
    (same : ∀ own, sorted.filter (fun item => key item = own) =
      items.filter (fun item => key item = own)) :
    sorted = items.mergeSort (isOrdered rank key) := by
  apply eq_of_sorted injective ascending
  · exact List.pairwise_mergeSort isOrdered_trans isOrdered_total items
  · intro own
    rw [same, filter_key_mergeSort]

theorem filter_mergeSort (injective : ∀ left right, rank left = rank right → left = right)
    (keep : α → Bool) (items : List α) :
    (items.mergeSort (isOrdered rank key)).filter keep =
      (items.filter keep).mergeSort (isOrdered rank key) := by
  apply eq_mergeSort injective
  · exact (List.pairwise_mergeSort isOrdered_trans isOrdered_total items).filter keep
  · intro own
    have exchange (list : List α) : (list.filter keep).filter (fun item => key item = own) =
        (list.filter fun item => key item = own).filter keep := by
      rw [List.filter_filter, List.filter_filter]
      exact List.filter_congr fun item _member => Bool.and_comm _ _
    rw [exchange, filter_key_mergeSort, exchange]

theorem pairwise_of_filters (injective : ∀ left right, rank left = rank right → left = right)
    {own : α → α → Prop} {items : List α}
    (sorted : items.Pairwise fun left right => isOrdered rank key left right = true)
    (level : ∀ one, (items.filter fun item => key item = one).Pairwise own) :
    items.Pairwise fun left right =>
      rank (key left) < rank (key right) ∨ key left = key right ∧ own left right := by
  induction items with
  | nil => exact List.Pairwise.nil
  | cons head rest ih =>
      obtain ⟨least, restSorted⟩ := List.pairwise_cons.mp sorted
      have restLevel (one : κ) : (rest.filter fun item => key item = one).Pairwise own :=
        (level one).sublist ((List.sublist_cons_self head rest).filter _)
      refine List.pairwise_cons.mpr ⟨?_, ih restSorted restLevel⟩
      intro item member
      rcases Nat.lt_or_eq_of_le (of_decide_eq_true (least item member)) with before | same
      · exact Or.inl before
      · refine Or.inr ⟨injective _ _ same, ?_⟩
        have here := level (key head)
        rw [List.filter_cons_of_pos (by exact decide_eq_true rfl)] at here
        exact (List.pairwise_cons.mp here).1 item
          (List.mem_filter.mpr ⟨member, decide_eq_true (injective _ _ same).symm⟩)

end WorkflowBus
