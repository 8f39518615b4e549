/-
Members sorted by key.

Sorting brings the keys into ascending order and keeps each of them once, with the last of
its values.  Members whose keys ascend are left as they are, and members with distinct keys
are all kept.
-/

import Mathlib.Data.String.Basic
import WorkflowBus.Proofs.Json.Members
import WorkflowBus.Lookup

namespace WorkflowBus
namespace Json

variable {α : Type}

theorem lookup_insertMember (key other : String) (value : α) (members : List (String × α)) :
    (insertMember key value members).lookup other =
      if other = key then some value else members.lookup other := by
  induction members with
  | nil => exact lookup_cons key other value []
  | cons head rest ih =>
      obtain ⟨headKey, headValue⟩ := head
      rw [insertMember]
      by_cases replaced : key = headKey
      · rw [if_pos replaced, lookup_cons]
        subst replaced
        by_cases same : other = key
        · rw [if_pos same, if_pos same]
        · rw [if_neg same, if_neg same, lookup_cons_of_ne same]
      · rw [if_neg replaced]
        by_cases before : key < headKey
        · rw [if_pos before, lookup_cons]
        · rw [if_neg before, lookup_cons, lookup_cons, ih]
          by_cases same : other = headKey
          · have different : ¬other = key := fun equal => replaced (equal.symm.trans same)
            rw [if_neg different, if_neg different]
          · rw [if_neg same, if_neg same]

def Ascending (members : List (String × α)) : Prop :=
  members.Pairwise fun left right => left.1 < right.1

theorem forall_mem_insertMember {holds : String × α → Prop} {key : String} {value : α}
    {members : List (String × α)} (new : holds (key, value))
    (old : ∀ member ∈ members, holds member) :
    ∀ member ∈ insertMember key value members, holds member := by
  induction members with
  | nil => exact List.forall_mem_cons.mpr ⟨new, nofun⟩
  | cons head rest ih =>
      obtain ⟨first, others⟩ := List.forall_mem_cons.mp old
      rw [insertMember_cons]
      split
      · exact List.forall_mem_cons.mpr ⟨new, others⟩
      · split
        · exact List.forall_mem_cons.mpr ⟨new, old⟩
        · exact List.forall_mem_cons.mpr ⟨first, ih others⟩

theorem forall_mem_sortedMembers {holds : String × α → Prop} {members : List (String × α)}
    (each : ∀ member ∈ members, holds member) : ∀ member ∈ sortedMembers members, holds member := by
  have inserted (sorted : List (String × α)) (kept : ∀ member ∈ sorted, holds member) :
      ∀ member ∈ members.foldl (fun sorted member => insertMember member.1 member.2 sorted) sorted,
        holds member := by
    induction members generalizing sorted with
    | nil => exact kept
    | cons head rest ih =>
        obtain ⟨first, others⟩ := List.forall_mem_cons.mp each
        exact ih others _ (forall_mem_insertMember first kept)
  exact inserted [] nofun

theorem Ascending.insertMember {members : List (String × α)} (ascending : Ascending members)
    (key : String) (value : α) : Ascending (insertMember key value members) := by
  induction members with
  | nil => exact List.pairwise_singleton _ _
  | cons head rest ih =>
      obtain ⟨first, others⟩ := List.pairwise_cons.mp ascending
      rw [insertMember_cons]
      split
      case isTrue replaced =>
        rw [← replaced] at first
        exact List.pairwise_cons.mpr ⟨first, others⟩
      case isFalse different =>
        split
        case isTrue before =>
          refine List.pairwise_cons.mpr ⟨?_, ascending⟩
          exact List.forall_mem_cons.mpr
            ⟨before, fun member present => lt_trans before (first member present)⟩
        case isFalse notBefore =>
          have behind : head.1 < key := lt_of_le_of_ne (not_lt.mp notBefore) (Ne.symm different)
          exact List.pairwise_cons.mpr ⟨forall_mem_insertMember behind first, ih others⟩

theorem ascending_sortedMembers (members : List (String × α)) :
    Ascending (sortedMembers members) := by
  have inserted (sorted : List (String × α)) (ascending : Ascending sorted) :
      Ascending (members.foldl (fun sorted member => insertMember member.1 member.2 sorted)
        sorted) := by
    induction members generalizing sorted with
    | nil => exact ascending
    | cons head rest ih => exact ih _ (ascending.insertMember head.1 head.2)
  exact inserted [] List.Pairwise.nil

theorem insertMember_of_forall_lt {key : String} {value : α} {members : List (String × α)}
    (before : ∀ member ∈ members, member.1 < key) :
    insertMember key value members = members ++ [(key, value)] := by
  induction members with
  | nil => rfl
  | cons head rest ih =>
      obtain ⟨first, others⟩ := List.forall_mem_cons.mp before
      rw [insertMember_cons, if_neg (ne_of_gt first), if_neg (lt_asymm first), ih others]
      rfl

theorem sortedMembers_of_ascending {members : List (String × α)} (ascending : Ascending members) :
    sortedMembers members = members := by
  have inserted (front : List (String × α)) (whole : Ascending (front ++ members)) :
      members.foldl (fun sorted member => insertMember member.1 member.2 sorted) front =
        front ++ members := by
    induction members generalizing front with
    | nil => exact (List.append_nil front).symm
    | cons head rest ih =>
        have before : ∀ member ∈ front, member.1 < head.1 := by
          intro member present
          exact (List.pairwise_append.mp whole).2.2 member present head List.mem_cons_self
        rw [List.append_cons] at whole ⊢
        rw [List.foldl_cons, insertMember_of_forall_lt before]
        exact ih (List.pairwise_cons.mp ascending).2 _ whole
  exact inserted [] ascending

theorem insertMember_perm {key : String} (value : α) {members : List (String × α)}
    (fresh : key ∉ members.map Prod.fst) :
    (insertMember key value members).Perm ((key, value) :: members) := by
  induction members with
  | nil => exact .refl _
  | cons head rest ih =>
      rw [List.map_cons, List.mem_cons, not_or] at fresh
      obtain ⟨different, freshBelow⟩ := fresh
      rw [insertMember_cons, if_neg different]
      split
      · exact .refl _
      · exact ((ih freshBelow).cons head).trans (.swap _ _ _)

/-- Where no key is repeated, sorting brings the members into another order and leaves none
out. -/
theorem sortedMembers_perm {members : List (String × α)}
    (distinct : (members.map Prod.fst).Nodup) : (sortedMembers members).Perm members := by
  have inserted (sorted : List (String × α))
      (apart : ((members ++ sorted).map Prod.fst).Nodup) :
      (members.foldl (fun sorted member => insertMember member.1 member.2 sorted) sorted).Perm
        (members ++ sorted) := by
    induction members generalizing sorted with
    | nil => exact .refl _
    | cons head rest ih =>
        have fresh : head.1 ∉ sorted.map Prod.fst := by
          rw [List.cons_append, List.map_cons, List.map_append, List.nodup_cons] at apart
          exact fun member => apart.1 (List.mem_append_right _ member)
        have moved : (rest ++ insertMember head.1 head.2 sorted).Perm (head :: rest ++ sorted) :=
          ((insertMember_perm head.2 fresh).append_left rest).trans List.perm_middle
        exact (ih (List.nodup_cons.mp distinct).2 _
          ((moved.map Prod.fst).nodup_iff.mpr apart)).trans moved
  have all := inserted [] (by rwa [List.append_nil])
  rwa [List.append_nil] at all

theorem lookup_sortedMembers {members : List (String × α)}
    (distinct : (members.map Prod.fst).Nodup) (key : String) :
    (sortedMembers members).lookup key = members.lookup key :=
  (lookup_eq_of_perm (sortedMembers_perm distinct).symm distinct key).symm

/-- Of repeated members the last one stays. -/
theorem lookup_sortedMembers_eq_reverse (members : List (String × α)) (key : String) :
    (sortedMembers members).lookup key = members.reverse.lookup key := by
  have inserted (sorted : List (String × α)) :
      (members.foldl (fun sorted member => insertMember member.1 member.2 sorted) sorted).lookup
        key = (members.reverse.lookup key).or (sorted.lookup key) := by
    induction members generalizing sorted with
    | nil => exact (Option.none_or).symm
    | cons head rest ih =>
        rw [List.foldl_cons, ih, lookup_insertMember, List.reverse_cons, List.lookup_append,
          Option.or_assoc, ← Prod.mk.eta (p := head), lookup_cons]
        split <;> rfl
  exact (inserted []).trans Option.or_none

end Json
end WorkflowBus
