/-
Members that agree but for the value of one key.

Sorting keeps the agreement, and the keys are the same; so once the members of that key
are left out, the two lists are equal.
-/

import Mathlib.Data.List.Forall2
import WorkflowBus.Json.Basic

namespace WorkflowBus
namespace Json

variable {α : Type} {secret : String}

/-- An object without the members of a key; a value of another kind stays as it is. -/
def without (key : String) : Json → Json
  | .obj members => .obj (eraseKey key members)
  | other => other

/-- The keys are the same, and so are the values unless the key is the given one. -/
structure SameExcept (secret : String) (left right : String × α) : Prop where
  key : left.1 = right.1
  value : left.1 ≠ secret → left.2 = right.2

theorem SameExcept.refl (member : String × α) : SameExcept secret member member :=
  ⟨rfl, fun _ => rfl⟩

theorem insertMember_cons (key : String) (value : α) (head : String × α)
    (rest : List (String × α)) :
    insertMember key value (head :: rest) =
      if key = head.1 then (key, value) :: rest
      else if key < head.1 then (key, value) :: head :: rest
      else head :: insertMember key value rest :=
  rfl

theorem insertMember_sameExcept {left right : List (String × α)} {member other : String × α}
    (same : List.Forall₂ (SameExcept secret) left right)
    (inserted : SameExcept secret member other) :
    List.Forall₂ (SameExcept secret) (insertMember member.1 member.2 left)
      (insertMember other.1 other.2 right) := by
  induction same with
  | nil => exact .cons inserted .nil
  | cons head rest ih =>
      rw [← inserted.key] at ih
      rw [insertMember_cons, insertMember_cons, ← inserted.key, ← head.key]
      split
      · exact .cons ⟨rfl, inserted.value⟩ rest
      · split
        · exact .cons ⟨rfl, inserted.value⟩ (.cons head rest)
        · exact .cons head ih

theorem sortedMembers_sameExcept {left right : List (String × α)}
    (same : List.Forall₂ (SameExcept secret) left right) :
    List.Forall₂ (SameExcept secret) (sortedMembers left) (sortedMembers right) := by
  have inserted (leftSorted rightSorted : List (String × α))
      (sorted : List.Forall₂ (SameExcept secret) leftSorted rightSorted) :
      List.Forall₂ (SameExcept secret)
        (left.foldl (fun sorted member => insertMember member.1 member.2 sorted) leftSorted)
        (right.foldl (fun sorted member => insertMember member.1 member.2 sorted)
          rightSorted) := by
    induction same generalizing leftSorted rightSorted with
    | nil => exact sorted
    | cons head rest ih => exact ih _ _ (insertMember_sameExcept sorted head)
  exact inserted [] [] .nil

theorem keys_of_sameExcept {left right : List (String × α)}
    (same : List.Forall₂ (SameExcept secret) left right) :
    left.map Prod.fst = right.map Prod.fst := by
  induction same with
  | nil => rfl
  | cons head rest ih => rw [List.map_cons, List.map_cons, head.key, ih]

theorem eraseKey_of_sameExcept {left right : List (String × α)}
    (same : List.Forall₂ (SameExcept secret) left right) :
    eraseKey secret left = eraseKey secret right := by
  unfold eraseKey
  induction same with
  | nil => rfl
  | @cons member other leftRest rightRest head rest ih =>
      rw [List.filter_cons, List.filter_cons, ← head.key, ih]
      by_cases hidden : member.1 = secret
      · rw [hidden, if_neg (by simp), if_neg (by simp)]
      · rw [Prod.ext head.key (head.value hidden)]

end Json
end WorkflowBus
