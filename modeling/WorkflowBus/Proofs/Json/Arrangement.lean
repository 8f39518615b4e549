/-
Values whose objects have all been sorted, and how deep a value is.

A reader sorts the members of every object that it finds, so what it hands back is the
arranged form of what was written.  It is the value itself where the keys of every object
ascend.  The fields of a record are found in the arranged form as in the record itself.
-/

import Mathlib.Algebra.Group.Int.Defs
import WorkflowBus.Json.Reading
import WorkflowBus.Proofs.Json.Sorting

namespace WorkflowBus
namespace Json

mutual

/-- The value with the members of every object in it sorted by key. -/
def arranged : Json → Json
  | .null => .null
  | .bool value => .bool value
  | .int value => .int value
  | .float value => .float value
  | .str value => .str value
  | .arr items => .arr (arrangedItems items)
  | .obj members => .ofMembers (arrangedMembers members)

def arrangedItems : List Json → List Json
  | [] => []
  | item :: rest => item.arranged :: arrangedItems rest

def arrangedMembers : List (String × Json) → List (String × Json)
  | [] => []
  | (key, value) :: rest => (key, value.arranged) :: arrangedMembers rest

end

def arrangedMember (member : String × Json) : String × Json :=
  (member.1, member.2.arranged)

theorem arrangedItems_eq_map (items : List Json) : arrangedItems items = items.map arranged := by
  induction items with
  | nil => rfl
  | cons item rest ih => rw [arrangedItems, ih, List.map_cons]

theorem arrangedMembers_eq_map (members : List (String × Json)) :
    arrangedMembers members = members.map arrangedMember := by
  induction members with
  | nil => rfl
  | cons member rest ih =>
      rw [arrangedMembers, ih, List.map_cons]
      rfl

theorem arranged_arr (items : List Json) : (arr items).arranged = .arr (items.map arranged) := by
  rw [arranged, arrangedItems_eq_map]

theorem arranged_obj (members : List (String × Json)) :
    (obj members).arranged = .ofMembers (members.map arrangedMember) := by
  rw [arranged, arrangedMembers_eq_map]

theorem map_arrangedMember_of {members : List (String × Json)}
    (each : ∀ member ∈ members, member.2.arranged = member.2) :
    members.map arrangedMember = members := by
  have kept : ∀ member ∈ members, arrangedMember member = id member :=
    fun member present => Prod.ext rfl (each member present)
  rw [List.map_congr_left kept, List.map_id]

theorem arranged_obj_of_ascending {members : List (String × Json)} (ascending : Ascending members)
    (each : ∀ member ∈ members, member.2.arranged = member.2) :
    (obj members).arranged = .obj members := by
  rw [arranged_obj, map_arrangedMember_of each, ofMembers, sortedMembers_of_ascending ascending]

def isScalar : Json → Bool
  | .arr _ | .obj _ => false
  | _ => true

theorem arranged_of_isScalar {json : Json} (scalar : json.isScalar = true) :
    json.arranged = json := by
  cases json with
  | arr items => cases scalar
  | obj members => cases scalar
  | _ => rfl

/-- Values without parts that are read back from their texts. -/
def isPlain : Json → Bool
  | .int value => decide (-2 ^ 63 ≤ value ∧ value < 2 ^ 64)
  | .float _ | .arr _ | .obj _ => false
  | _ => true

theorem isScalar_of_isPlain {json : Json} (plain : json.isPlain = true) :
    json.isScalar = true := by
  cases json with
  | arr items => cases plain
  | obj members => cases plain
  | _ => rfl

theorem keys_map_arrangedMember (members : List (String × Json)) :
    (members.map arrangedMember).map Prod.fst = members.map Prod.fst := by
  rw [List.map_map]
  rfl

theorem lookup_map_arrangedMember (members : List (String × Json)) (key : String) :
    (members.map arrangedMember).lookup key = (members.lookup key).map arranged :=
  lookup_mapValues arranged members key

theorem lookup_arranged {members : List (String × Json)}
    (distinct : (members.map Prod.fst).Nodup) (key : String) :
    (sortedMembers (members.map arrangedMember)).lookup key =
      (members.lookup key).map arranged := by
  rw [lookup_sortedMembers, lookup_map_arrangedMember]
  rw [keys_map_arrangedMember]
  exact distinct

theorem fields?_arranged {members : List (String × Json)}
    (distinct : (members.map Prod.fst).Nodup) (names : List String) :
    (obj members).arranged.fields? names =
      some (names.map fun name => (members.lookup name).map arranged) := by
  rw [arranged_obj, ofMembers, fields?]
  simp only [lookup_arranged distinct]

theorem fields?_arranged_of {members : List (String × Json)}
    (distinct : (members.map Prod.fst).Nodup)
    (each : ∀ member ∈ members, member.2.arranged = member.2) (names : List String) :
    (obj members).arranged.fields? names = (obj members).fields? names := by
  rw [arranged_obj, map_arrangedMember_of each, ofMembers, fields?, fields?]
  simp only [lookup_sortedMembers distinct]

mutual

/-- How deep lists and objects stand in each other. -/
def levels : Json → Nat
  | .arr items => levelsOfItems items + 1
  | .obj members => levelsOfMembers members + 1
  | _ => 0

def levelsOfItems : List Json → Nat
  | [] => 0
  | item :: rest => max item.levels (levelsOfItems rest)

def levelsOfMembers : List (String × Json) → Nat
  | [] => 0
  | (_, value) :: rest => max value.levels (levelsOfMembers rest)

end

theorem levelsOfItems_le_iff {items : List Json} {most : Nat} :
    levelsOfItems items ≤ most ↔ ∀ item ∈ items, item.levels ≤ most := by
  induction items with
  | nil => simp [levelsOfItems]
  | cons item rest ih => rw [levelsOfItems, max_le_iff, ih, List.forall_mem_cons]

theorem levelsOfMembers_le_iff {members : List (String × Json)} {most : Nat} :
    levelsOfMembers members ≤ most ↔ ∀ member ∈ members, member.2.levels ≤ most := by
  induction members with
  | nil => simp [levelsOfMembers]
  | cons member rest ih => rw [levelsOfMembers, max_le_iff, ih, List.forall_mem_cons]

theorem levels_of_isScalar {json : Json} (scalar : json.isScalar = true) : json.levels = 0 := by
  cases json with
  | arr items => cases scalar
  | obj members => cases scalar
  | _ => rfl

end Json
end WorkflowBus
