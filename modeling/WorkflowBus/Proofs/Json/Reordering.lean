/-
Values in whose objects the members stand in another order.

Under each key a reordered object has what the object has, reordered in turn.  So a reader
that goes by keys, and takes nothing from lists and objects where it looks for a plain value,
does not tell a value from a reordered one.
-/

import Mathlib.Data.List.Forall2
import WorkflowBus.Proofs.Json.Arrangement

namespace WorkflowBus
namespace Json

section

variable {α : Type} {key name : String}

theorem lookup_replaced_of_ne (different : name ≠ key) (old new : α)
    (front back : List (String × α)) :
    (front ++ (key, old) :: back).lookup name = (front ++ (key, new) :: back).lookup name := by
  rw [List.lookup_append, List.lookup_append, lookup_cons_of_ne different,
    lookup_cons_of_ne different]

theorem lookup_replaced (key : String) (old new : α) (front back : List (String × α)) :
    (front ++ (key, old) :: back).lookup key = (front ++ (key, new) :: back).lookup key ∨
      (front ++ (key, old) :: back).lookup key = some old ∧
        (front ++ (key, new) :: back).lookup key = some new := by
  rw [List.lookup_append, List.lookup_append, List.lookup_cons_self, List.lookup_cons_self]
  cases front.lookup key with
  | none => exact Or.inr ⟨rfl, rfl⟩
  | some value => exact Or.inl rfl

theorem required?_replaced {read? : Json → Option α} {old new : Json}
    (same : read? old = read? new) (key : String) (front back : List (String × Json)) :
    required? read? ((front ++ (key, old) :: back).lookup key) =
      required? read? ((front ++ (key, new) :: back).lookup key) := by
  rcases lookup_replaced key old new front back with equal | ⟨was, is⟩
  · rw [equal]
  · rw [was, is]
    exact same

theorem lookup_widened_of_ne (different : name ≠ key) (value : α)
    (front back : List (String × α)) :
    (front ++ (key, value) :: back).lookup name = (front ++ back).lookup name := by
  rw [List.lookup_append, List.lookup_append, lookup_cons_of_ne different]

end

/-- The members of objects, at any level, stand in another order. -/
inductive Reordered : Json → Json → Prop where
  | refl (json : Json) : Reordered json json
  | trans {left middle right : Json} (first : Reordered left middle)
      (second : Reordered middle right) : Reordered left right
  | members {left right : List (String × Json)} (order : left.Perm right)
      (distinct : (left.map Prod.fst).Nodup) : Reordered (.obj left) (.obj right)
  | member {left right : Json} (inner : Reordered left right) (key : String)
      (front back : List (String × Json)) :
      Reordered (.obj (front ++ (key, left) :: back)) (.obj (front ++ (key, right) :: back))
  | item {left right : Json} (inner : Reordered left right) (front back : List Json) :
      Reordered (.arr (front ++ left :: back)) (.arr (front ++ right :: back))

namespace Reordered

theorem rel_refl : (value : Option Json) → Option.Rel Reordered value value
  | none => .none
  | some json => .some (refl json)

theorem rel_trans {left middle right : Option Json} (first : Option.Rel Reordered left middle)
    (second : Option.Rel Reordered middle right) : Option.Rel Reordered left right := by
  cases first with
  | none => exact second
  | some first =>
      cases second with
      | some second => exact .some (first.trans second)

theorem items_refl (items : List Json) : List.Forall₂ Reordered items items :=
  List.forall₂_same.mpr fun item _ => refl item

theorem items_trans {left middle right : List Json} (first : List.Forall₂ Reordered left middle)
    (second : List.Forall₂ Reordered middle right) : List.Forall₂ Reordered left right := by
  induction first generalizing right with
  | nil => exact second
  | cons head _ ih =>
      cases second with
      | cons next rest => exact .cons (head.trans next) (ih rest)

theorem eq_of_isScalar {left right : Json} (same : Reordered left right)
    (scalar : left.isScalar = true) : right = left := by
  induction same with
  | refl => rfl
  | trans _ _ ihFirst ihSecond =>
      have first := ihFirst scalar
      exact (ihSecond (first ▸ scalar)).trans first
  | members | member | item => cases scalar

theorem of_arr {left : List Json} {other : Json} (same : Reordered (.arr left) other) :
    ∃ right, other = .arr right ∧ List.Forall₂ Reordered left right := by
  generalize whole : Json.arr left = json at same
  induction same generalizing left with
  | refl => exact ⟨left, whole.symm, items_refl left⟩
  | trans _ _ ihFirst ihSecond =>
      obtain ⟨middle, rfl, first⟩ := ihFirst whole
      obtain ⟨right, rfl, second⟩ := ihSecond rfl
      exact ⟨right, rfl, items_trans first second⟩
  | members | member => cases whole
  | item inner front back =>
      cases whole
      exact ⟨_, rfl, List.rel_append (items_refl front) (.cons inner (items_refl back))⟩

theorem of_obj {left : List (String × Json)} {other : Json} (same : Reordered (.obj left) other) :
    ∃ right, other = .obj right ∧ left.length = right.length ∧
      ∀ key, Option.Rel Reordered (left.lookup key) (right.lookup key) := by
  generalize whole : Json.obj left = json at same
  induction same generalizing left with
  | refl => exact ⟨left, whole.symm, rfl, fun key => rel_refl _⟩
  | trans _ _ ihFirst ihSecond =>
      obtain ⟨middle, rfl, firstLength, first⟩ := ihFirst whole
      obtain ⟨right, rfl, secondLength, second⟩ := ihSecond rfl
      exact ⟨right, rfl, firstLength.trans secondLength,
        fun key => rel_trans (first key) (second key)⟩
  | members order distinct =>
      cases whole
      refine ⟨_, rfl, order.length_eq, fun key => ?_⟩
      rw [lookup_eq_of_perm order distinct]
      exact rel_refl _
  | @member old new inner key front back =>
      cases whole
      refine ⟨_, rfl, ?_, fun name => ?_⟩
      · rw [List.length_append, List.length_append, List.length_cons, List.length_cons]
      · by_cases here : name = key
        · rw [here]
          rcases lookup_replaced key old new front back with same | ⟨was, is⟩
          · rw [same]
            exact rel_refl _
          · rw [was, is]
            exact .some inner
        · rw [lookup_replaced_of_ne here old new front back]
          exact rel_refl _
  | item => cases whole

end Reordered

/-! ### Readers of plain values -/

/-- Nothing is read from null, from a list and from an object. -/
structure ReadsPlain {α : Type} (read? : Json → Option α) : Prop where
  null : read? .null = none
  arr : ∀ items, read? (.arr items) = none
  obj : ∀ members, read? (.obj members) = none

/-- What a field tells a reader of plain values.  Null tells what a field that is missing
tells, and any list and any object tell the same. -/
def told? : Option Json → Option Json
  | some .null => none
  | some (.arr _) | some (.obj _) => some (.arr [])
  | value => value

theorem ReadsPlain.required?_told {α : Type} {read? : Json → Option α} (plain : ReadsPlain read?)
    (value : Option Json) : required? read? (told? value) = required? read? value := by
  cases value with
  | none => rfl
  | some json =>
      cases json with
      | null => exact plain.null.symm
      | arr items => exact (plain.arr []).trans (plain.arr items).symm
      | obj members => exact (plain.arr []).trans (plain.obj members).symm
      | _ => rfl

theorem ReadsPlain.optional?_told {α : Type} {read? : Json → Option α} (plain : ReadsPlain read?)
    (value : Option Json) : optional? read? (told? value) = optional? read? value := by
  cases value with
  | none => rfl
  | some json =>
      cases json with
      | arr items =>
          show (read? (.arr [])).map some = (read? (.arr items)).map some
          rw [plain.arr, plain.arr]
      | obj members =>
          show (read? (.arr [])).map some = (read? (.obj members)).map some
          rw [plain.arr, plain.obj]
      | _ => rfl

theorem told?_eq_of_rel {left right : Option Json} (same : Option.Rel Reordered left right) :
    told? left = told? right := by
  cases same with
  | none => rfl
  | @some json other same =>
      cases json with
      | arr items =>
          obtain ⟨_, rfl, _⟩ := same.of_arr
          rfl
      | obj members =>
          obtain ⟨_, rfl, _⟩ := same.of_obj
          rfl
      | _ => rw [same.eq_of_isScalar rfl]

theorem required?_eq_of_rel {α : Type} {read? : Json → Option α}
    (unread : ∀ {left right : Json}, Reordered left right → read? left = read? right)
    {left right : Option Json} (same : Option.Rel Reordered left right) :
    required? read? left = required? read? right := by
  cases same with
  | none => rfl
  | some same => exact unread same

theorem ReadsPlain.eq_of_rel {α : Type} {read? : Json → Option α} (plain : ReadsPlain read?)
    {left right : Option Json} (same : Option.Rel Reordered left right) :
    required? read? left = required? read? right := by
  rw [← plain.required?_told, told?_eq_of_rel same, plain.required?_told]

theorem name?_cons_cons (first second : String × Json) (rest : List (String × Json)) :
    (obj (first :: second :: rest)).name? = none := by
  obtain ⟨key, value⟩ := first
  cases value <;> rfl

theorem name?_eq_of_reordered {left right : Json} (same : Reordered left right) :
    left.name? = right.name? := by
  cases left with
  | arr items =>
      obtain ⟨_, rfl, _⟩ := same.of_arr
      rfl
  | obj members =>
      obtain ⟨others, rfl, length, found⟩ := same.of_obj
      match members, others, length with
      | [], [], _ => rfl
      | [(key, value)], [(otherKey, other)], _ =>
          have rel := found key
          rw [List.lookup_cons_self, lookup_cons] at rel
          split at rel
          case isTrue here =>
            cases rel with
            | some inner =>
                rw [here]
                cases value with
                | arr items =>
                    obtain ⟨_, rfl, _⟩ := inner.of_arr
                    rfl
                | obj members =>
                    obtain ⟨_, rfl, _⟩ := inner.of_obj
                    rfl
                | _ => rw [inner.eq_of_isScalar rfl]
          case isFalse => cases rel
      | _ :: _ :: _, _ :: _ :: _, _ => rw [name?_cons_cons, name?_cons_cons]
  | _ => rw [same.eq_of_isScalar rfl]

theorem fields?_rel_of_items {left right : List Json} (each : List.Forall₂ Reordered left right)
    (names : List String) :
    Option.Rel (List.Forall₂ (Option.Rel Reordered)) ((arr left).fields? names)
      ((arr right).fields? names) := by
  rw [fields?, fields?, each.length_eq]
  split
  · refine .some (List.forall₂_map_left_iff.mpr (List.forall₂_map_right_iff.mpr ?_))
    exact each.imp fun _ _ => .some
  · exact .none

theorem fields?_rel {left right : Json} (same : Reordered left right) (names : List String) :
    Option.Rel (List.Forall₂ (Option.Rel Reordered)) (left.fields? names)
      (right.fields? names) := by
  cases left with
  | arr items =>
      obtain ⟨others, rfl, each⟩ := same.of_arr
      exact fields?_rel_of_items each names
  | obj members =>
      obtain ⟨others, rfl, _, found⟩ := same.of_obj
      refine .some (List.forall₂_map_left_iff.mpr (List.forall₂_map_right_iff.mpr ?_))
      exact List.forall₂_same.mpr fun name _ => found name
  | _ =>
      rw [same.eq_of_isScalar rfl]
      exact .none

end Json
end WorkflowBus
