/-
Records and the objects of their fields.

Under a key a record tells the value that was attached first, and the object of its fields
shows the one that was attached last.  A record in which no key is repeated is shown in
full: the members of the object are its fields, and they are read back from the text.
-/

import WorkflowBus.Log
import WorkflowBus.Proofs.Json.Parsing

namespace WorkflowBus
namespace LogRecord

def ofFields (level : LogLevel) (message : String) (fields : List (String × String)) :
    LogRecord :=
  fields.foldl (fun record (key, value) => record.field key value) (ofMessage level message)

theorem fields_ofFields (level : LogLevel) (message : String) (fields : List (String × String)) :
    (ofFields level message fields).fields = fields := by
  have attachedTo (record : LogRecord) :
      (fields.foldl (fun record (key, value) => record.field key value) record).fields =
        record.fields ++ fields := by
    induction fields generalizing record with
    | nil => exact (List.append_nil _).symm
    | cons head rest ih =>
        rw [List.foldl_cons, ih]
        exact List.append_assoc _ _ _
  exact attachedTo (ofMessage level message)

def attached (key : String) (fields : List (String × String)) : List String :=
  fields.filterMap fun (name, value) => if name = key then some value else none

theorem lookup_eq_findSome? (key : String) (fields : List (String × String)) :
    fields.lookup key =
      fields.findSome? fun (name, value) => if name = key then some value else none := by
  rw [List.lookup_eq_findSome?]
  congr 1
  funext (name, value)
  by_cases same : name = key
  · exact (if_pos (beq_iff_eq.mpr same.symm)).trans (if_pos same).symm
  · exact (if_neg fun equal => same (beq_iff_eq.mp equal).symm).trans (if_neg same).symm

theorem get?_eq_head? (record : LogRecord) (key : String) :
    record.get? key = (attached key record.fields).head? := by
  rw [get?, lookup_eq_findSome?, attached, List.head?_filterMap]

theorem get?_fieldsJson_eq_reverse (record : LogRecord) (key : String) :
    record.fieldsJson.get? key = (record.fields.reverse.lookup key).map Json.str := by
  rw [fieldsJson, Json.ofMembers, Json.get?, Json.lookup_sortedMembers_eq_reverse,
    ← List.map_reverse, lookup_mapValues]

theorem get?_fieldsJson_eq_getLast? (record : LogRecord) (key : String) :
    record.fieldsJson.get? key = (attached key record.fields).getLast?.map Json.str := by
  rw [get?_fieldsJson_eq_reverse, lookup_eq_findSome?, attached, List.getLast?_filterMap]

theorem isSome_get?_eq (record : LogRecord) (key : String) :
    (record.get? key).isSome = (record.fieldsJson.get? key).isSome := by
  rw [get?_eq_head?, get?_fieldsJson_eq_getLast?, Option.isSome_map, Bool.eq_iff_iff,
    List.isSome_head?, List.getLast?_isSome]

/-- Under a key the record and the object tell the same exactly if its first and its last
value are equal. -/
theorem get?_fieldsJson_eq_iff (record : LogRecord) (key : String) :
    record.fieldsJson.get? key = (record.get? key).map Json.str ↔
      (attached key record.fields).head? = (attached key record.fields).getLast? := by
  have injective : Function.Injective Json.str := fun _ _ same => Json.str.inj same
  rw [get?_eq_head?, get?_fieldsJson_eq_getLast?, (Option.map_injective injective).eq_iff, eq_comm]

example :
    let record := ofFields .error "event handler failed" [("attempt", "1"), ("attempt", "2")]
    record.get? "attempt" = some "1" ∧ record.fieldsJson.get? "attempt" = some (.str "2") :=
  ⟨rfl, rfl⟩

def keys (record : LogRecord) : List String :=
  record.fields.map Prod.fst

theorem parse?_fieldsJson (record : LogRecord) :
    Json.parse? record.fieldsJson.text = some record.fieldsJson := by
  have texts : ∀ member ∈ Json.sortedMembers
      (record.fields.map fun (key, value) => (key, Json.str value)),
        member.2.isPlain = true := by
    apply Json.forall_mem_sortedMembers
    intro member present
    obtain ⟨field, _attached, rfl⟩ := List.mem_map.mp present
    rfl
  have arranged : record.fieldsJson.arranged = record.fieldsJson :=
    Json.arranged_obj_of_ascending (Json.ascending_sortedMembers _) fun member present =>
      Json.arranged_of_isScalar (Json.isScalar_of_isPlain (texts member present))
  have flat : record.fieldsJson.levels ≤ 1 := by
    apply Nat.succ_le_succ
    rw [Json.levelsOfMembers_le_iff]
    intro member present
    exact (Json.levels_of_isScalar (Json.isScalar_of_isPlain (texts member present))).le
  have integral : record.fieldsJson.Integral :=
    .obj fun member present => .of_isPlain (texts member present)
  rw [Json.parse?_text integral (flat.trans (by decide)), arranged]

/-- The record is shown in full by the object of its fields, and so by the trace of a sink
that keeps nothing: no key is repeated, the members of the object are the fields, and under
each key they tell what the record tells. -/
structure ShownInFull (record : LogRecord) : Prop where
  distinct : record.keys.Nodup
  members : ∃ members, record.fieldsJson = .obj members ∧
    members.Perm (record.fields.map fun (key, value) => (key, Json.str value))
  value : ∀ key, record.fieldsJson.get? key = (record.get? key).map Json.str
  trace : ∃ text, record.trace = ⟨record.level.traceLevel, record.message, [("fields", text)]⟩ ∧
    Json.parse? text = some record.fieldsJson

theorem shownInFull_of_nodup {record : LogRecord} (distinct : record.keys.Nodup) :
    record.ShownInFull := by
  have apart : ((record.fields.map fun (key, value) => (key, Json.str value)).map
      Prod.fst).Nodup := by
    rw [List.map_map]
    exact distinct
  exact
    { distinct := distinct
      members := ⟨_, rfl, Json.sortedMembers_perm apart⟩
      value := by
        intro key
        rw [fieldsJson, Json.ofMembers, Json.get?, Json.lookup_sortedMembers apart,
          lookup_mapValues]
        rfl
      trace := ⟨_, rfl, record.parse?_fieldsJson⟩ }

theorem keys_field? (record : LogRecord) (key : String) (value : Option String) :
    (record.field? key value).keys = record.keys ++ value.toList.map fun _ => key := by
  cases value with
  | none => exact (List.append_nil _).symm
  | some value => exact List.map_append

theorem keys_field?_sublist (keys : List String) {record : LogRecord}
    (within : record.keys.Sublist keys) (key : String) (value : Option String) :
    (record.field? key value).keys.Sublist (keys ++ [key]) := by
  rw [keys_field?]
  apply within.append
  cases value with
  | none => exact List.nil_sublist _
  | some value => exact .refl _

end LogRecord
end WorkflowBus
