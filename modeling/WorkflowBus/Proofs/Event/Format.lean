/-
Facts that are written are read back.

The object of a fact names its event type and then its fields.  Their names are distinct,
and only an address that is not known is left out; so each field is found by its name, in
whatever order the members stand, and the fields make the fact again.
-/

import WorkflowBus.Event.Basic
import WorkflowBus.Proofs.Bus.Table
import WorkflowBus.Proofs.Instant.Rfc3339
import WorkflowBus.Proofs.IpAddress
import WorkflowBus.Proofs.Json.Arrangement
import WorkflowBus.Proofs.Uuid

namespace WorkflowBus

namespace Json

/-- What is found of a value that is left out when it is null. -/
def present? (value : Json) : Option Json :=
  if value.isNull then none else some value

def presentMembers (names : List String) (values : List Json) : List (String × Json) :=
  (names.zip values).filter fun member => !member.2.isNull

theorem presentMembers_cons (name : String) (value : Json) (names : List String)
    (values : List Json) :
    presentMembers (name :: names) (value :: values) =
      if value.isNull then presentMembers names values
      else (name, value) :: presentMembers names values := by
  unfold presentMembers
  rw [List.zip_cons_cons, List.filter_cons]
  cases value.isNull <;> rfl

theorem keys_presentMembers {names : List String} {values : List Json}
    (lengths : names.length = values.length) :
    ((presentMembers names values).map Prod.fst).Sublist names := by
  have kept : (presentMembers names values).Sublist (names.zip values) := List.filter_sublist
  have keys := kept.map Prod.fst
  rw [List.map_fst_zip lengths.le] at keys
  exact keys

theorem lookup_presentMembers {names : List String} {values : List Json}
    (lengths : names.length = values.length) (distinct : names.Nodup) :
    (names.map fun name => (presentMembers names values).lookup name) = values.map present? := by
  induction names generalizing values with
  | nil =>
      cases List.eq_nil_of_length_eq_zero lengths.symm
      rfl
  | cons name names ih =>
      cases values with
      | nil => cases lengths
      | cons value values =>
          obtain ⟨new, others⟩ := List.nodup_cons.mp distinct
          have shorter := Nat.succ.inj lengths
          have absent : name ∉ (presentMembers names values).map Prod.fst :=
            fun member => new ((keys_presentMembers shorter).subset member)
          rw [List.map_cons, List.map_cons, presentMembers_cons, ← ih shorter others, present?]
          cases value.isNull with
          | true =>
              simp only [if_true, lookup_of_not_mem absent]
          | false =>
              simp only [Bool.false_eq_true, if_false, List.lookup_cons_self]
              have later : ∀ other ∈ names,
                  ((name, value) :: presentMembers names values).lookup other =
                    (presentMembers names values).lookup other := by
                intro other member
                apply lookup_cons_of_ne
                rintro rfl
                exact new member
              rw [List.map_congr_left later]

@[simp] theorem present?_str (value : String) : present? (.str value) = some (.str value) :=
  rfl

@[simp] theorem present?_bool (value : Bool) : present? (.bool value) = some (.bool value) :=
  rfl

@[simp] theorem present?_int (value : Int) : present? (.int value) = some (.int value) :=
  rfl

@[simp] theorem present?_uuid (id : Uuid) : present? id.toJson = some id.toJson :=
  rfl

@[simp] theorem present?_instant (time : Instant) : present? time.toJson = some time.toJson :=
  rfl

@[simp] theorem present?_address (address : IpAddress) :
    present? address.toJson = some address.toJson :=
  rfl

@[simp] theorem present?_null : present? .null = none :=
  rfl

@[simp] theorem optional?_address (address : IpAddress) :
    optional? IpAddress.ofJson? (some address.toJson) = some (some address) := by
  show (IpAddress.ofJson? address.toJson).map some = _
  rw [IpAddress.ofJson?_toJson, Option.map_some]

@[simp] theorem required?_some {α : Type} (read? : Json → Option α) (value : Json) :
    required? read? (some value) = read? value :=
  rfl

@[simp] theorem count?_toNat (value : UInt32) :
    count? 4294967295 (.int value.toNat) = some value.toNat :=
  if_pos (Nat.le_of_lt_succ value.toNat_lt)

end Json

namespace EventType

theorem nodup_fieldNames (eventType : EventType) :
    ("type" :: eventType.fieldNames).Nodup := by
  have each : ∀ eventType ∈ all, ("type" :: eventType.fieldNames).Nodup := by decide
  exact each eventType eventType.mem_all

theorem find?_className (eventType : EventType) :
    (ofFamily eventType.family).find? (fun other => other.className = eventType.className) =
      some eventType := by
  have each : ∀ eventType ∈ all, (ofFamily eventType.family).find?
      (fun other => other.className = eventType.className) = some eventType := by decide
  exact each eventType eventType.mem_all

theorem className_injective (left right : EventType)
    (same : left.className = right.className) : left = right := by
  have distinct : (all.map className).Nodup := by decide
  exact List.inj_on_of_nodup_map distinct left.mem_all right.mem_all same

end EventType

namespace WorkflowFact

theorem length_fieldValues (fact : WorkflowFact) :
    fact.eventType.fieldNames.length = fact.fieldValues.length := by
  cases fact <;> rfl

theorem isPlain_count (count : UInt32) : (Json.int count.toNat).isPlain = true := by
  have fits := count.toNat_lt
  rw [Json.isPlain, decide_eq_true_eq]
  omega

theorem isPlain_fieldValues (fact : WorkflowFact) :
    fact.fieldValues.all Json.isPlain = true := by
  cases fact with
  | accountSyncSucceeded userId connectionId accountsSynced =>
      simp only [fieldValues, List.all_cons, List.all_nil, isPlain_count, Bool.and_true]
      rfl
  | _ => rfl

theorem ofFields?_fieldValues (fact : WorkflowFact) :
    ofFields? fact.workflow fact.stage (fact.fieldValues.map Json.present?) = some fact := by
  cases fact <;> simp [workflow, stage, fieldValues, ofFields?, Json.text?, Json.bool?]

end WorkflowFact

namespace OperationalFact

theorem length_fieldValues (fact : OperationalFact) :
    fact.eventType.fieldNames.length = fact.fieldValues.length := by
  cases fact <;> rfl

theorem isPlain_fieldValues (fact : OperationalFact) :
    fact.fieldValues.all Json.isPlain = true := by
  cases fact with
  | sessionActivityUpdated sessionId userId clientIp => cases clientIp <;> rfl
  | suspiciousSessionActivity sessionId userId reason => rfl
  | providerTokenExpiring userId connectionId providerSlug expiresAt => rfl

def times : OperationalFact → List Instant
  | providerTokenExpiring _ _ _ expiresAt => [expiresAt]
  | _ => []

theorem ofFields?_fieldValues {fact : OperationalFact} (kept : ∀ time ∈ fact.times, time.Kept) :
    ofFields? fact.kind (fact.fieldValues.map Json.present?) = some fact := by
  cases fact with
  | sessionActivityUpdated sessionId userId clientIp =>
      cases clientIp with
      | none => simp [kind, fieldValues, ofFields?, Json.optional?]
      | some address => simp [kind, fieldValues, ofFields?]
  | suspiciousSessionActivity sessionId userId reason =>
      simp [kind, fieldValues, ofFields?, Json.text?]
  | providerTokenExpiring userId connectionId providerSlug expiresAt =>
      have read := (kept expiresAt List.mem_cons_self).ofJson?_toJson
      simp [kind, fieldValues, ofFields?, Json.text?, read]

end OperationalFact

/-! ### Facts -/

namespace Fact

variable {fact : Fact}

def times : Fact → List Instant
  | lifecycle _ => []
  | telemetry fact => fact.times

theorem length_fieldValues (fact : Fact) :
    fact.eventType.fieldNames.length = fact.fieldValues.length := by
  cases fact with
  | lifecycle fact => exact fact.length_fieldValues
  | telemetry fact => exact fact.length_fieldValues

theorem ofFields?_fieldValues (kept : ∀ time ∈ fact.times, time.Kept) :
    ofFields? (fact.fieldValues.map Json.present?) fact.eventType = some fact := by
  cases fact with
  | lifecycle fact =>
      show (WorkflowFact.ofFields? fact.workflow fact.stage _).map _ = _
      rw [fieldValues, fact.ofFields?_fieldValues, Option.map_some]
  | telemetry fact =>
      show (OperationalFact.ofFields? fact.kind _).map _ = _
      rw [fieldValues, OperationalFact.ofFields?_fieldValues kept, Option.map_some]

theorem members_eq (fact : Fact) :
    fact.members = ("type", fact.eventType.toJson) ::
      Json.presentMembers fact.eventType.fieldNames fact.fieldValues :=
  rfl

theorem nodup_keys (fact : Fact) : (fact.members.map Prod.fst).Nodup := by
  have keys := (Json.keys_presentMembers fact.length_fieldValues).cons_cons "type"
  exact fact.eventType.nodup_fieldNames.sublist keys

theorem isPlain_of_mem_members (fact : Fact) :
    ∀ member ∈ fact.members, member.2.isPlain = true := by
  have values : fact.fieldValues.all Json.isPlain = true := by
    cases fact with
    | lifecycle fact => exact fact.isPlain_fieldValues
    | telemetry fact => exact fact.isPlain_fieldValues
  rw [members_eq, List.forall_mem_cons]
  refine ⟨rfl, ?_⟩
  intro member present
  have listed := (List.mem_filter.mp present).1
  exact List.all_eq_true.mp values member.2 (List.of_mem_zip listed).2

theorem isScalar_of_mem_members (fact : Fact) :
    ∀ member ∈ fact.members, member.2.isScalar = true :=
  fun member present => Json.isScalar_of_isPlain (fact.isPlain_of_mem_members member present)

theorem ofJson?_of_type {eventType : EventType} {members : List (String × Json)}
    (type : members.lookup "type" = some eventType.toJson) (positions : Bool) :
    ofJson? eventType.family positions (.obj members) =
      ((Json.obj members).fields? eventType.fieldNames).bind (ofFields? · eventType) := by
  have named : eventType? eventType.family positions eventType.toJson = some eventType :=
    eventType.find?_className
  simp only [ofJson?, type, Option.bind_eq_bind, Option.bind_some, named]

theorem ofJson?_of_lookup (kept : ∀ time ∈ fact.times, time.Kept)
    {members : List (String × Json)} (same : ∀ key, members.lookup key = fact.members.lookup key)
    (positions : Bool) :
    ofJson? fact.eventType.family positions (.obj members) = some fact := by
  obtain ⟨noType, names⟩ := List.nodup_cons.mp fact.eventType.nodup_fieldNames
  have fields : (Json.obj members).fields? fact.eventType.fieldNames =
      some (fact.fieldValues.map Json.present?) := by
    rw [Json.fields?, ← Json.lookup_presentMembers fact.length_fieldValues names]
    apply congrArg some
    apply List.map_congr_left
    intro name member
    have different : name ≠ "type" := by
      rintro rfl
      exact noType member
    rw [same, members_eq, lookup_cons_of_ne different]
  have type : members.lookup "type" = some fact.eventType.toJson := by
    rw [same, members_eq, List.lookup_cons_self]
  rw [ofJson?_of_type type, fields, Option.bind_some]
  exact ofFields?_fieldValues kept

theorem ofJson?_toJson (kept : ∀ time ∈ fact.times, time.Kept) (positions : Bool) :
    ofJson? fact.eventType.family positions fact.toJson = some fact :=
  ofJson?_of_lookup kept (fun _ => rfl) positions

theorem ofJson?_arranged (kept : ∀ time ∈ fact.times, time.Kept) (positions : Bool) :
    ofJson? fact.eventType.family positions fact.toJson.arranged = some fact := by
  have arranged : ∀ member ∈ fact.members, member.2.arranged = member.2 :=
    fun member present => Json.arranged_of_isScalar (fact.isScalar_of_mem_members member present)
  rw [toJson, Json.arranged_obj, Json.map_arrangedMember_of arranged]
  exact ofJson?_of_lookup kept (Json.lookup_sortedMembers fact.nodup_keys) positions

theorem levels_toJson (fact : Fact) : fact.toJson.levels ≤ 1 := by
  apply Nat.succ_le_succ
  rw [Json.levelsOfMembers_le_iff]
  intro member present
  exact (Json.levels_of_isScalar (fact.isScalar_of_mem_members member present)).le

end Fact

end WorkflowBus
