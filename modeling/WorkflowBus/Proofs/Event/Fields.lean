/-
What the fields of a fact are read from.

Every field is a plain value: null tells no more than a field that is missing, and a list or
an object tells nothing.  A fact is read only if each field, but for the address of a client,
is there and has the JSON type of its name.  A time that is read is one that times are kept as.
-/

import WorkflowBus.Proofs.Event.Format
import WorkflowBus.Proofs.Instant.Reading
import WorkflowBus.Proofs.Json.Reordering

namespace WorkflowBus

namespace Json

def ReadsTexts {α : Type} (read? : Json → Option α) : Prop :=
  ∀ {json : Json} {value : α}, read? json = some value → ∃ text, json = .str text

theorem readsTexts_text? : ReadsTexts text? := by
  intro json text read
  cases json with
  | str text => exact ⟨text, rfl⟩
  | _ => cases read

theorem readsTexts_bind {α : Type} (ofText? : String → Option α) :
    ReadsTexts fun json => json.text?.bind ofText? := by
  intro json value read
  obtain ⟨text, told, -⟩ := Option.bind_eq_some_iff.mp read
  exact readsTexts_text? told

theorem ReadsTexts.eq_none {α : Type} {read? : Json → Option α} (texts : ReadsTexts read?)
    {json : Json} (other : ∀ text, json ≠ .str text) : read? json = none := by
  rw [Option.eq_none_iff_forall_ne_some]
  intro value read
  obtain ⟨text, rfl⟩ := texts read
  exact other text rfl

theorem ReadsTexts.readsPlain {α : Type} {read? : Json → Option α} (texts : ReadsTexts read?) :
    ReadsPlain read? :=
  ⟨texts.eq_none nofun, fun _ => texts.eq_none nofun, fun _ => texts.eq_none nofun⟩

end Json

theorem Uuid.readsTexts : Json.ReadsTexts ofJson? :=
  Json.readsTexts_bind ofText?

theorem Instant.readsTexts : Json.ReadsTexts ofJson? :=
  Json.readsTexts_bind ofText?

theorem IpAddress.readsTexts : Json.ReadsTexts ofJson? :=
  Json.readsTexts_bind ofText?

namespace Json

theorem readsPlain_bool? : ReadsPlain bool? :=
  ⟨rfl, fun _ => rfl, fun _ => rfl⟩

theorem readsPlain_count? (most : Nat) : ReadsPlain (count? most) :=
  ⟨rfl, fun _ => rfl, fun _ => rfl⟩

/-- The value has the JSON type of a field of facts, by the name of the field: all are texts
but for a flag and a count, and the count has 32 bits. -/
def FitsField (name : String) : Json → Prop
  | .str _ => name ≠ "needs_user_action" ∧ name ≠ "accounts_synced"
  | .bool _ => name = "needs_user_action"
  | .int value => name = "accounts_synced" ∧ 0 ≤ value ∧ value ≤ 4294967295
  | _ => False

def Filled (name : String) (value : Option Json) : Prop :=
  ∃ json, value = some json ∧ json.FitsField name

theorem exists_of_required? {α : Type} {read? : Json → Option α} {value : Option Json} {result : α}
    (read : required? read? value = some result) :
    ∃ json, value = some json ∧ read? json = some result := by
  cases value with
  | none => cases read
  | some json => exact ⟨json, rfl, read⟩

theorem ReadsTexts.filled {α : Type} {read? : Json → Option α} (texts : ReadsTexts read?)
    {name : String} {value : Option Json} {result : α}
    (plain : name ≠ "needs_user_action" ∧ name ≠ "accounts_synced")
    (read : required? read? value = some result) : Filled name value := by
  obtain ⟨json, rfl, read⟩ := exists_of_required? read
  obtain ⟨text, rfl⟩ := texts read
  exact ⟨.str text, rfl, plain⟩

theorem filled_of_bool? {value : Option Json} {flag : Bool}
    (read : required? bool? value = some flag) : Filled "needs_user_action" value := by
  obtain ⟨json, rfl, read⟩ := exists_of_required? read
  cases json with
  | bool flag => exact ⟨.bool flag, rfl, rfl⟩
  | _ => cases read

theorem filled_of_count? {value : Option Json} {count : Nat}
    (read : required? (count? 4294967295) value = some count) :
    Filled "accounts_synced" value := by
  obtain ⟨json, rfl, found⟩ := exists_of_required? read
  rw [count?.eq_def] at found
  split at found
  case h_1 number =>
    split at found
    case isTrue most =>
      exact ⟨.int number, rfl, rfl, Int.natCast_nonneg number, Int.ofNat_le.mpr most⟩
    case isFalse => cases found
  case h_2 => cases found

end Json

namespace WorkflowFact

open Json

/-- A fact is read from what its fields tell. -/
theorem ofFields?_told (workflow : Workflow) (stage : Stage) (values : List (Option Json)) :
    ofFields? workflow stage (values.map told?) = ofFields? workflow stage values := by
  -- No fact of a workflow has more than five fields, so nothing is read from a longer list.
  rcases values with _ | ⟨a, _ | ⟨b, _ | ⟨c, _ | ⟨d, _ | ⟨e, _ | ⟨f, rest⟩⟩⟩⟩⟩⟩ <;>
    cases workflow <;> cases stage <;>
      first
      | rfl
      | simp only [ofFields?, List.map_cons, List.map_nil,
          Uuid.readsTexts.readsPlain.required?_told, readsTexts_text?.readsPlain.required?_told,
          readsPlain_bool?.required?_told, (readsPlain_count? _).required?_told]

theorem filled_of_ofFields? {workflow : Workflow} {stage : Stage} {values : List (Option Json)}
    {fact : WorkflowFact} (read : ofFields? workflow stage values = some fact) :
    List.Forall₂ Filled (EventType.lifecycle workflow stage).fieldNames values := by
  unfold ofFields? at read
  split at read
  all_goals try contradiction
  all_goals
    simp only [Option.bind_eq_bind, Option.bind_eq_some_iff] at read
    simp only [EventType.fieldNames, List.forall₂_cons, List.forall₂_nil_right_iff, and_true]
  all_goals
    grind [ReadsTexts.filled, Uuid.readsTexts, readsTexts_text?, filled_of_bool?,
      filled_of_count?]

end WorkflowFact

namespace OperationalFact

open Json

theorem ofFields?_told (kind : OperationalKind) (values : List (Option Json)) :
    ofFields? kind (values.map told?) = ofFields? kind values := by
  rcases values with _ | ⟨a, _ | ⟨b, _ | ⟨c, _ | ⟨d, _ | ⟨e, rest⟩⟩⟩⟩⟩ <;> cases kind <;>
    first
    | rfl
    | simp only [ofFields?, List.map_cons, List.map_nil,
        Uuid.readsTexts.readsPlain.required?_told, readsTexts_text?.readsPlain.required?_told,
        Instant.readsTexts.readsPlain.required?_told,
        IpAddress.readsTexts.readsPlain.optional?_told]

theorem filled_of_ofFields? {kind : OperationalKind} {values : List (Option Json)}
    {fact : OperationalFact} (read : ofFields? kind values = some fact) :
    List.Forall₂ (fun name value => name ≠ "client_ip" → Filled name value)
      (EventType.telemetry kind).fieldNames values := by
  unfold ofFields? at read
  split at read
  all_goals try contradiction
  all_goals
    simp only [Option.bind_eq_bind, Option.bind_eq_some_iff] at read
    simp only [EventType.fieldNames, List.forall₂_cons, List.forall₂_nil_right_iff, and_true]
  all_goals grind [ReadsTexts.filled, Uuid.readsTexts, readsTexts_text?, Instant.readsTexts]

theorem kept_of_ofFields? {kind : OperationalKind} {values : List (Option Json)}
    {fact : OperationalFact} (read : ofFields? kind values = some fact) :
    ∀ time ∈ fact.times, time.Kept := by
  unfold ofFields? at read
  split at read
  case h_1 | h_2 =>
    simp only [Option.bind_eq_bind, Option.bind_eq_some_iff] at read
    obtain ⟨_, -, _, -, _, -, same⟩ := read
    cases same
    nofun
  case h_3 =>
    simp only [Option.bind_eq_bind, Option.bind_eq_some_iff] at read
    obtain ⟨_, -, _, -, _, -, expiresAt, told, same⟩ := read
    cases same
    obtain ⟨json, -, found⟩ := Json.exists_of_required? told
    exact List.forall_mem_singleton.mpr (Instant.kept_of_ofJson? found)
  case h_4 => cases read

end OperationalFact

namespace Fact

open Json

theorem ofFields?_told (eventType : EventType) (values : List (Option Json)) :
    ofFields? (values.map told?) eventType = ofFields? values eventType := by
  cases eventType with
  | lifecycle workflow stage => rw [ofFields?, ofFields?, WorkflowFact.ofFields?_told]
  | telemetry kind => rw [ofFields?, ofFields?, OperationalFact.ofFields?_told]

theorem ofFields?_eq_of_told {left right : List (Option Json)}
    (same : left.map told? = right.map told?) (eventType : EventType) :
    ofFields? left eventType = ofFields? right eventType := by
  rw [← ofFields?_told, same, ofFields?_told]

theorem filled_of_ofFields? {eventType : EventType} {values : List (Option Json)} {fact : Fact}
    (read : ofFields? values eventType = some fact) :
    List.Forall₂ (fun name value => name ≠ "client_ip" → Filled name value)
      eventType.fieldNames values := by
  cases eventType with
  | lifecycle workflow stage =>
      obtain ⟨_, found, -⟩ := Option.map_eq_some_iff.mp read
      refine (WorkflowFact.filled_of_ofFields? found).imp ?_
      intro name value filled _
      exact filled
  | telemetry kind =>
      obtain ⟨_, found, -⟩ := Option.map_eq_some_iff.mp read
      exact OperationalFact.filled_of_ofFields? found

theorem kept_of_ofFields? {eventType : EventType} {values : List (Option Json)} {fact : Fact}
    (read : ofFields? values eventType = some fact) : ∀ time ∈ fact.times, time.Kept := by
  cases eventType with
  | lifecycle workflow stage =>
      obtain ⟨_, -, rfl⟩ := Option.map_eq_some_iff.mp read
      nofun
  | telemetry kind =>
      obtain ⟨_, found, rfl⟩ := Option.map_eq_some_iff.mp read
      exact OperationalFact.kept_of_ofFields? found

/-! ### Facts -/

variable {family : Family} {positions : Bool}

theorem readsPlain_eventType? (family : Family) (positions : Bool) :
    ReadsPlain (eventType? family positions) :=
  ⟨rfl, fun _ => rfl, fun _ => rfl⟩

theorem ofJson?_obj (family : Family) (positions : Bool) (members : List (String × Json)) :
    ofJson? family positions (.obj members) =
      (required? (eventType? family positions) (members.lookup "type")).bind fun eventType =>
        ofFields? (eventType.fieldNames.map fun name => members.lookup name) eventType := by
  rw [ofJson?]
  cases members.lookup "type" <;> rfl

theorem ofJson?_congr {left right : List (String × Json)}
    (type : required? (eventType? family positions) (left.lookup "type") =
      required? (eventType? family positions) (right.lookup "type"))
    (fields : ∀ eventType,
      required? (eventType? family positions) (left.lookup "type") = some eventType →
        ∀ name ∈ eventType.fieldNames, told? (left.lookup name) = told? (right.lookup name)) :
    ofJson? family positions (.obj left) = ofJson? family positions (.obj right) := by
  rw [ofJson?_obj, ofJson?_obj, ← type]
  apply Option.bind_congr
  intro eventType named
  apply ofFields?_eq_of_told
  rw [List.map_map, List.map_map]
  exact List.map_congr_left (fields eventType named)

theorem bind_ofFields?_of_rel {left right : Option (List (Option Json))}
    (same : Option.Rel (List.Forall₂ (Option.Rel Reordered)) left right) (eventType : EventType) :
    left.bind (ofFields? · eventType) = right.bind (ofFields? · eventType) := by
  cases same with
  | none => rfl
  | some each =>
      apply ofFields?_eq_of_told
      induction each with
      | nil => rfl
      | cons first _ ih => rw [List.map_cons, List.map_cons, told?_eq_of_rel first, ih]

theorem ofJson?_reordered {left right : Json} (same : Reordered left right) :
    ofJson? family positions left = ofJson? family positions right := by
  have plain := readsPlain_eventType? family positions
  cases left with
  | obj members =>
      obtain ⟨others, rfl, _, found⟩ := same.of_obj
      exact ofJson?_congr (plain.eq_of_rel (found "type"))
        fun _ _ name _ => told?_eq_of_rel (found name)
  | arr items =>
      obtain ⟨others, rfl, each⟩ := same.of_arr
      cases each with
      | nil => rfl
      | @cons name other values otherValues first rest =>
          have named : eventType? family positions name = eventType? family positions other :=
            plain.eq_of_rel (.some first)
          show (eventType? family positions name).bind _ =
            (eventType? family positions other).bind _
          rw [named]
          apply Option.bind_congr
          intro eventType _
          exact bind_ofFields?_of_rel (fields?_rel_of_items rest eventType.fieldNames) eventType
  | _ => rw [same.eq_of_isScalar rfl]

theorem kept_of_ofJson? {json : Json} {fact : Fact}
    (read : ofJson? family positions json = some fact) : ∀ time ∈ fact.times, time.Kept := by
  rw [ofJson?.eq_def] at read
  split at read
  case h_1 =>
    simp only [Option.bind_eq_bind, Option.bind_eq_some_iff] at read
    obtain ⟨_, _, _, _, _, _, read⟩ := read
    exact kept_of_ofFields? read
  case h_2 =>
    simp only [Option.bind_eq_bind, Option.bind_eq_some_iff] at read
    obtain ⟨_, _, _, _, read⟩ := read
    exact kept_of_ofFields? read
  case h_3 => cases read

theorem filled_of_ofJson? {members : List (String × Json)} {fact : Fact}
    (read : ofJson? family positions (.obj members) = some fact) :
    ∃ eventType,
      required? (eventType? family positions) (members.lookup "type") = some eventType ∧
        ∀ name ∈ eventType.fieldNames, name ≠ "client_ip" → Filled name (members.lookup name) := by
  rw [ofJson?_obj] at read
  obtain ⟨eventType, named, read⟩ := Option.bind_eq_some_iff.mp read
  have filled := List.forall₂_map_right_iff.mp (filled_of_ofFields? read)
  exact ⟨eventType, named, List.forall₂_same.mp filled⟩

end Fact

end WorkflowBus
