/-
Events are read strictly, and what is read is written in one form.

An event is read only from what is complete: every part is there and has its JSON type, the
payload is labelled with the family of the fact, and the fact has the fields of its type.  Only
the address of a client may be missing.  The times that are read are such as times are kept as,
so what is written for the event is read as the event.
-/

import WorkflowBus.Proofs.Event.Restating
import WorkflowBus.Proofs.Event.RoundTrip

namespace WorkflowBus

namespace Json

def part? : (path : List String) → Json → Option Json
  | [], json => some json
  | key :: path, json => (json.get? key).bind (part? path)

theorem part?_obj {members : List (String × Json)} {key : String} {value : Json}
    (there : members.lookup key = some value) (path : List String) :
    (obj members).part? (key :: path) = value.part? path := by
  rw [part?, get?, there, Option.bind_some]

end Json

namespace Event

open Json (ChangedAt)

theorem name_of_ofName? {name : String} {family : Family}
    (read : Family.ofName? name = some family) : name = family.name := by
  have found := List.find?_some read
  exact (of_decide_eq_true found).symm

theorem family_of_mem_ofFamily {family : Family} {eventType : EventType}
    (member : eventType ∈ EventType.ofFamily family) : eventType.family = family := by
  have each : ∀ eventType ∈ EventType.ofFamily family, eventType.family = family := by
    cases family <;> decide
  exact each eventType member

theorem eventType?_str {family : Family} {name : String} {eventType : EventType}
    (read : Fact.eventType? family true (.str name) = some eventType) :
    name = eventType.className ∧ eventType.family = family := by
  have found := List.find?_some read
  exact ⟨(of_decide_eq_true found).symm, family_of_mem_ofFamily (List.mem_of_find?_eq_some read)⟩

/-- The value is an object, and so are its payload and its fact, where they are there; the
family and the type are told by texts, where they are there. -/
structure WrittenByName (json : Json) : Prop where
  objects : ∀ path ∈ [[], ["payload"], ["payload", "event"]], ∀ value,
    json.part? path = some value → ∃ members, value = .obj members
  texts : ∀ path ∈ [["payload", "family"], ["payload", "event", "type"]], ∀ value,
    json.part? path = some value → ∃ text, value = .str text

structure Complete (json : Json) (eventType : EventType) : Prop where
  id : ∃ text, json.part? ["id"] = some (.str text)
  occurredAt : ∃ text, json.part? ["occurred_at"] = some (.str text)
  payload : ∃ members, json.part? ["payload"] = some (.obj members)
  label : json.part? ["payload", "family"] = some (.str eventType.family.name)
  fact : ∃ members, json.part? ["payload", "event"] = some (.obj members)
  type : json.part? ["payload", "event", "type"] = some (.str eventType.className)
  fields : ∀ name ∈ eventType.fieldNames, name ≠ "client_ip" →
    Json.Filled name (json.part? ["payload", "event", name])

theorem complete_of_factOfPayload? {top body : List (String × Json)}
    (named : WrittenByName (.obj top)) (there : top.lookup "payload" = some (.obj body))
    {fact : Fact} (read : factOfPayload? (.obj body) = some fact) :
    ∃ (eventType : EventType) (members : List (String × Json)),
      body.lookup "family" = some (.str eventType.family.name) ∧
      body.lookup "event" = some (.obj members) ∧
      members.lookup "type" = some (.str eventType.className) ∧
      ∀ name ∈ eventType.fieldNames, name ≠ "client_ip" →
        Json.Filled name (members.lookup name) := by
  have within path := Json.part?_obj there path
  rw [factOfPayload?_obj] at read
  obtain ⟨text, readLabel, read⟩ := Option.bind_eq_some_iff.mp read
  obtain ⟨family, readFamily, read⟩ := Option.bind_eq_some_iff.mp read
  obtain ⟨label, labelThere, readLabel⟩ := Json.exists_of_required? readLabel
  obtain ⟨factJson, factThere, read⟩ := Json.exists_of_required? read
  obtain ⟨labelText, rfl⟩ := named.texts ["payload", "family"] (by simp) label
    ((within _).trans (Json.part?_obj labelThere []))
  cases readLabel
  obtain ⟨members, rfl⟩ := named.objects ["payload", "event"] (by simp) factJson
    ((within _).trans (Json.part?_obj factThere []))
  obtain ⟨eventType, readType, filled⟩ := Fact.filled_of_ofJson? read
  obtain ⟨type, typeThere, readType⟩ := Json.exists_of_required? readType
  obtain ⟨name, rfl⟩ := named.texts ["payload", "event", "type"] (by simp) type
    ((within _).trans ((Json.part?_obj factThere _).trans (Json.part?_obj typeThere [])))
  obtain ⟨rfl, rfl⟩ := eventType?_str readType
  exact ⟨eventType, members, name_of_ofName? readFamily ▸ labelThere, factThere, typeThere, filled⟩

/-- An event is read only from what is complete. -/
theorem complete_of_ofJson? {json : Json} (named : WrittenByName json) {event : Event}
    (read : ofJson? json = some event) : ∃ eventType, Complete json eventType := by
  obtain ⟨top, rfl⟩ := named.objects [] (by simp) json rfl
  rw [ofJson?_obj] at read
  obtain ⟨id, readId, read⟩ := Option.bind_eq_some_iff.mp read
  obtain ⟨occurredAt, readTime, read⟩ := Option.bind_eq_some_iff.mp read
  obtain ⟨fact, readPayload, -⟩ := Option.map_eq_some_iff.mp read
  obtain ⟨idJson, idThere, readId⟩ := Json.exists_of_required? readId
  obtain ⟨idText, rfl⟩ := Uuid.readsTexts readId
  obtain ⟨timeJson, timeThere, readTime⟩ := Json.exists_of_required? readTime
  obtain ⟨timeText, rfl⟩ := Instant.readsTexts readTime
  obtain ⟨payload, payloadThere, readPayload⟩ := Json.exists_of_required? readPayload
  obtain ⟨body, rfl⟩ := named.objects ["payload"] (by simp) payload
    (Json.part?_obj payloadThere [])
  obtain ⟨eventType, members, label, factThere, type, filled⟩ :=
    complete_of_factOfPayload? named payloadThere readPayload
  have within path := Json.part?_obj payloadThere path
  exact ⟨eventType,
    { id := ⟨idText, Json.part?_obj idThere []⟩
      occurredAt := ⟨timeText, Json.part?_obj timeThere []⟩
      payload := ⟨body, within []⟩
      label := (within _).trans (Json.part?_obj label [])
      fact := ⟨members, (within _).trans (Json.part?_obj factThere [])⟩
      type := (within _).trans ((Json.part?_obj factThere _).trans (Json.part?_obj type []))
      fields := by
        intro name field required
        obtain ⟨value, there, fits⟩ := filled name field required
        have found := (Json.part?_obj factThere _).trans (Json.part?_obj there [])
        exact ⟨value, (within _).trans found, fits⟩ }⟩

/-- Something that an event is read from is missing, is of the wrong kind or is not known. -/
inductive Faulty (json : Json) : Prop where
  | id (wrong : ∀ text, json.part? ["id"] ≠ some (.str text))
  | occurredAt (wrong : ∀ text, json.part? ["occurred_at"] ≠ some (.str text))
  | payload (wrong : ∀ members, json.part? ["payload"] ≠ some (.obj members))
  | label (unknown : ∀ family : Family,
      json.part? ["payload", "family"] ≠ some (.str family.name))
  | fact (wrong : ∀ members, json.part? ["payload", "event"] ≠ some (.obj members))
  | type (unknown : ∀ eventType : EventType,
      json.part? ["payload", "event", "type"] ≠ some (.str eventType.className))
  | families (family : Family) (eventType : EventType)
      (label : json.part? ["payload", "family"] = some (.str family.name))
      (type : json.part? ["payload", "event", "type"] = some (.str eventType.className))
      (apart : eventType.family ≠ family)
  | field (eventType : EventType)
      (type : json.part? ["payload", "event", "type"] = some (.str eventType.className))
      (name : String) (field : name ∈ eventType.fieldNames) (needed : name ≠ "client_ip")
      (wrong : ¬Json.Filled name (json.part? ["payload", "event", name]))

theorem Complete.not_faulty {json : Json} {eventType : EventType}
    (complete : Complete json eventType) : ¬Faulty json := by
  intro faulty
  cases faulty with
  | id wrong => exact complete.id.elim wrong
  | occurredAt wrong => exact complete.occurredAt.elim wrong
  | payload wrong => exact complete.payload.elim wrong
  | label unknown => exact unknown eventType.family complete.label
  | fact wrong => exact complete.fact.elim wrong
  | type unknown => exact unknown eventType complete.type
  | families family other label type apart =>
      have names : family.name = eventType.family.name :=
        Json.str.inj (Option.some.inj (label.symm.trans complete.label))
      have classes : other.className = eventType.className :=
        Json.str.inj (Option.some.inj (type.symm.trans complete.type))
      have read := family_ofName?_name family
      rw [names, family_ofName?_name] at read
      rw [EventType.className_injective other eventType classes] at apart
      exact apart (Option.some.inj read)
  | field other type name field needed wrong =>
      have classes : other.className = eventType.className :=
        Json.str.inj (Option.some.inj (type.symm.trans complete.type))
      rw [EventType.className_injective other eventType classes] at field
      exact wrong (complete.fields name field needed)

/-! ### What is written again -/

theorem kept_of_factOfPayload? {json : Json} {fact : Fact}
    (read : factOfPayload? json = some fact) : ∀ time ∈ fact.times, time.Kept := by
  rw [factOfPayload?.eq_def] at read
  split at read
  case h_1 =>
    simp only [Option.bind_eq_bind, Option.bind_eq_some_iff] at read
    obtain ⟨_, _, _, _, _, _, _, _, read⟩ := read
    exact Fact.kept_of_ofJson? read
  case h_2 =>
    simp only [Option.bind_eq_bind, Option.bind_eq_some_iff] at read
    obtain ⟨_, _, _, _, read⟩ := read
    exact Fact.kept_of_ofJson? read
  case h_3 => cases read

theorem timesKept_of_ofJson? {json : Json} {event : Event} (read : ofJson? json = some event) :
    event.TimesKept := by
  rw [ofJson?] at read
  obtain ⟨values, -, read⟩ := Option.bind_eq_some_iff.mp read
  split at read
  case h_1 =>
    simp only [Option.bind_eq_bind, Option.bind_eq_some_iff] at read
    obtain ⟨id, -, occurredAt, readTime, fact, readPayload, same⟩ := read
    cases same
    obtain ⟨_, -, readTime⟩ := Json.exists_of_required? readTime
    obtain ⟨_, -, readPayload⟩ := Json.exists_of_required? readPayload
    exact ⟨Instant.kept_of_ofJson? readTime, kept_of_factOfPayload? readPayload⟩
  case h_2 => cases read

/-- Reading is strict, and to one form, wherever objects are written by name.  The event that is
read is read again from what is written for it, as a value and as a text.  It is read from every
value that tells the same with its members in another order, at any level, or with members under
further keys.  Nothing is read from what is faulty: where the label or the type is not known or
the type is one of the other family, or where a part or a field of the type, but for the address
of a client, is missing, null or not of its JSON type.  An address that is null is read as one
that is missing. -/
theorem read_strictly (json : Json) (named : WrittenByName json) :
    (∀ event, ofJson? json = some event →
      ofJson? event.toJson = some event ∧
        (Json.parse? event.toJson.text).bind ofJson? = some event) ∧
      (∀ other, Restated json other → ofJson? other = ofJson? json) ∧
      (Faulty json → ofJson? json = none) ∧
      ∀ other, ChangedAt "payload" (ChangedAt "event" Fact.AddressNulled) json other →
        ofJson? other = ofJson? json := by
  refine ⟨?_, fun other same => (ofJson?_restated same).symm, ?_, ?_⟩
  · intro event read
    have kept := timesKept_of_ofJson? read
    refine ⟨ofJson?_toJson kept, ?_⟩
    rw [event.parse?_text, Option.bind_some]
    exact ofJson?_arranged kept
  · intro faulty
    rw [Option.eq_none_iff_forall_ne_some]
    intro event read
    obtain ⟨eventType, complete⟩ := complete_of_ofJson? named read
    exact complete.not_faulty faulty
  · intro other nulled
    exact (ofJson?_changedAt (factOfPayload?_changedAt Fact.ofJson?_addressNulled) nulled).symm

/-- The activity of a session under a label, in an order of its own, with the number one and a
half beside it. -/
def activityJson (label : String) : Json :=
  .obj [("weight", .float ⟨false, 1023 * 2 ^ 52 + 2 ^ 51, by decide⟩),
    ("payload", .obj [
      ("event", .obj [("user_id", (Uuid.numbered 3).toJson), ("client_ip", .null),
        ("type", .str "SessionActivityUpdated"), ("session_id", (Uuid.numbered 2).toJson)]),
      ("family", .str label)]),
    ("occurred_at", Instant.epoch.toJson), ("id", (Uuid.numbered 1).toJson)]

theorem writtenByName_activityJson (label : String) : WrittenByName (activityJson label) where
  objects := by
    refine List.forall_mem_cons.mpr ⟨?_, List.forall_mem_cons.mpr
      ⟨?_, List.forall_mem_singleton.mpr ?_⟩⟩ <;> rintro value ⟨rfl⟩ <;> exact ⟨_, rfl⟩
  texts := by
    refine List.forall_mem_cons.mpr ⟨?_, List.forall_mem_singleton.mpr ?_⟩ <;>
      rintro value ⟨rfl⟩ <;> exact ⟨_, rfl⟩

theorem ofJson?_activityJson :
    ofJson? (activityJson "operational") = some ⟨.numbered 1, .epoch,
      .telemetry (.sessionActivityUpdated (.numbered 2) (.numbered 3) none)⟩ := by
  have kept : Instant.epoch.Kept := ⟨by decide, fun leap => absurd leap (by decide)⟩
  apply ofJson?_of_fields? kept rfl
  apply factOfPayload?_of_lookup rfl rfl
  rw [family, eventType, Fact.eventType, OperationalFact.eventType, Fact.ofJson?_of_type rfl]
  show Fact.ofFields? [some (Uuid.numbered 2).toJson, some (Uuid.numbered 3).toJson, some .null]
    (.telemetry .sessionActivityUpdated) = _
  simp [Fact.ofFields?, OperationalFact.ofFields?, Json.optional?]

/-- Under the label of the other family the same is not read. -/
theorem read_strictly_activity :
    WrittenByName (activityJson "operational") ∧
      ofJson? (activityJson "operational") = some ⟨.numbered 1, .epoch,
        .telemetry (.sessionActivityUpdated (.numbered 2) (.numbered 3) none)⟩ ∧
      (Json.parse? (toJson ⟨.numbered 1, .epoch,
          .telemetry (.sessionActivityUpdated (.numbered 2) (.numbered 3) none)⟩).text).bind
        ofJson? = some ⟨.numbered 1, .epoch,
          .telemetry (.sessionActivityUpdated (.numbered 2) (.numbered 3) none)⟩ ∧
      ofJson? (activityJson "workflow") = none := by
  refine ⟨writtenByName_activityJson "operational", ofJson?_activityJson, ?_, ?_⟩
  · exact ((read_strictly _ (writtenByName_activityJson "operational")).1 _
      ofJson?_activityJson).2
  · apply (read_strictly _ (writtenByName_activityJson "workflow")).2.2.1
    exact .families .workflow (.telemetry .sessionActivityUpdated) rfl rfl (by decide)

end Event
end WorkflowBus
