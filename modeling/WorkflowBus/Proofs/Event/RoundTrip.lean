/-
Events that are written are read back.

An event is written as a value or as the text of that value, and where objects are kept
sorted by key, as the arranged value.  From each of the three the event is read with its
identifier, its time and its fact.
-/

import WorkflowBus.Proofs.Event.Format
import WorkflowBus.Proofs.Json.Parsing

namespace WorkflowBus
namespace Event

/-- The times of an event and of its fact are such as times are kept as. -/
structure TimesKept (event : Event) : Prop where
  occurredAt : event.occurredAt.Kept
  fact : ∀ time ∈ event.fact.times, time.Kept

theorem family_ofName?_name (family : Family) : Family.ofName? family.name = some family := by
  cases family <;> rfl

theorem factOfPayload?_of_lookup {event : Event} {members : List (String × Json)} {fact : Json}
    (family : members.lookup "family" = some (.str event.family.name))
    (there : members.lookup "event" = some fact)
    (read : Fact.ofJson? event.family true fact = some event.fact) :
    factOfPayload? (.obj members) = some event.fact := by
  rw [factOfPayload?, family, there]
  simp only [Option.bind_eq_bind, Option.bind_some, Json.name?, family_ofName?_name, read]

theorem ofJson?_of_fields? {event : Event} (kept : event.occurredAt.Kept) {json payload : Json}
    (fields : json.fields? ["id", "occurred_at", "payload"] =
      some [some event.id.toJson, some event.occurredAt.toJson, some payload])
    (read : factOfPayload? payload = some event.fact) : ofJson? json = some event := by
  rw [ofJson?, fields]
  simp only [Option.bind_eq_bind, Option.bind_some, Json.required?_some, Uuid.ofJson?_toJson,
    kept.ofJson?_toJson, read]
  rfl

theorem ofJson?_toJson {event : Event} (kept : event.TimesKept) :
    ofJson? event.toJson = some event := by
  apply ofJson?_of_fields? kept.occurredAt rfl
  exact factOfPayload?_of_lookup rfl rfl (Fact.ofJson?_toJson kept.fact true)

theorem ofJson?_arranged {event : Event} (kept : event.TimesKept) :
    ofJson? event.toJson.arranged = some event := by
  have fields : event.toJson.arranged.fields? ["id", "occurred_at", "payload"] =
      some [some event.id.toJson, some event.occurredAt.toJson,
        some event.payloadJson.arranged] := by
    refine Json.fields?_arranged ?_ _
    show ["id", "occurred_at", "payload"].Nodup
    decide
  have parts : (([("family", .str event.family.name), ("event", event.fact.toJson)] :
      List (String × Json)).map Prod.fst).Nodup := by
    show ["family", "event"].Nodup
    decide
  apply ofJson?_of_fields? kept.occurredAt fields
  rw [payloadJson, Json.arranged_obj]
  apply factOfPayload?_of_lookup
  · exact Json.lookup_arranged parts "family"
  · exact Json.lookup_arranged parts "event"
  · exact Fact.ofJson?_arranged kept.fact true

theorem levels_toJson (event : Event) : event.toJson.levels ≤ 3 := by
  have fact := event.fact.levels_toJson
  have payload : event.payloadJson.levels ≤ 2 := by
    apply Nat.succ_le_succ
    rw [Json.levelsOfMembers_le_iff]
    exact List.forall_mem_cons.mpr ⟨Nat.zero_le 1, List.forall_mem_singleton.mpr fact⟩
  apply Nat.succ_le_succ
  rw [Json.levelsOfMembers_le_iff]
  exact List.forall_mem_cons.mpr ⟨Nat.zero_le 2,
    List.forall_mem_cons.mpr ⟨Nat.zero_le 2, List.forall_mem_singleton.mpr payload⟩⟩

theorem integral_toJson (event : Event) : event.toJson.Integral := by
  have fact : event.fact.toJson.Integral :=
    .obj fun member present => .of_isPlain (event.fact.isPlain_of_mem_members member present)
  have payload : event.payloadJson.Integral :=
    .obj (List.forall_mem_cons.mpr ⟨.str _, List.forall_mem_singleton.mpr fact⟩)
  exact .obj (List.forall_mem_cons.mpr
    ⟨.str _, List.forall_mem_cons.mpr ⟨.str _, List.forall_mem_singleton.mpr payload⟩⟩)

theorem parse?_text (event : Event) : Json.parse? event.toJson.text = some event.toJson.arranged :=
  Json.parse?_text event.integral_toJson (event.levels_toJson.trans (by decide))

/-- An event is read from what is written for it, from a value as from a text: all of it, and
not only its identifier, by which events are told apart.  What is written tells the family
and the event type. -/
theorem read_written (event : Event) (kept : event.TimesKept) :
    ofJson? event.toJson = some event ∧
      ofJson? event.toJson.arranged = some event ∧
      (Json.parse? event.toJson.text).bind ofJson? = some event ∧
      ((event.toJson.get? "payload").bind (Json.get? "family")) = some (.str event.family.name) ∧
      ((event.toJson.get? "payload").bind (Json.get? "event")).bind (Json.get? "type") =
        some (.str event.eventType.className) := by
  refine ⟨ofJson?_toJson kept, ofJson?_arranged kept, ?_, rfl, rfl⟩
  rw [event.parse?_text, Option.bind_some]
  exact ofJson?_arranged kept

theorem read_written_leap_second :
    TimesKept ⟨.numbered 1, ⟨17166, 86399, 1500000000⟩,
        .telemetry (.sessionActivityUpdated (.numbered 2) (.numbered 3) none)⟩ ∧
      (Json.parse? (toJson ⟨.numbered 1, ⟨17166, 86399, 1500000000⟩,
          .telemetry (.sessionActivityUpdated (.numbered 2) (.numbered 3) none)⟩).text).bind
        ofJson? = some ⟨.numbered 1, ⟨17166, 86399, 1500000000⟩,
          .telemetry (.sessionActivityUpdated (.numbered 2) (.numbered 3) none)⟩ := by
  have kept : TimesKept ⟨.numbered 1, ⟨17166, 86399, 1500000000⟩,
      .telemetry (.sessionActivityUpdated (.numbered 2) (.numbered 3) none)⟩ :=
    ⟨⟨by decide, fun _ => by decide⟩, nofun⟩
  exact ⟨kept, (read_written _ kept).2.2.1⟩

end Event
end WorkflowBus
