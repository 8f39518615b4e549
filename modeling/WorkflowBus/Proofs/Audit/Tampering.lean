/-
Trails whose stored records have been altered.

The hashes of an entry are left as they are, and another record is put into it.
Verification notices this exactly when the digest of the entry's text changes; and of the
record the text has the action, the actor and the metadata.
-/

import WorkflowBus.Proofs.Audit.History
import WorkflowBus.Proofs.Audit.LinkText

namespace WorkflowBus

namespace AuditRecord

/-- What the text behind an entry's hash has of its record. -/
def hashed (record : AuditRecord) : String :=
  record.action ++ Chain.actorText record.actorId ++ record.metadata.text

/-- Two records have the same in the fields of which something is hashed. -/
structure SameParts (record other : AuditRecord) : Prop where
  action : record.action = other.action
  actorId : record.actorId = other.actorId
  metadata : record.metadata = other.metadata

inductive OnePartApart (record other : AuditRecord) : Prop
  | action (actorId : record.actorId = other.actorId) (metadata : record.metadata = other.metadata)
  | actorId (action : record.action = other.action) (metadata : record.metadata = other.metadata)
  | metadata (action : record.action = other.action) (actorId : record.actorId = other.actorId)

end AuditRecord

namespace AuditEntry

def text (entry : AuditEntry) : String :=
  Chain.linkText entry.id entry.sequenceNumber entry.record.action entry.record.actorId
    entry.record.metadata.text entry.previousHash

theorem text_eq (entry : AuditEntry) :
    entry.text = entry.id.text ++ toString entry.sequenceNumber ++ entry.record.hashed ++
      entry.previousHash := by
  unfold text Chain.linkText AuditRecord.hashed Chain.actorText
  simp only [String.append_assoc]

/-- The entry with another record and the hashes that it has. -/
def altered (entry : AuditEntry) (record : AuditRecord) : AuditEntry :=
  { entry with record := record }

theorem text_altered_eq_iff (entry : AuditEntry) (record : AuditRecord) :
    (entry.altered record).text = entry.text ↔ record.hashed = entry.record.hashed := by
  rw [text_eq, text_eq]
  show entry.id.text ++ toString entry.sequenceNumber ++ record.hashed ++ entry.previousHash =
    entry.id.text ++ toString entry.sequenceNumber ++ entry.record.hashed ++ entry.previousHash ↔ _
  rw [String.append_left_inj, String.append_right_inj]

end AuditEntry

namespace AuditRecord

variable {record other : AuditRecord}

theorem SameParts.hashed (same : record.SameParts other) : record.hashed = other.hashed := by
  unfold AuditRecord.hashed
  rw [same.action, same.actorId, same.metadata]

theorem sameParts_of_plain (plain : Chain.PlainAction record.action)
    (otherPlain : Chain.PlainAction other.action) (same : record.hashed = other.hashed) :
    record.SameParts other := by
  have chars := congrArg String.toList same
  unfold hashed at chars
  simp only [String.toList_append, List.append_assoc] at chars
  obtain ⟨actions, actors, values⟩ := Chain.actions_apart plain otherPlain
    record.metadata.begins_text other.metadata.begins_text chars
  exact ⟨actions, actors, Json.text_injective (String.toList_inj.mp values)⟩

theorem sameParts_of_onePartApart (apart : record.OnePartApart other)
    (same : record.hashed = other.hashed) : record.SameParts other := by
  unfold hashed at same
  cases apart with
  | action actorId metadata =>
      rw [actorId, metadata, String.append_left_inj, String.append_left_inj] at same
      exact ⟨same, actorId, metadata⟩
  | actorId action metadata =>
      rw [action, metadata, String.append_left_inj, String.append_right_inj] at same
      exact ⟨action, Chain.actorText_injective same, metadata⟩
  | metadata action actorId =>
      rw [action, actorId, String.append_right_inj] at same
      exact ⟨action, actorId, Json.text_injective same⟩

/-- The hashed text has the three fields, unless a part of one can be taken for a part of
another: that takes two that differ, or an action that is not plain. -/
theorem hashed_eq_iff
    (told : Chain.PlainAction record.action ∧ Chain.PlainAction other.action ∨
      record.OnePartApart other) :
    record.hashed = other.hashed ↔ record.SameParts other := by
  refine ⟨?_, SameParts.hashed⟩
  intro same
  rcases told with ⟨plain, otherPlain⟩ | apart
  · exact sameParts_of_plain plain otherPlain same
  · exact sameParts_of_onePartApart apart same

end AuditRecord

/-! ### Altered trails -/

/-- Two texts that are told apart, but not by their digests. -/
def Sha256.Collide (left right : String) : Prop :=
  left ≠ right ∧ hexDigest left = hexDigest right

namespace AuditTrail

def altered (trail : AuditTrail) (position : Fin trail.entries.length) (record : AuditRecord) :
    List AuditEntry :=
  trail.entries.set position (trail.entries[position].altered record)

end AuditTrail

namespace Chain

/-- An entry put in the place of one that has the same hashes has to fit its own hash. -/
theorem linked_set_iff {previousHash : String} {entries : List AuditEntry} {entry : AuditEntry}
    {position : Nat} (linked : Linked previousHash entries) (inside : position < entries.length)
    (previous : entry.previousHash = entries[position].previousHash)
    (current : entry.currentHash = entries[position].currentHash) :
    Linked previousHash (entries.set position entry) ↔
      entry.calculatedHash = entries[position].calculatedHash := by
  induction entries generalizing previousHash position with
  | nil => cases inside
  | cons head rest ih =>
      obtain ⟨⟨continues, fits⟩, further⟩ := linked
      cases position with
      | zero =>
          replace previous : entry.previousHash = head.previousHash := previous
          replace current : entry.currentHash = head.currentHash := current
          show Continues previousHash entry ∧ Linked entry.currentHash rest ↔
            entry.calculatedHash = head.calculatedHash
          unfold Continues
          rw [previous, current, fits]
          exact ⟨fun linked => linked.1.2, fun same => ⟨⟨continues, same⟩, further⟩⟩
      | succ position =>
          have below : position < rest.length := Nat.lt_of_succ_lt_succ inside
          show Continues previousHash head ∧ Linked head.currentHash (rest.set position entry) ↔
            entry.calculatedHash = rest[position].calculatedHash
          rw [ih further below previous current]
          exact and_iff_right ⟨continues, fits⟩

end Chain

namespace AuditTrail

theorem isValid_verify_altered_iff {trail : AuditTrail} (sound : trail.Sound)
    (position : Fin trail.entries.length) (record : AuditRecord) :
    (Chain.verify (trail.altered position record)).isValid = true ↔
      record.hashed = trail.entries[position].record.hashed ∨
        Sha256.Collide (trail.entries[position].altered record).text
          trail.entries[position].text := by
  have fits : Chain.Linked Chain.genesisHash (trail.altered position record) ↔
      Sha256.hexDigest (trail.entries[position].altered record).text =
        Sha256.hexDigest trail.entries[position].text :=
    Chain.linked_set_iff sound.linked position.isLt rfl rfl
  rw [Chain.isValid_verify_iff, fits, ← AuditEntry.text_altered_eq_iff]
  unfold Sha256.Collide
  by_cases same : (trail.entries[position].altered record).text = trail.entries[position].text
  · rw [same]
    exact iff_of_true rfl (Or.inl rfl)
  · rw [or_iff_right same]
    exact (and_iff_right same).symm

end AuditTrail

namespace AuditDesk

theorem run_sound (ids : IdSupply) (calls : List AuditCall) :
    ((start ids).run calls).2.trail.Sound :=
  (run_follows (start_follows ids) calls).holds.sound

/-- Verification of an altered trail fails exactly when the hashed text of the entry has
changed and the digest tells the texts apart.  The text changes with the action, the actor
and the metadata if only one of them is altered, or if the actions are plain; the other
fields of the record may be altered at will. -/
theorem run_detects_hashed (ids : IdSupply) (calls : List AuditCall) :
    let trail := ((start ids).run calls).2.trail
    ∀ (position : Fin trail.entries.length) (record : AuditRecord),
      let entry := trail.entries[position]
      ((Chain.verify (trail.altered position record)).isValid = true ↔
          record.hashed = entry.record.hashed ∨
            Sha256.Collide (entry.altered record).text entry.text) ∧
        (Chain.PlainAction record.action ∧ Chain.PlainAction entry.record.action ∨
            record.OnePartApart entry.record →
          (record.hashed = entry.record.hashed ↔ record.SameParts entry.record)) := by
  intro trail position record entry
  exact ⟨AuditTrail.isValid_verify_altered_iff (run_sound ids calls) position record,
    AuditRecord.hashed_eq_iff⟩

def login : AuditRecord :=
  (AuditRecord.ofAction "auth.login.succeeded" (Uuid.numbered 1) Instant.epoch).withActor
    (some (Uuid.numbered 2))

def recorded (record : AuditRecord) : AuditTrail :=
  ((start IdSupply.numbered).run [.record Instant.epoch record]).2.trail

def only (record : AuditRecord) : Fin (recorded record).entries.length :=
  ⟨0, Nat.zero_lt_one⟩

theorem login_outcome_hashed :
    ({ login with action := "auth.login.failed" } : AuditRecord).hashed ≠ login.hashed := by
  have told := run_detects_hashed IdSupply.numbered [.record Instant.epoch login] (only login)
    { login with action := "auth.login.failed" }
  intro same
  have actions : "auth.login.failed" = "auth.login.succeeded" :=
    ((told.2 (Or.inr (.action rfl rfl))).mp same).action
  revert actions
  decide

theorem unhashed_unnoticed {record : AuditRecord} (same : record.hashed = login.hashed) :
    (Chain.verify ((recorded login).altered (only login) record)).isValid = true ∧
      ¬Sha256.Collide ((recorded login).entries[only login].altered record).text
        (recorded login).entries[only login].text := by
  constructor
  · apply (AuditTrail.isValid_verify_altered_iff (run_sound _ _) (only login) record).mpr
    exact Or.inl same
  · intro collide
    exact collide.1 ((AuditEntry.text_altered_eq_iff _ record).mpr same)

/-- Seven fields of a record do not reach the hashed text: each of them may be altered
alone, and verification does not notice. -/
theorem run_overlooks_unhashed :
    List.Forall (fun record : AuditRecord =>
      record ≠ (recorded login).entries[only login].record ∧
        (Chain.verify ((recorded login).altered (only login) record)).isValid = true ∧
        ¬Sha256.Collide ((recorded login).entries[only login].altered record).text
          (recorded login).entries[only login].text)
      [{ login with eventId := Uuid.numbered 3 },
        { login with resourceType := "session" },
        { login with resourceId := some "7" },
        { login with correlationId := some (Uuid.numbered 3) },
        { login with clientIp := some (.v4 ⟨127, 0, 0, 1⟩) },
        { login with userAgent := some "curl" },
        { login with occurredAt := { Instant.epoch with day := 1 } }] := by
  refine ⟨?_, ?_, ?_, ?_, ?_, ?_, ?_⟩
  · exact ⟨ne_of_apply_ne AuditRecord.eventId (by decide), unhashed_unnoticed rfl⟩
  · exact ⟨ne_of_apply_ne AuditRecord.resourceType (by decide), unhashed_unnoticed rfl⟩
  · exact ⟨ne_of_apply_ne AuditRecord.resourceId (by decide), unhashed_unnoticed rfl⟩
  · exact ⟨ne_of_apply_ne AuditRecord.correlationId (by decide), unhashed_unnoticed rfl⟩
  · exact ⟨ne_of_apply_ne AuditRecord.clientIp (by decide), unhashed_unnoticed rfl⟩
  · exact ⟨ne_of_apply_ne AuditRecord.userAgent (by decide), unhashed_unnoticed rfl⟩
  · exact ⟨ne_of_apply_ne AuditRecord.occurredAt (by decide), unhashed_unnoticed rfl⟩

end AuditDesk
end WorkflowBus
