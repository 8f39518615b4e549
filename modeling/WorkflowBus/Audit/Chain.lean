/-
The hash chain of the audit trail.

Every entry carries the hash of the entry before it, and a hash over its own
identifier, sequence number, action, actor and metadata together with that
previous hash.  `verify` walks a list of entries and stops at the first whose
link or whose own hash is not right.
-/

import WorkflowBus.Audit.Record
import WorkflowBus.Digest.Sha256

namespace WorkflowBus

namespace Chain

def genesisHash : String :=
  String.ofList (List.replicate 64 '0')

/-- The text that an entry's hash is taken of. -/
def linkText (id : Uuid) (sequenceNumber : Int) (action : String) (actorId : Option Uuid)
    (metadataText previousHash : String) : String :=
  id.text ++ toString sequenceNumber ++ action ++ (actorId.map Uuid.text).getD "" ++
    metadataText ++ previousHash

def linkHash (id : Uuid) (sequenceNumber : Int) (action : String) (actorId : Option Uuid)
    (metadataText previousHash : String) : String :=
  Sha256.hexDigest (linkText id sequenceNumber action actorId metadataText previousHash)

end Chain

/-- An entry of the trail.  Its sequence number is a signed 64-bit integer. -/
structure AuditEntry where
  id : Uuid
  sequenceNumber : Int
  record : AuditRecord
  previousHash : String
  currentHash : String
  recordedAt : Instant

namespace AuditEntry

def calculatedHash (entry : AuditEntry) : String :=
  Chain.linkHash entry.id entry.sequenceNumber entry.record.action entry.record.actorId
    entry.record.metadata.text entry.previousHash

def link (id : Uuid) (sequenceNumber : Int) (record : AuditRecord) (previousHash : String)
    (recordedAt : Instant) : AuditEntry where
  id := id
  sequenceNumber := sequenceNumber
  record := record
  previousHash := previousHash
  currentHash :=
    Chain.linkHash id sequenceNumber record.action record.actorId record.metadata.text previousHash
  recordedAt := recordedAt

/-- The members of an entry's object except the time at which it was recorded. -/
def chainedMembers (entry : AuditEntry) : List (String × Json) :=
  [("id", entry.id.toJson), ("sequence_number", .int entry.sequenceNumber),
    ("record", entry.record.toJson), ("previous_hash", .str entry.previousHash),
    ("current_hash", .str entry.currentHash)]

def toJson (entry : AuditEntry) : Json :=
  .obj (entry.chainedMembers ++ [("recorded_at", entry.recordedAt.toJson)])

def leastSequenceNumber : Int := -9223372036854775808
def mostSequenceNumber : Int := 9223372036854775807

def ofJson? (json : Json) : Option AuditEntry := do
  match ← json.fields?
      ["id", "sequence_number", "record", "previous_hash", "current_hash", "recorded_at"] with
  | [id, sequenceNumber, record, previousHash, currentHash, recordedAt] =>
      return {
        id := ← Json.required? Uuid.ofJson? id
        sequenceNumber := ←
          Json.required? (Json.intBetween? leastSequenceNumber mostSequenceNumber) sequenceNumber
        record := ← Json.required? AuditRecord.ofJson? record
        previousHash := ← Json.required? Json.text? previousHash
        currentHash := ← Json.required? Json.text? currentHash
        recordedAt := ← Json.required? Instant.ofJson? recordedAt }
  | _ => none

end AuditEntry

inductive Verification where
  | valid (entriesChecked : Nat)
  | invalid (entriesChecked : UInt64) (firstInvalidEntry : Uuid) (expected actual : String)
deriving DecidableEq

namespace Verification

def isValid : Verification → Bool
  | .valid _ => true
  | .invalid .. => false

def toJson : Verification → Json
  | .valid entriesChecked =>
      .obj [("is_valid", .bool true), ("entries_checked", .ofCount entriesChecked),
        ("first_invalid_entry", .null), ("expected_hash", .null), ("actual_hash", .null)]
  | .invalid entriesChecked firstInvalidEntry expected actual =>
      .obj [("is_valid", .bool false), ("entries_checked", .ofCount entriesChecked.toNat),
        ("first_invalid_entry", firstInvalidEntry.toJson), ("expected_hash", .str expected),
        ("actual_hash", .str actual)]

end Verification

namespace Chain

/-- The first fault of a chain that continues after `previousHash`: a broken link,
then a hash that does not fit its entry.  The fault is reported with the entry's
sequence number, brought into 64 bits. -/
def firstFault? (previousHash : String) : List AuditEntry → Option Verification
  | [] => none
  | entry :: rest =>
      if entry.previousHash ≠ previousHash then
        some (.invalid (UInt64.ofInt entry.sequenceNumber) entry.id previousHash
          entry.previousHash)
      else if entry.calculatedHash ≠ entry.currentHash then
        some (.invalid (UInt64.ofInt entry.sequenceNumber) entry.id entry.calculatedHash
          entry.currentHash)
      else firstFault? entry.currentHash rest

/-- Verifies any list of entries from the genesis hash onwards. -/
def verify (entries : List AuditEntry) : Verification :=
  (firstFault? genesisHash entries).getD (.valid entries.length)

def lastHash (entries : List AuditEntry) : String :=
  (entries.getLast?.map AuditEntry.currentHash).getD genesisHash

end Chain
end WorkflowBus
