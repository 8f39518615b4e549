/-
Chains of audit entries.

A list of entries is linked from a hash when every entry carries the hash before
it and a hash of its own that fits its content.  Verification accepts exactly the
lists that are linked from the genesis hash, and appending to a trail keeps its
entries linked and numbered from one upwards without a gap.
-/

import WorkflowBus.Audit.Trail

namespace WorkflowBus

namespace Chain

def Continues (previousHash : String) (entry : AuditEntry) : Prop :=
  entry.previousHash = previousHash ∧ entry.calculatedHash = entry.currentHash

/-- Every entry continues the chain that the entries before it make. -/
def Linked : (previousHash : String) → List AuditEntry → Prop
  | _, [] => True
  | previousHash, entry :: rest =>
      Continues previousHash entry ∧ Linked entry.currentHash rest

def hashAfter (previousHash : String) (entries : List AuditEntry) : String :=
  (entries.getLast?.map AuditEntry.currentHash).getD previousHash

theorem hashAfter_cons (previousHash : String) (entry : AuditEntry) (rest : List AuditEntry) :
    hashAfter previousHash (entry :: rest) = hashAfter entry.currentHash rest := by
  cases rest with
  | nil => rfl
  | cons next rest =>
      simp only [hashAfter, List.getLast?_cons_cons]
      cases last : (next :: rest).getLast? with
      | none => cases List.getLast?_eq_none_iff.mp last
      | some entry => rfl

theorem linked_append (previousHash : String) (first second : List AuditEntry) :
    Linked previousHash (first ++ second) ↔
      Linked previousHash first ∧ Linked (hashAfter previousHash first) second := by
  induction first generalizing previousHash with
  | nil => exact (and_iff_right trivial).symm
  | cons entry rest ih =>
      rw [hashAfter_cons, List.cons_append]
      simp only [Linked]
      rw [ih, and_assoc]

theorem firstFault?_eq_none_iff (previousHash : String) (entries : List AuditEntry) :
    firstFault? previousHash entries = none ↔ Linked previousHash entries := by
  induction entries generalizing previousHash with
  | nil => exact iff_of_true rfl trivial
  | cons entry rest ih =>
      simp only [firstFault?, Linked, Continues]
      by_cases link : entry.previousHash = previousHash
      · by_cases fits : entry.calculatedHash = entry.currentHash
        · rw [if_neg (not_not_intro link), if_neg (not_not_intro fits), ih]
          exact (and_iff_right ⟨link, fits⟩).symm
        · rw [if_neg (not_not_intro link), if_pos fits]
          exact iff_of_false (Option.some_ne_none _) (fun linked => fits linked.1.2)
      · rw [if_pos link]
        exact iff_of_false (Option.some_ne_none _) (fun linked => link linked.1.1)

theorem not_isValid_of_firstFault? (previousHash : String) (entries : List AuditEntry)
    {fault : Verification} (found : firstFault? previousHash entries = some fault) :
    fault.isValid = false := by
  induction entries generalizing previousHash with
  | nil => cases found
  | cons entry rest ih =>
      unfold firstFault? at found
      split at found
      · cases found
        rfl
      · split at found
        · cases found
          rfl
        · exact ih entry.currentHash found

theorem isValid_verify_iff (entries : List AuditEntry) :
    (verify entries).isValid = true ↔ Linked genesisHash entries := by
  rw [← firstFault?_eq_none_iff]
  unfold verify
  cases found : firstFault? genesisHash entries with
  | none => exact iff_of_true rfl rfl
  | some fault =>
      refine iff_of_false ?_ (Option.some_ne_none fault)
      rw [Option.getD_some, not_isValid_of_firstFault? genesisHash entries found]
      exact Bool.false_ne_true

theorem verify_of_linked (entries : List AuditEntry) (linked : Linked genesisHash entries) :
    verify entries = .valid entries.length := by
  unfold verify
  rw [(firstFault?_eq_none_iff genesisHash entries).mpr linked]
  rfl

end Chain

theorem AuditEntry.continues_link (id : Uuid) (sequenceNumber : Int) (record : AuditRecord)
    (previousHash : String) (recordedAt : Instant) :
    Chain.Continues previousHash (.link id sequenceNumber record previousHash recordedAt) :=
  ⟨rfl, rfl⟩

namespace AuditTrail

def contents (trail : AuditTrail) : List (Uuid × AuditRecord) :=
  trail.entries.map fun entry => (entry.id, entry.record)

/-- The entries of a trail are linked from the genesis hash, and numbered from one
upwards in their order. -/
structure Sound (trail : AuditTrail) : Prop where
  linked : Chain.Linked Chain.genesisHash trail.entries
  numbered : trail.entries.map AuditEntry.sequenceNumber =
    (List.range trail.entries.length).map fun position : Nat => (position : Int) + 1

theorem sound_empty : Sound empty where
  linked := trivial
  numbered := rfl

theorem append_sound (trail : AuditTrail) (now : Instant) (id : Uuid) (record : AuditRecord)
    (sound : trail.Sound) : (trail.append now id record).Sound where
  linked := by
    simp only [append]
    rw [Chain.linked_append]
    exact ⟨sound.linked, AuditEntry.continues_link _ _ _ _ _, trivial⟩
  numbered := by
    simp only [append, List.map_append, List.length_append, List.map_cons, List.map_nil,
      List.length_cons, List.length_nil]
    rw [sound.numbered, List.range_succ, List.map_append]
    rfl

theorem append_contents (trail : AuditTrail) (now : Instant) (id : Uuid) (record : AuditRecord) :
    (trail.append now id record).contents = trail.contents ++ [(id, record)] := by
  simp only [contents, append, List.map_append, List.map_cons, List.map_nil]
  rfl

def appendAll (trail : AuditTrail) (now : Instant) (records : List (Uuid × AuditRecord)) :
    AuditTrail :=
  records.foldl (fun trail (id, record) => trail.append now id record) trail

theorem appendAll_outage (trail : AuditTrail) (now : Instant)
    (records : List (Uuid × AuditRecord)) :
    (trail.appendAll now records).outage = trail.outage := by
  induction records generalizing trail with
  | nil => rfl
  | cons first rest ih => exact ih (trail.append now first.1 first.2)

theorem appendAll_sound (trail : AuditTrail) (now : Instant)
    (records : List (Uuid × AuditRecord)) (sound : trail.Sound) :
    (trail.appendAll now records).Sound := by
  induction records generalizing trail with
  | nil => exact sound
  | cons first rest ih =>
      exact ih (trail.append now first.1 first.2) (append_sound trail now first.1 first.2 sound)

theorem appendAll_contents (trail : AuditTrail) (now : Instant)
    (records : List (Uuid × AuditRecord)) :
    (trail.appendAll now records).contents = trail.contents ++ records := by
  induction records generalizing trail with
  | nil => exact (List.append_nil _).symm
  | cons first rest ih =>
      have appended := ih (trail.append now first.1 first.2)
      rw [append_contents, List.append_assoc] at appended
      exact appended

theorem records_appendAll (trail : AuditTrail) (now : Instant)
    (written : List (Uuid × AuditRecord)) :
    (trail.appendAll now written).entries.map AuditEntry.record =
      trail.entries.map AuditEntry.record ++ written.map Prod.snd := by
  have same := congrArg (List.map Prod.snd) (trail.appendAll_contents now written)
  rw [contents, List.map_append, contents, List.map_map, List.map_map] at same
  exact same

theorem entries_isPrefix_appendAll (trail : AuditTrail) (now : Instant)
    (records : List (Uuid × AuditRecord)) :
    trail.entries <+: (trail.appendAll now records).entries := by
  induction records generalizing trail with
  | nil => exact List.prefix_refl _
  | cons first rest ih =>
      have one : trail.entries <+: (trail.append now first.1 first.2).entries :=
        List.prefix_append _ _
      exact one.trans (ih (trail.append now first.1 first.2))

end AuditTrail
end WorkflowBus
