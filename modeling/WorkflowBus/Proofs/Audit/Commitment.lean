/-
What the last hash of a chain says of the entries before it.

Two lists of entries that verification accepts and that end in the same hash have the same
hashed content at every position, unless the hashed texts themselves break the digest: two of
them collide, or one has the genesis hash as its digest.  A collision is a conclusion here and
never a hypothesis, since no digest of fixed length tells all texts apart.
-/

import WorkflowBus.Proofs.Audit.Tampering

namespace WorkflowBus

namespace Sha256

theorem length_digest (message : List UInt8) : (digest message).length = 32 := by
  simp only [digest, List.flatMap_cons, List.flatMap_nil, List.length_append, wordBytes,
    List.length_cons, List.length_nil]

theorem length_hexDigest (text : String) : (hexDigest text).length = 64 := by
  have two : ∀ byte : UInt8, (Hex.ofByte byte).length = 2 := fun _ => rfl
  rw [hexDigest, String.length_ofList, List.length_flatMap,
    List.map_congr_left fun byte _member => two byte, List.map_const', List.sum_replicate,
    length_digest]
  rfl

end Sha256

namespace AuditEntry

/-- What stands in the hashed text between the identifier and the previous hash. -/
def content (entry : AuditEntry) : String :=
  Chain.linkContent entry.sequenceNumber entry.record.action entry.record.actorId
    entry.record.metadata.text

/-- Two entries carry the same hashes, and the same has been hashed of them. -/
structure SameLink (entry other : AuditEntry) : Prop where
  id : entry.id = other.id
  content : entry.content = other.content
  previousHash : entry.previousHash = other.previousHash
  currentHash : entry.currentHash = other.currentHash

theorem sameLink_of_text {entry other : AuditEntry} (same : entry.text = other.text)
    (width : entry.previousHash.length = 64) (otherWidth : other.previousHash.length = 64)
    (current : entry.currentHash = other.currentHash) : entry.SameLink other := by
  unfold text at same
  rw [Chain.linkText_eq, Chain.linkText_eq] at same
  obtain ⟨ids, contents, previous⟩ :=
    (Chain.append_inj_of_lengths (entry.id.length_text.trans other.id.length_text.symm)
      (width.trans otherWidth.symm)).mp same
  exact ⟨Uuid.text_injective ids, contents, previous, current⟩

end AuditEntry

namespace Chain

/-- Two of the texts collide, or one of them has the genesis hash as its digest. -/
def Compromised (texts : List String) : Prop :=
  (∃ first ∈ texts, ∃ second ∈ texts, Sha256.Collide first second) ∨
    ∃ text ∈ texts, Sha256.hexDigest text = genesisHash

theorem Compromised.mono {texts more : List String} (compromised : Compromised texts)
    (within : texts ⊆ more) : Compromised more := by
  rcases compromised with ⟨first, inFirst, second, inSecond, collide⟩ | ⟨text, member, reached⟩
  · exact Or.inl ⟨first, within inFirst, second, within inSecond, collide⟩
  · exact Or.inr ⟨text, within member, reached⟩

theorem hashAfter_concat (previousHash : String) (entries : List AuditEntry) (last : AuditEntry) :
    hashAfter previousHash (entries ++ [last]) = last.currentHash := by
  simp only [hashAfter, List.getLast?_append, List.getLast?_singleton, Option.some_or,
    Option.map_some, Option.getD_some]

theorem linked_concat {previousHash : String} {entries : List AuditEntry} {last : AuditEntry} :
    Linked previousHash (entries ++ [last]) ↔
      Linked previousHash entries ∧ last.previousHash = hashAfter previousHash entries ∧
        Sha256.hexDigest last.text = last.currentHash := by
  rw [linked_append]
  exact and_congr_right fun _linked => and_iff_left trivial

theorem length_hashAfter {entries : List AuditEntry} (linked : Linked genesisHash entries) :
    (hashAfter genesisHash entries).length = 64 := by
  induction entries using List.reverseRecOn with
  | nil => rfl
  | append_singleton entries last _ih =>
      rw [hashAfter_concat, ← (linked_concat.mp linked).2.2]
      exact Sha256.length_hexDigest last.text

/-- A chain with entries comes back to the genesis hash only by a digest. -/
theorem compromised_of_genesis {entries : List AuditEntry} {last : AuditEntry}
    (linked : Linked genesisHash (entries ++ [last])) (back : last.currentHash = genesisHash) :
    Compromised ((entries ++ [last]).map AuditEntry.text) := by
  obtain ⟨_earlier, _previous, fits⟩ := linked_concat.mp linked
  refine Or.inr ⟨last.text, List.mem_map_of_mem ?_, fits.trans back⟩
  exact List.mem_append_right entries List.mem_cons_self

theorem links_or_compromised {left right : List AuditEntry}
    (leftLinked : Linked genesisHash left) (rightLinked : Linked genesisHash right)
    (same : hashAfter genesisHash left = hashAfter genesisHash right) :
    List.Forall₂ AuditEntry.SameLink left right ∨
      Compromised ((left ++ right).map AuditEntry.text) := by
  -- Both chains are walked back from their ends; one that ends first leaves the other with
  -- an entry whose hash is the genesis hash.
  induction left using List.reverseRecOn generalizing right with
  | nil =>
      rcases right.eq_nil_or_concat' with rfl | ⟨right, other, rfl⟩
      · exact Or.inl .nil
      · rw [hashAfter_concat] at same
        exact Or.inr (compromised_of_genesis rightLinked same.symm)
  | append_singleton left last ih =>
      rcases right.eq_nil_or_concat' with rfl | ⟨right, other, rfl⟩
      · rw [hashAfter_concat] at same
        rw [List.append_nil]
        exact Or.inr (compromised_of_genesis leftLinked same)
      · obtain ⟨leftBefore, leftPrevious, leftFits⟩ := linked_concat.mp leftLinked
        obtain ⟨rightBefore, rightPrevious, rightFits⟩ := linked_concat.mp rightLinked
        rw [hashAfter_concat, hashAfter_concat] at same
        by_cases texts : last.text = other.text
        · have link : last.SameLink other := AuditEntry.sameLink_of_text texts
            (leftPrevious ▸ length_hashAfter leftBefore)
            (rightPrevious ▸ length_hashAfter rightBefore) same
          have before : hashAfter genesisHash left = hashAfter genesisHash right := by
            rw [← leftPrevious, ← rightPrevious]
            exact link.previousHash
          rcases ih leftBefore rightBefore before with links | compromised
          · exact Or.inl (List.rel_append links (.cons link .nil))
          · have within :=
              (List.sublist_append_left left [last]).append (List.sublist_append_left right [other])
            exact Or.inr (compromised.mono (within.map _).subset)
        · refine Or.inr (Or.inl ⟨last.text, List.mem_map_of_mem ?_, other.text,
            List.mem_map_of_mem ?_, texts, leftFits.trans (same.trans rightFits.symm)⟩)
          · exact List.mem_append_left _ (List.mem_append_right left List.mem_cons_self)
          · exact List.mem_append_right _ (List.mem_append_right right List.mem_cons_self)

/-- The last hash commits to the history.  Two lists of entries of any lengths that are
verified and end in the same hash (for a list without entries, the genesis hash) have equally
many entries, which agree one by one in their identifiers, their two hashes, and the text of
sequence number, action, actor and metadata; or else among the texts hashed in the two lists
two collide, or one has the genesis hash as its digest. -/
theorem verify_commits (left right : List AuditEntry)
    (leftValid : (verify left).isValid = true) (rightValid : (verify right).isValid = true)
    (same : lastHash left = lastHash right) :
    List.Forall₂ AuditEntry.SameLink left right ∨
      Compromised ((left ++ right).map AuditEntry.text) :=
  links_or_compromised ((isValid_verify_iff left).mp leftValid)
    ((isValid_verify_iff right).mp rightValid) same

end Chain

namespace AuditTrail

def ofLogins (first : AuditRecord) : AuditTrail :=
  (empty.append .epoch (.numbered 1) first).append .epoch (.numbered 2) AuditDesk.login

theorem isValid_verify_ofLogins (first : AuditRecord) :
    (Chain.verify (ofLogins first).entries).isValid = true :=
  (Chain.isValid_verify_iff _).mpr
    (append_sound _ _ _ _ (append_sound _ _ _ _ sound_empty)).linked

/-- The time of the first of two logins does not reach the last hash; what does is shared. -/
theorem ofLogins_share_links :
    let later : AuditRecord :=
      { AuditDesk.login with occurredAt := { Instant.epoch with day := 1 } }
    let left := (ofLogins AuditDesk.login).entries
    let right := (ofLogins later).entries
    (Chain.verify left).isValid = true ∧ (Chain.verify right).isValid = true ∧
      Chain.lastHash left = Chain.lastHash right ∧ left ≠ right ∧
      (List.Forall₂ AuditEntry.SameLink left right ∨
        Chain.Compromised ((left ++ right).map AuditEntry.text)) := by
  intro later left right
  have leftValid := isValid_verify_ofLogins AuditDesk.login
  have rightValid := isValid_verify_ofLogins later
  have same : Chain.lastHash left = Chain.lastHash right := rfl
  refine ⟨leftValid, rightValid, same, ?_,
    Chain.verify_commits left right leftValid rightValid same⟩
  intro equal
  have days := congrArg (List.map fun entry => entry.record.occurredAt.day) equal
  cases days

end AuditTrail
end WorkflowBus
