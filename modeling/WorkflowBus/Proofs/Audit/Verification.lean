/-
Where verification of a chain stops.

Verification accepts a list of entries exactly when at every position the entry carries the
hash that the chain has reached there, and a hash of its own that fits its content.  Of any
other list it tells the first position where one of the two fails.  The lists need not come
from a trail: they may have been altered in any way.
-/

import WorkflowBus.Proofs.Audit.Chain

namespace WorkflowBus
namespace Chain

/-- The hash that the chain has reached before a position: the one that the entry before it
has, and the genesis hash before the first. -/
def hashBefore (entries : List AuditEntry) : (position : Nat) → String
  | 0 => genesisHash
  | position + 1 => (entries[position]?.map AuditEntry.currentHash).getD genesisHash

/-- The entry at a position continues the chain that the entries before it make: it carries
the hash that the chain has reached, and its own hash is that of its content and of the hash
that it carries. -/
def ContinuesAt (entries : List AuditEntry) (position : Nat) : Prop :=
  ∃ entry, entries[position]? = some entry ∧
    entry.previousHash = hashBefore entries position ∧
    linkHash entry.id entry.sequenceNumber entry.record.action entry.record.actorId
      entry.record.metadata.text entry.previousHash = entry.currentHash

theorem hashAfter_take (entries : List AuditEntry) {position : Nat}
    (inside : position ≤ entries.length) :
    hashAfter genesisHash (entries.take position) = hashBefore entries position := by
  cases position with
  | zero => rfl
  | succ position =>
      have present : entries[position]? = some entries[position] :=
        List.getElem?_eq_getElem inside
      rw [hashAfter, hashBefore, List.getLast?_take, if_neg (Nat.succ_ne_zero position),
        Nat.add_sub_cancel, present]
      rfl

theorem getElem?_length_append_cons (front : List AuditEntry) (entry : AuditEntry)
    (rest : List AuditEntry) : (front ++ entry :: rest)[front.length]? = some entry := by
  rw [List.getElem?_append_right (Nat.le_refl _), Nat.sub_self, List.getElem?_cons_zero]

theorem continuesAt_append_cons (front : List AuditEntry) (entry : AuditEntry)
    (rest : List AuditEntry) :
    ContinuesAt (front ++ entry :: rest) front.length ↔
      Continues (hashAfter genesisHash front) entry := by
  have inside : front.length ≤ (front ++ entry :: rest).length := by
    rw [List.length_append]
    exact Nat.le_add_right _ _
  have here := getElem?_length_append_cons front entry rest
  rw [ContinuesAt, ← hashAfter_take _ inside, List.take_left]
  constructor
  · intro ⟨other, found, continues⟩
    rw [here] at found
    cases found
    exact continues
  · intro continues
    exact ⟨entry, here, continues⟩

/-- What is told of an entry that does not continue the chain, when the chain has reached a
hash: if the entry is not linked to that hash, the two previous hashes, and if it is, the
hash of its content and the one that it has. -/
inductive Fault (reached : String) (entry : AuditEntry) : Verification → Prop where
  | link (checked : UInt64) (unlinked : entry.previousHash ≠ reached) :
      Fault reached entry (.invalid checked entry.id reached entry.previousHash)
  | content (checked : UInt64) (hash : String) (linked : entry.previousHash = reached)
      (recomputed : hash = linkHash entry.id entry.sequenceNumber entry.record.action
        entry.record.actorId entry.record.metadata.text entry.previousHash)
      (unfit : hash ≠ entry.currentHash) :
      Fault reached entry (.invalid checked entry.id hash entry.currentHash)

theorem firstFault?_append {previousHash : String} {front : List AuditEntry}
    (linked : Linked previousHash front) (rest : List AuditEntry) :
    firstFault? previousHash (front ++ rest) =
      firstFault? (hashAfter previousHash front) rest := by
  induction front generalizing previousHash with
  | nil => rfl
  | cons entry front ih =>
      obtain ⟨⟨link, fits⟩, further⟩ := linked
      rw [List.cons_append, firstFault?, if_neg (not_not_intro link),
        if_neg (not_not_intro fits), hashAfter_cons]
      exact ih further

theorem firstFault?_cons {previousHash : String} {entry : AuditEntry}
    (broken : ¬Continues previousHash entry) (rest : List AuditEntry) :
    ∃ fault, firstFault? previousHash (entry :: rest) = some fault ∧
      Fault previousHash entry fault := by
  unfold firstFault?
  by_cases link : entry.previousHash = previousHash
  · have unfit : entry.calculatedHash ≠ entry.currentHash := fun fits => broken ⟨link, fits⟩
    rw [if_neg (not_not_intro link), if_pos unfit]
    exact ⟨_, rfl, .content _ _ link rfl unfit⟩
  · rw [if_pos link]
    exact ⟨_, rfl, .link _ link⟩

/-- Whatever stands behind the first entry that does not continue the chain, that entry is
the one that verification tells of. -/
theorem verify_append_cons {front : List AuditEntry} (linked : Linked genesisHash front)
    {entry : AuditEntry} (broken : ¬Continues (hashAfter genesisHash front) entry)
    (rest : List AuditEntry) :
    Fault (hashAfter genesisHash front) entry (verify (front ++ entry :: rest)) := by
  obtain ⟨fault, found, told⟩ := firstFault?_cons broken rest
  rw [verify, firstFault?_append linked, found]
  exact told

/-- A list that is not linked has a longest linked beginning. -/
theorem exists_broken {previousHash : String} {entries : List AuditEntry}
    (unlinked : ¬Linked previousHash entries) :
    ∃ front entry rest, entries = front ++ entry :: rest ∧ Linked previousHash front ∧
      ¬Continues (hashAfter previousHash front) entry := by
  induction entries generalizing previousHash with
  | nil => exact absurd trivial unlinked
  | cons entry rest ih =>
      by_cases continues : Continues previousHash entry
      · have further : ¬Linked entry.currentHash rest := fun linked => unlinked ⟨continues, linked⟩
        obtain ⟨front, broken, behind, split, linked, fails⟩ := ih further
        refine ⟨entry :: front, broken, behind, ?_, ⟨continues, linked⟩, ?_⟩
        · rw [split, List.cons_append]
        · rw [hashAfter_cons]
          exact fails
      · exact ⟨[], entry, rest, rfl, trivial, continues⟩

theorem Linked.isPrefix {previousHash : String} {front entries : List AuditEntry}
    (linked : Linked previousHash entries) (isPrefix : front <+: entries) :
    Linked previousHash front := by
  obtain ⟨rest, rfl⟩ := isPrefix
  exact ((linked_append previousHash front rest).mp linked).1

theorem Linked.continuesAt {front : List AuditEntry} (linked : Linked genesisHash front)
    {position : Nat} (inside : position < front.length) (rest : List AuditEntry) :
    ContinuesAt (front ++ rest) position := by
  have split : front.take position ++ front[position] :: front.drop (position + 1) = front := by
    rw [List.getElem_cons_drop, List.take_append_drop]
  have length : (front.take position).length = position := by
    rw [List.length_take, Nat.min_eq_left (Nat.le_of_lt inside)]
  rw [← split] at linked
  have continues := ((linked_append _ _ _).mp linked).2.1
  rw [← continuesAt_append_cons _ _ (front.drop (position + 1) ++ rest), ← List.cons_append,
    ← List.append_assoc, split, length] at continues
  exact continues

theorem linked_iff_continuesAt (entries : List AuditEntry) :
    Linked genesisHash entries ↔
      ∀ position < entries.length, ContinuesAt entries position := by
  constructor
  · intro linked position inside
    have continues := linked.continuesAt inside []
    rw [List.append_nil] at continues
    exact continues
  · intro continues
    apply Classical.byContradiction
    intro unlinked
    obtain ⟨front, entry, rest, rfl, _linked, broken⟩ := exists_broken unlinked
    refine broken ((continuesAt_append_cons front entry rest).mp (continues _ ?_))
    rw [List.length_append, List.length_cons]
    omega

/-- Verification is exact, whatever the entries are.  It accepts them when each continues
the chain at its position; if it does not, the entry that it tells of stands at the least
position where that fails, and it tells what is wrong there; and it accepts every beginning
of what it accepts. -/
theorem verify_exact (entries : List AuditEntry) :
    ((verify entries).isValid = true ↔
        ∀ position < entries.length, ContinuesAt entries position) ∧
      ((verify entries).isValid = false →
        ∃ position entry, entries[position]? = some entry ∧ ¬ContinuesAt entries position ∧
          (∀ earlier < position, ContinuesAt entries earlier) ∧
          Fault (hashBefore entries position) entry (verify entries)) ∧
      ∀ front, front <+: entries → (verify entries).isValid = true →
        (verify front).isValid = true := by
  refine ⟨?_, ?_, ?_⟩
  · rw [isValid_verify_iff, linked_iff_continuesAt]
  · intro invalid
    have unlinked : ¬Linked genesisHash entries := by
      intro linked
      rw [(isValid_verify_iff entries).mpr linked] at invalid
      cases invalid
    obtain ⟨front, entry, rest, rfl, linked, broken⟩ := exists_broken unlinked
    have inside : front.length ≤ (front ++ entry :: rest).length := by
      rw [List.length_append]
      exact Nat.le_add_right _ _
    refine ⟨front.length, entry, getElem?_length_append_cons front entry rest, ?_, ?_, ?_⟩
    · rw [continuesAt_append_cons]
      exact broken
    · intro earlier before
      exact linked.continuesAt before (entry :: rest)
    · rw [← hashAfter_take _ inside, List.take_left]
      exact verify_append_cons linked broken rest
  · intro front isPrefix valid
    rw [isValid_verify_iff] at valid ⊢
    exact valid.isPrefix isPrefix

end Chain
end WorkflowBus
