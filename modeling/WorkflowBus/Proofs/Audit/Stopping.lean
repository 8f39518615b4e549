/-
What verification tells when it stops.

Verification of entries that make no chain stops at one position, and tells of the entry
there.  The number of entries that it gives as checked is a count only when it accepts
them: where it stops, it gives the sequence number of the entry, brought into 64 bits.
-/

import WorkflowBus.Proofs.Audit.Commitment
import WorkflowBus.Proofs.Audit.Verification

namespace WorkflowBus

namespace Verification

def entriesChecked : Verification → Nat
  | .valid entriesChecked => entriesChecked
  | .invalid entriesChecked .. => entriesChecked.toNat

def firstInvalid? : Verification → Option Uuid
  | .valid _ => none
  | .invalid _ firstInvalid .. => some firstInvalid

end Verification

namespace Chain

/-- The entry at a position is the first that does not continue the chain, and verification
tells of it. -/
structure StopsAt (entries : List AuditEntry) (position : Nat) : Prop where
  before : ∀ earlier < position, ContinuesAt entries earlier
  broken : ¬ContinuesAt entries position
  told : ∃ entry, entries[position]? = some entry ∧ (verify entries).isValid = false ∧
    (verify entries).firstInvalid? = some entry.id

theorem StopsAt.unique {entries : List AuditEntry} {position other : Nat}
    (stops : StopsAt entries position) (stopsToo : StopsAt entries other) :
    position = other := by
  rcases Nat.lt_trichotomy position other with before | same | behind
  · exact absurd (stopsToo.before position before) stops.broken
  · exact same
  · exact absurd (stops.before other behind) stopsToo.broken

variable {front : List AuditEntry} {entry : AuditEntry}

theorem verify_eq_invalid (linked : Linked genesisHash front)
    (broken : ¬Continues (hashAfter genesisHash front) entry) (rest : List AuditEntry) :
    ∃ expected actual, verify (front ++ entry :: rest) =
      .invalid (UInt64.ofInt entry.sequenceNumber) entry.id expected actual := by
  rw [verify, firstFault?_append linked, firstFault?]
  by_cases link : entry.previousHash = hashAfter genesisHash front
  · have unfit : entry.calculatedHash ≠ entry.currentHash := fun fits => broken ⟨link, fits⟩
    rw [if_neg (not_not_intro link), if_pos unfit]
    exact ⟨_, _, rfl⟩
  · rw [if_pos link]
    exact ⟨_, _, rfl⟩

theorem stopsAt_append_cons (linked : Linked genesisHash front)
    (broken : ¬Continues (hashAfter genesisHash front) entry) (rest : List AuditEntry) :
    StopsAt (front ++ entry :: rest) front.length where
  before := fun _earlier before => linked.continuesAt before (entry :: rest)
  broken := by
    rw [continuesAt_append_cons]
    exact broken
  told := by
    obtain ⟨expected, actual, told⟩ := verify_eq_invalid linked broken rest
    refine ⟨entry, getElem?_length_append_cons front entry rest, ?_, ?_⟩
    · rw [told]
      rfl
    · rw [told]
      rfl

theorem stopsAt_of_take {entries : List AuditEntry} {position : Nat}
    (linked : Linked genesisHash (entries.take position))
    (here : entries[position]? = some entry)
    (broken : ¬Continues (hashAfter genesisHash (entries.take position)) entry) :
    StopsAt entries position := by
  obtain ⟨inside, same⟩ := List.getElem?_eq_some_iff.mp here
  have length : (entries.take position).length = position := by
    rw [List.length_take, Nat.min_eq_left (Nat.le_of_lt inside)]
  have stops := stopsAt_append_cons linked broken (entries.drop (position + 1))
  rw [← same, List.getElem_cons_drop, List.take_append_drop, length] at stops
  exact stops

theorem toNat_ofInt (number : Int) :
    (UInt64.ofInt number).toNat = (number % 2 ^ 64).toNat := by
  rw [UInt64.ofInt, UInt64.toNat_ofNat']
  omega

/-- Of the numbers that an entry can carry only one comes to a given count. -/
theorem toNat_emod_eq_iff {number : Int} {count : Nat}
    (least : AuditEntry.leastSequenceNumber ≤ number)
    (most : number ≤ AuditEntry.mostSequenceNumber)
    (fits : (count : Int) ≤ AuditEntry.mostSequenceNumber) :
    (number % 2 ^ 64).toNat = count ↔ number = count := by
  unfold AuditEntry.leastSequenceNumber at least
  unfold AuditEntry.mostSequenceNumber at most fits
  omega

theorem exists_stopsAt {entries : List AuditEntry} (invalid : (verify entries).isValid = false) :
    ∃ position entry, StopsAt entries position ∧ entries[position]? = some entry ∧
      (verify entries).entriesChecked = (entry.sequenceNumber % 2 ^ 64).toNat := by
  have unlinked : ¬Linked genesisHash entries := by
    intro linked
    rw [(isValid_verify_iff entries).mpr linked] at invalid
    cases invalid
  obtain ⟨front, entry, rest, rfl, linked, broken⟩ := exists_broken unlinked
  refine ⟨front.length, entry, stopsAt_append_cons linked broken rest,
    getElem?_length_append_cons front entry rest, ?_⟩
  obtain ⟨expected, actual, told⟩ := verify_eq_invalid linked broken rest
  rw [told, ← toNat_ofInt]
  rfl

theorem StopsAt.entriesChecked_eq {entries : List AuditEntry} {position : Nat}
    {entry : AuditEntry} (stops : StopsAt entries position)
    (here : entries[position]? = some entry) :
    (verify entries).entriesChecked = (entry.sequenceNumber % 2 ^ 64).toNat := by
  obtain ⟨_entry, _here, invalid, _first⟩ := stops.told
  obtain ⟨other, found, stopsToo, there, counted⟩ := exists_stopsAt invalid
  cases stops.unique stopsToo
  cases here.symm.trans there
  exact counted

/-- All entries are counted when they are accepted.  Else verification stops at some
position, and what it gives as their number is the sequence number of the entry there; that
is the number of entries examined exactly if the entry is numbered by its place. -/
theorem verify_counts_by_number (entries : List AuditEntry) :
    ((verify entries).isValid = true → (verify entries).entriesChecked = entries.length) ∧
      ((verify entries).isValid = false → ∃ position, StopsAt entries position) ∧
      ∀ position entry, StopsAt entries position → entries[position]? = some entry →
        (verify entries).entriesChecked = (entry.sequenceNumber % 2 ^ 64).toNat ∧
          (AuditEntry.leastSequenceNumber ≤ entry.sequenceNumber →
            entry.sequenceNumber ≤ AuditEntry.mostSequenceNumber →
            (entries.length : Int) ≤ AuditEntry.mostSequenceNumber →
            ((verify entries).entriesChecked = position + 1 ↔
              entry.sequenceNumber = position + 1)) := by
  refine ⟨?_, ?_, ?_⟩
  · intro valid
    rw [verify_of_linked entries ((isValid_verify_iff entries).mp valid)]
    rfl
  · intro invalid
    obtain ⟨position, _entry, stops, _here, _counted⟩ := exists_stopsAt invalid
    exact ⟨position, stops⟩
  · intro position entry stops here
    refine ⟨stops.entriesChecked_eq here, ?_⟩
    intro least most fits
    have inside := (List.getElem?_eq_some_iff.mp here).1
    rw [stops.entriesChecked_eq here, toNat_emod_eq_iff least most (by omega), Nat.cast_succ]

def unlinked : List AuditEntry :=
  [.link (.numbered 1) 1 AuditDesk.login "" .epoch]

theorem verify_counts_unlinked :
    StopsAt unlinked 0 ∧ (unlinked.length : Int) ≤ AuditEntry.mostSequenceNumber ∧
      (verify unlinked).entriesChecked = 1 := by
  have stops : StopsAt unlinked 0 := by
    have nothing : Linked genesisHash (unlinked.take 0) := trivial
    apply stopsAt_of_take nothing rfl
    intro continues
    have linked : "" = genesisHash := continues.1
    exact absurd linked (by decide)
  have counted := (verify_counts_by_number unlinked).2.2 0 _ stops rfl
  exact ⟨stops, by decide, (counted.2 (by decide) (by decide) (by decide)).mpr rfl⟩

/-- The trail of two logins when the first entry has been removed. -/
def beheaded : List AuditEntry :=
  (AuditTrail.ofLogins AuditDesk.login).entries.eraseIdx 0

def renumbered (number : Int) : List AuditEntry :=
  (AuditTrail.ofLogins AuditDesk.login).entries.modifyHead
    fun entry => { entry with sequenceNumber := number }

theorem verify_miscounts :
    (StopsAt beheaded 0 ∧ beheaded.length = 1 ∧ (verify beheaded).entriesChecked = 2) ∧
      StopsAt (renumbered (-1)) 0 ∧ (renumbered (-1)).length = 2 ∧
        (verify (renumbered (-1))).entriesChecked = 18446744073709551615 := by
  have nothing (entries : List AuditEntry) : Linked genesisHash (entries.take 0) := trivial
  have first : StopsAt beheaded 0 := by
    apply stopsAt_of_take (nothing beheaded) rfl
    unfold Continues
    decide +kernel
  have second : StopsAt (renumbered (-1)) 0 := by
    apply stopsAt_of_take (nothing (renumbered (-1))) rfl
    unfold Continues
    decide +kernel
  exact ⟨⟨first, rfl, first.entriesChecked_eq rfl⟩, second, rfl, second.entriesChecked_eq rfl⟩

end Chain
end WorkflowBus
