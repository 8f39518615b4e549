/-
Where tampering is noticed.

Verification of a trail that has been tampered with stops where that was done: at an entry of
which one hashed part or one hash has been changed, and at the place of an entry that has been
removed or put elsewhere.  As in a commitment, the other case is that the digest itself is
broken by one of the texts involved.
-/

import WorkflowBus.Proofs.Audit.Stopping

namespace WorkflowBus

namespace AuditEntry

/-- The entry with another value in one of the parts that verification looks at. -/
inductive PartChanged (entry : AuditEntry) : AuditEntry → Prop
  | id (id : Uuid) (changed : id ≠ entry.id) : PartChanged entry { entry with id := id }
  | sequenceNumber (number : Int) (changed : number ≠ entry.sequenceNumber) :
      PartChanged entry { entry with sequenceNumber := number }
  | action (action : String) (changed : action ≠ entry.record.action) :
      PartChanged entry (entry.altered { entry.record with action := action })
  | actorId (actorId : Option Uuid) (changed : actorId ≠ entry.record.actorId) :
      PartChanged entry (entry.altered { entry.record with actorId := actorId })
  | metadata (metadata : Json) (changed : metadata.text ≠ entry.record.metadata.text) :
      PartChanged entry (entry.altered { entry.record with metadata := metadata })
  | previousHash (hash : String) (changed : hash ≠ entry.previousHash) :
      PartChanged entry { entry with previousHash := hash }
  | currentHash (hash : String) (changed : hash ≠ entry.currentHash) :
      PartChanged entry { entry with currentHash := hash }

variable {entry altered : AuditEntry}

theorem text_ne_of_id {id : Uuid} (changed : id ≠ entry.id) :
    ({ entry with id := id } : AuditEntry).text ≠ entry.text := by
  rw [text_eq, text_eq]
  intro same
  rw [String.append_left_inj, String.append_left_inj, String.append_left_inj] at same
  exact changed (Uuid.text_injective same)

theorem text_ne_of_sequenceNumber {number : Int} (changed : number ≠ entry.sequenceNumber) :
    ({ entry with sequenceNumber := number } : AuditEntry).text ≠ entry.text := by
  rw [text_eq, text_eq]
  intro same
  rw [String.append_left_inj, String.append_left_inj, String.append_right_inj] at same
  exact changed (Int.repr_inj.mp same)

/-- Another text behind the same hash is noticed unless the two collide. -/
theorem not_continues_of_text {reached : String} (continues : Chain.Continues reached entry)
    (different : altered.text ≠ entry.text) (current : altered.currentHash = entry.currentHash)
    (apart : ¬Sha256.Collide altered.text entry.text) : ¬Chain.Continues reached altered := by
  intro continuesToo
  have digests : Sha256.hexDigest altered.text = Sha256.hexDigest entry.text :=
    continuesToo.2.trans (current.trans continues.2.symm)
  exact apart ⟨different, digests⟩

theorem not_continues_of_onePartApart {reached : String}
    (continues : Chain.Continues reached entry) {record : AuditRecord}
    (onePart : record.OnePartApart entry.record) (changed : ¬record.SameParts entry.record)
    (apart : ¬Sha256.Collide (entry.altered record).text entry.text) :
    ¬Chain.Continues reached (entry.altered record) := by
  have different : (entry.altered record).text ≠ entry.text := by
    rw [Ne, text_altered_eq_iff]
    exact fun same => changed (AuditRecord.sameParts_of_onePartApart onePart same)
  exact not_continues_of_text continues different rfl apart

theorem PartChanged.not_continues (changed : entry.PartChanged altered) {reached : String}
    (continues : Chain.Continues reached entry)
    (apart : ¬Sha256.Collide altered.text entry.text) : ¬Chain.Continues reached altered := by
  cases changed with
  | id id changed =>
      exact not_continues_of_text continues (text_ne_of_id changed) rfl apart
  | sequenceNumber number changed =>
      exact not_continues_of_text continues (text_ne_of_sequenceNumber changed) rfl apart
  | action action changed =>
      refine not_continues_of_onePartApart continues (.action rfl rfl) ?_ apart
      exact fun same => changed same.action
  | actorId actorId changed =>
      refine not_continues_of_onePartApart continues (.actorId rfl rfl) ?_ apart
      exact fun same => changed same.actorId
  | metadata metadata changed =>
      refine not_continues_of_onePartApart continues (.metadata rfl rfl) ?_ apart
      exact fun same => changed (congrArg Json.text same.metadata)
  | previousHash hash changed =>
      intro continuesToo
      exact changed (continuesToo.1.trans continues.1.symm)
  | currentHash hash changed =>
      -- The hash is not part of the text, and so the one calculated is still the old one.
      intro continuesToo
      exact changed (continuesToo.2.symm.trans continues.2)

end AuditEntry

namespace Chain

variable {entries : List AuditEntry}

theorem Linked.continues_getElem (linked : Linked genesisHash entries) {position : Nat}
    (inside : position < entries.length) :
    Continues (hashAfter genesisHash (entries.take position)) entries[position] := by
  obtain ⟨entry, here, continues⟩ := linked.continuesAt inside []
  rw [List.append_nil] at here continues
  cases (List.getElem?_eq_getElem inside).symm.trans here
  rw [hashAfter_take entries (Nat.le_of_lt inside)]
  exact continues

/-- A chain reaches the same hash at two positions only if the digest is broken. -/
theorem compromised_of_hashAfter_eq (linked : Linked genesisHash entries) {position later : Nat}
    (before : position < later) (inside : later ≤ entries.length)
    (same : hashAfter genesisHash (entries.take position) =
      hashAfter genesisHash (entries.take later)) :
    Compromised (entries.map AuditEntry.text) := by
  have shorter := linked.isPrefix (List.take_prefix position entries)
  have longer := linked.isPrefix (List.take_prefix later entries)
  rcases links_or_compromised shorter longer same with links | compromised
  · have lengths := links.length_eq
    rw [List.length_take, List.length_take] at lengths
    omega
  · apply compromised.mono
    apply List.map_subset
    exact List.append_subset.mpr ⟨List.take_subset _ _, List.take_subset _ _⟩

theorem stopsAt_of_moved (linked : Linked genesisHash entries) {moved : List AuditEntry}
    {position later : Nat} (before : position < later) (inside : later < entries.length)
    (kept : moved.take position = entries.take position)
    (here : moved[position]? = some entries[later]) :
    StopsAt moved position ∨ Compromised (entries.map AuditEntry.text) := by
  by_cases same : hashAfter genesisHash (entries.take position) =
      hashAfter genesisHash (entries.take later)
  · exact Or.inr (compromised_of_hashAfter_eq linked before (Nat.le_of_lt inside) same)
  · refine Or.inl (stopsAt_of_take ?_ here ?_)
    · rw [kept]
      exact linked.isPrefix (List.take_prefix position entries)
    · rw [kept]
      intro continues
      exact same (continues.1.symm.trans (linked.continues_getElem inside).1)

def exchanged (entries : List AuditEntry) (first second : Fin entries.length) :
    List AuditEntry :=
  (entries.set first entries[second]).set second entries[first]

theorem stopsAt_set (linked : Linked genesisHash entries) (position : Fin entries.length)
    {altered : AuditEntry} (changed : entries[position].PartChanged altered) :
    StopsAt (entries.set position altered) position ∨
      Sha256.Collide altered.text entries[position].text := by
  by_cases collide : Sha256.Collide altered.text entries[position].text
  · exact Or.inr collide
  · have kept : (entries.set position altered).take position = entries.take position :=
      List.take_set_of_le (Nat.le_refl _)
    refine Or.inl (stopsAt_of_take ?_ (List.getElem?_set_self position.isLt) ?_)
    · rw [kept]
      exact linked.isPrefix (List.take_prefix position entries)
    · rw [kept]
      exact changed.not_continues (linked.continues_getElem position.isLt) collide

theorem stopsAt_eraseIdx (linked : Linked genesisHash entries) {position : Nat}
    (notLast : position + 1 < entries.length) :
    StopsAt (entries.eraseIdx position) position ∨
      Compromised (entries.map AuditEntry.text) := by
  apply stopsAt_of_moved linked (Nat.lt_succ_self position) notLast
  · exact List.take_eraseIdx_eq_take_of_le entries position position (Nat.le_refl _)
  · rw [List.getElem?_eraseIdx_of_ge (Nat.le_refl _), List.getElem?_eq_getElem notLast]

theorem stopsAt_exchanged (linked : Linked genesisHash entries) {first second : Fin entries.length}
    (before : first < second) :
    StopsAt (exchanged entries first second) first ∨
      Compromised (entries.map AuditEntry.text) := by
  apply stopsAt_of_moved linked before second.isLt
  · rw [exchanged, List.take_set_of_le (Nat.le_of_lt before),
      List.take_set_of_le (Nat.le_refl _)]
  · rw [exchanged, List.getElem?_set_ne (Nat.ne_of_gt before),
      List.getElem?_set_self first.isLt]
    rfl

end Chain

namespace AuditDesk

/-- Tampering with the trail of any history is noticed where it was done.  An entry of which
one part has been changed is the one that verification tells of, unless its new text and its
old one collide; and where an entry has been removed that was not the last, or exchanged with
a later one, verification tells of the entry that now stands there, unless of the texts hashed
in the trail two collide or one has the genesis hash as its digest. -/
theorem run_locates_tampering (ids : IdSupply) (calls : List AuditCall) :
    let entries := ((start ids).run calls).2.trail.entries
    (∀ (position : Fin entries.length) (altered : AuditEntry),
        (entries.get position).PartChanged altered →
          Chain.StopsAt (entries.set position altered) position ∨
            Sha256.Collide altered.text (entries.get position).text) ∧
      (∀ position, position + 1 < entries.length →
        Chain.StopsAt (entries.eraseIdx position) position ∨
          Chain.Compromised (entries.map AuditEntry.text)) ∧
      ∀ first second : Fin entries.length, first < second →
        Chain.StopsAt (Chain.exchanged entries first second) first ∨
          Chain.Compromised (entries.map AuditEntry.text) := by
  intro entries
  have linked : Chain.Linked Chain.genesisHash entries := (run_sound ids calls).linked
  refine ⟨?_, ?_, ?_⟩
  · intro position altered changed
    exact Chain.stopsAt_set linked position changed
  · intro position notLast
    exact Chain.stopsAt_eraseIdx linked notLast
  · intro first second before
    exact Chain.stopsAt_exchanged linked before

def twoLogins : List AuditEntry :=
  ((start IdSupply.numbered).run [.record .epoch login, .record .epoch login]).2.trail.entries

def firstOfTwo : Fin twoLogins.length :=
  ⟨0, Nat.zero_lt_two⟩

def secondOfTwo : Fin twoLogins.length :=
  ⟨1, Nat.one_lt_two⟩

def renumberedFirst : AuditEntry :=
  { twoLogins[firstOfTwo] with sequenceNumber := 7 }

theorem twoLogins_located :
    twoLogins[firstOfTwo].PartChanged renumberedFirst ∧
      Chain.StopsAt (twoLogins.set firstOfTwo renumberedFirst) firstOfTwo ∧
      Chain.StopsAt (twoLogins.eraseIdx 0) 0 ∧
      Chain.StopsAt (Chain.exchanged twoLogins firstOfTwo secondOfTwo) firstOfTwo := by
  have sound : ¬Chain.Compromised (twoLogins.map AuditEntry.text) := by
    unfold Chain.Compromised Sha256.Collide
    decide +kernel
  have apart : ¬Sha256.Collide renumberedFirst.text twoLogins[firstOfTwo].text := by
    unfold Sha256.Collide
    decide +kernel
  have changed : twoLogins[firstOfTwo].PartChanged renumberedFirst :=
    .sequenceNumber 7 (by decide)
  obtain ⟨altering, removing, exchanging⟩ := run_locates_tampering IdSupply.numbered
    [.record .epoch login, .record .epoch login]
  refine ⟨changed, ?_, ?_, ?_⟩
  · exact (altering firstOfTwo renumberedFirst changed).resolve_right apart
  · exact (removing 0 Nat.one_lt_two).resolve_right sound
  · exact (exchanging firstOfTwo secondOfTwo Nat.zero_lt_one).resolve_right sound

end AuditDesk
end WorkflowBus
