/-
What the header fields of a request tell about an operation.

Of the fields of a name the first one is looked at and no other.  It tells a text if its bytes
are the characters of one, and an identifier if that text spells one; if it does not, no later
field of the name is looked at in its place.
-/

import WorkflowBus.Api.Header
import WorkflowBus.Proofs.Uuid

namespace WorkflowBus
namespace Header

def Named (header : Header) (name : String) : Prop :=
  Casing.fold header.name.toList = Casing.fold name.toList

/-- The field is the first one of the name. -/
def First (headers : List Header) (name : String) (header : Header) : Prop :=
  ∃ before after, headers = before ++ header :: after ∧ header.Named name ∧
    ∀ other ∈ before, ¬other.Named name

theorem alike_iff_named {header : Header} {name : String} :
    Casing.alike header.name.toList name.toList = true ↔ header.Named name :=
  beq_iff_eq

theorem find?_eq_some_iff {headers : List Header} {name : String} {header : Header} :
    find? headers name = some header ↔ First headers name header := by
  rw [find?, List.find?_eq_some_iff_append, alike_iff_named]
  simp only [Bool.not_eq_true', ← Bool.not_eq_true, alike_iff_named]
  constructor
  · rintro ⟨named, before, after, split, others⟩
    exact ⟨before, after, split, named, others⟩
  · rintro ⟨before, after, split, named, others⟩
    exact ⟨named, before, after, split, others⟩

theorem First.unique {headers : List Header} {name : String} {left right : Header}
    (isLeft : First headers name left) (isRight : First headers name right) : left = right :=
  Option.some.inj ((find?_eq_some_iff.mpr isLeft).symm.trans (find?_eq_some_iff.mpr isRight))

/-- The bytes of the field's value are the characters of the text, all of them printable ASCII
or tabs. -/
def Holds (header : Header) (text : String) : Prop :=
  header.value.map UInt8.toNat = text.toList.map Char.toNat ∧
    ∀ byte ∈ header.value, byte = 0x09 ∨ 0x20 ≤ byte ∧ byte ≤ 0x7e

theorem isTextByte_iff {byte : UInt8} :
    isTextByte byte = true ↔ byte = 0x09 ∨ 0x20 ≤ byte ∧ byte ≤ 0x7e := by
  have last : byte < 0x7f ↔ byte ≤ 0x7e := by
    rw [UInt8.lt_iff_toNat_lt, UInt8.le_iff_toNat_le]
    exact Nat.lt_succ_iff
  simp only [isTextByte, Bool.or_eq_true, Bool.and_eq_true, decide_eq_true_eq, beq_iff_eq, last]
  exact or_comm

theorem toNat_ofNat_toNat (byte : UInt8) : (Char.ofNat byte.toNat).toNat = byte.toNat := by
  have valid : byte.toNat.isValidChar := Or.inl (Nat.lt_trans byte.toNat_lt (by decide))
  rw [Char.ofNat, dif_pos valid]
  rfl

theorem text?_eq_some_iff {header : Header} {text : String} :
    header.text? = some text ↔ header.Holds text := by
  have bytes : header.value.all isTextByte = true ↔
      ∀ byte ∈ header.value, byte = 0x09 ∨ 0x20 ≤ byte ∧ byte ≤ 0x7e := by
    simp only [List.all_eq_true, isTextByte_iff]
  unfold text?
  constructor
  · intro read
    split at read
    · next printable =>
        cases read
        refine ⟨?_, bytes.mp printable⟩
        rw [String.toList_ofList, List.map_map]
        exact List.map_congr_left fun byte _member => (toNat_ofNat_toNat byte).symm
    · cases read
  · rintro ⟨same, printable⟩
    have chars : (header.value.map fun byte => Char.ofNat byte.toNat) = text.toList := by
      have again := congrArg (List.map Char.ofNat) same
      simpa only [List.map_map, Function.comp_def, Char.ofNat_toNat, List.map_id'] using again
    rw [if_pos (bytes.mpr printable), chars, String.ofList_toList]

def TellsText (headers : List Header) (name text : String) : Prop :=
  ∃ header, First headers name header ∧ header.Holds text

/-- The first field of the name holds a text that spells the identifier. -/
def TellsId (headers : List Header) (name : String) (id : Uuid) : Prop :=
  ∃ text, TellsText headers name text ∧ Uuid.Spells text.toList id

theorem firstText?_eq_some_iff {headers : List Header} {name text : String} :
    firstText? headers name = some text ↔ TellsText headers name text := by
  rw [firstText?, Option.bind_eq_bind, Option.bind_eq_some_iff]
  simp only [find?_eq_some_iff, text?_eq_some_iff, TellsText]

theorem firstUuid?_eq_some_iff {headers : List Header} {name : String} {id : Uuid} :
    firstUuid? headers name = some id ↔ TellsId headers name id := by
  rw [firstUuid?, Option.bind_eq_bind, Option.bind_eq_some_iff]
  simp only [firstText?_eq_some_iff, Uuid.ofText?, Uuid.ofChars?_eq_some_iff, TellsId]

/-- The field holds no text that spells an identifier. -/
def SpellsNothing (header : Header) : Prop :=
  ∀ text, header.Holds text → ∀ id, ¬Uuid.Spells text.toList id

theorem firstText?_eq_none {headers : List Header} {name : String} {header : Header}
    (first : First headers name header) (nothing : ∀ text, ¬header.Holds text) :
    firstText? headers name = none := by
  rw [Option.eq_none_iff_forall_ne_some]
  intro text read
  obtain ⟨other, isFirst, holds⟩ := firstText?_eq_some_iff.mp read
  cases first.unique isFirst
  exact nothing text holds

theorem firstUuid?_eq_none {headers : List Header} {name : String} {header : Header}
    (first : First headers name header) (nothing : header.SpellsNothing) :
    firstUuid? headers name = none := by
  rw [Option.eq_none_iff_forall_ne_some]
  intro id read
  obtain ⟨text, ⟨other, isFirst, holds⟩, spells⟩ := firstUuid?_eq_some_iff.mp read
  cases first.unique isFirst
  exact nothing text holds id spells

end Header
end WorkflowBus
