/-
Values that are written are read back.

From the compact text of a value without floating-point numbers a reader makes the arranged
form of the value if it goes down as many levels as the value has, and refuses the text if it
does not.  What follows the text of a value is left for the next reader; it has to be nothing
that a number goes on with.
-/

import WorkflowBus.Json.Parsing
import WorkflowBus.Proofs.Json.Apart
import WorkflowBus.Proofs.Json.Arrangement

namespace WorkflowBus
namespace Json

open Numeral (Closes closes_nil)

/-- No floating-point number stands in the value, and its integers have 64 bits. -/
inductive Integral : Json → Prop where
  | null : Integral .null
  | bool (value : Bool) : Integral (.bool value)
  | int {value : Int} (least : -2 ^ 63 ≤ value) (most : value < 2 ^ 64) : Integral (.int value)
  | str (value : String) : Integral (.str value)
  | arr {items : List Json} (each : ∀ item ∈ items, Integral item) : Integral (.arr items)
  | obj {members : List (String × Json)} (each : ∀ member ∈ members, Integral member.2) :
      Integral (.obj members)

theorem Integral.of_isPlain {json : Json} (plain : json.isPlain = true) : json.Integral := by
  cases json with
  | null => exact .null
  | bool value => exact .bool value
  | int value =>
      obtain ⟨least, most⟩ := of_decide_eq_true plain
      exact .int least most
  | str value => exact .str value
  | _ => cases plain

theorem le_ofDigitChars (digits : List Char) (number : Nat) :
    number ≤ Nat.ofDigitChars 10 digits number := by
  induction digits generalizing number with
  | nil => exact Nat.le_refl number
  | cons char digits ih =>
      rw [Nat.ofDigitChars_cons]
      have further := ih (10 * number + (char.toNat - '0'.toNat))
      omega

theorem appended_eq {digits : List Char} {number : Nat}
    (fits : Nat.ofDigitChars 10 digits number < 2 ^ 64) :
    appended number digits = (Nat.ofDigitChars 10 digits number, []) := by
  induction digits generalizing number with
  | nil => rfl
  | cons char digits ih =>
      rw [Nat.ofDigitChars_cons] at fits ⊢
      have longer : 10 * number + (char.toNat - '0'.toNat) < 18446744073709551616 :=
        Nat.lt_of_le_of_lt (le_ofDigitChars digits _) fits
      rw [appended, if_pos longer, ih fits]

theorem integer?_ofInt {value : Int} (least : -2 ^ 63 ≤ value) (most : value < 2 ^ 64) :
    integer? (.ofInt value) = some value := by
  have digits : Nat.ofDigitChars 10 (Nat.toDigits 10 value.natAbs) 0 = value.natAbs :=
    Nat.ofDigitChars_ten_toDigits
  have read := appended_eq (digits.symm ▸ (by omega) : Nat.ofDigitChars 10
    (Nat.toDigits 10 value.natAbs) 0 < 2 ^ 64)
  rw [digits] at read
  have negative : (Numeral.ofInt value).negative = decide (value < 0) := rfl
  have whole : (Numeral.ofInt value).whole = Nat.toDigits 10 value.natAbs := rfl
  have isWhole : (Numeral.ofInt value).isWhole = true := rfl
  rw [integer?, whole, read]
  simp only [isWhole, negative, Bool.not_true, Bool.false_eq_true, if_false,
    Bool.not_eq_true', decide_eq_false_iff_not]
  split
  · rw [Int.natAbs_of_nonneg (by omega)]
  · rw [if_neg (by omega)]
    congr 1
    omega

theorem number?_int {value : Int} (least : -2 ^ 63 ≤ value) (most : value < 2 ^ 64)
    {rest : List Char} (closes : Closes rest) :
    number? ((Json.int value).valueChars ++ rest) = some (.int value, rest) := by
  have read := Numeral.read?_chars (Numeral.written_ofInt value) closes
  have chars : (Json.int value).valueChars = (Numeral.ofInt value).chars :=
    toList_text_of_numeral? rfl
  rw [number?, chars, read]
  simp only [Option.bind_eq_bind, Option.bind_some, ofNumeral?, integer?_ofInt least most]
  rfl

theorem lookup_escapeNames_of_namedEscapes :
    ∀ pair ∈ namedEscapes, escapeNames.lookup pair.2 = some pair.1 := by
  decide

theorem escaped?_named {char name : Char} (listed : (char, name) ∈ namedEscapes)
    (rest : List Char) : escaped? (name :: rest) = some (char, rest) := by
  unfold escaped?
  split
  · cases ‹name :: rest = 'u' :: _›
    exact absurd rfl (ne_of_namedEscapes _ listed)
  · cases ‹name :: rest = _ :: _›
    rw [lookup_escapeNames_of_namedEscapes _ listed]
    rfl
  · cases ‹name :: rest = []›

theorem char?_named {char name : Char} (listed : (char, name) ∈ namedEscapes)
    (rest : List Char) : char? ('\\' :: name :: rest) = some (char, rest) :=
  escaped?_named listed rest

theorem codeUnit?_control : ∀ code < 0x20, ∀ rest : List Char,
    codeUnit? ('0' :: '0' :: Nat.digitChar (code / 16) :: Nat.digitChar (code % 16) :: rest) =
      some (code, rest) := by
  intro code control rest
  interval_cases code <;> rfl

theorem coded?_control {char : Char} (control : char.toNat < 0x20) (rest : List Char) :
    coded? ('0' :: '0' :: Nat.digitChar (char.toNat / 16) ::
      Nat.digitChar (char.toNat % 16) :: rest) = some (char, rest) := by
  unfold coded?
  rw [codeUnit?_control char.toNat control rest]
  show (if 0xD800 ≤ char.toNat ∧ char.toNat ≤ 0xDBFF then _
    else if 0xDC00 ≤ char.toNat ∧ char.toNat ≤ 0xDFFF then none
    else some (Char.ofNat char.toNat, rest)) = _
  rw [if_neg (by omega), if_neg (by omega), Char.ofNat_toNat]

theorem char?_plain {char : Char} (unescaped : char ≠ '\\') (noControl : ¬char.toNat < 0x20)
    (rest : List Char) : char? (char :: rest) = some (char, rest) := by
  unfold char?
  split
  · cases ‹char :: rest = '\\' :: _›
    exact absurd rfl unescaped
  · cases ‹char :: rest = _ :: _›
    rw [if_neg noControl]
  · cases ‹char :: rest = []›

theorem char?_escapedChar (char : Char) (rest : List Char) :
    char? (escapedChar char ++ rest) = some (char, rest) := by
  unfold escapedChar
  iterate 7
    split
    · subst char
      exact char?_named (by decide) rest
  split
  · exact coded?_control ‹char.toNat < 0x20› rest
  · exact char?_plain ‹char ≠ '\\'› ‹¬char.toNat < 0x20› rest

theorem unquoted?_succ {chars : List Char} (unclosed : ∀ rest, '"' :: rest ≠ chars) (room : Nat) :
    unquoted? (room + 1) chars = do
      let (char, rest) ← char? chars
      let (others, rest) ← unquoted? room rest
      return (char :: others, rest) := by
  rw [unquoted?]
  intro rest same
  exact unclosed rest same.symm

theorem unquoted?_flatMap {chars : List Char} {room : Nat} (fits : chars.length ≤ room)
    (rest : List Char) :
    unquoted? room (chars.flatMap escapedChar ++ '"' :: rest) = some (chars, rest) := by
  induction chars generalizing room with
  | nil => cases room <;> rfl
  | cons char chars ih =>
      cases room with
      | zero => cases fits
      | succ room =>
          have unclosed : ∀ behind, '"' :: behind ≠
              (char :: chars).flatMap escapedChar ++ '"' :: rest := by
            intro behind
            rw [List.flatMap_cons, List.append_assoc]
            exact (escaped_escapedChar char).ne_quote
          rw [unquoted?_succ unclosed, List.flatMap_cons, List.append_assoc, char?_escapedChar]
          simp only [Option.bind_eq_bind, Option.bind_some, ih (Nat.le_of_succ_le_succ fits)]
          rfl

theorem Escaped.length_pos {char : Char} {chars : List Char} (escaped : Escaped char chars) :
    0 < chars.length := by
  cases escaped <;> exact Nat.succ_pos _

theorem length_le_flatMap_escapedChar (chars : List Char) :
    chars.length ≤ (chars.flatMap escapedChar).length := by
  induction chars with
  | nil => exact Nat.le_refl 0
  | cons char chars ih =>
      have some := (escaped_escapedChar char).length_pos
      rw [List.flatMap_cons, List.length_append, List.length_cons]
      omega

theorem quoted?_quoted (text : String) (rest : List Char) :
    quoted? ((quoted text).toList ++ rest) = some (text, rest) := by
  have fits : text.toList.length ≤ (text.toList.flatMap escapedChar ++ '"' :: rest).length := by
    rw [List.length_append]
    exact Nat.le_add_right_of_le (length_le_flatMap_escapedChar text.toList)
  rw [toList_quoted, List.cons_append, List.append_assoc, List.singleton_append, quoted?,
    unquoted?_flatMap fits, Option.map_some]
  show some (String.ofList text.toList, rest) = _
  rw [String.ofList_toList]

/-! ### Lists of elements -/

section Elements

variable {α β : Type} {written : α → List Char} {image : α → β} {closing : Char}
  {read? : List Char → Option (β × List Char)}

/-- An element that is written is read as its image, whatever closes the text behind it. -/
def ReadsBack (read? : List Char → Option (β × List Char)) (written : α → List Char)
    (image : α → β) (element : α) : Prop :=
  ∀ rest : List Char, Closes rest → read? (written element ++ rest) = some (image element, rest)

structure Closing (closing : Char) : Prop where
  closed : Numeral.goesOn closing = false
  noComma : closing ≠ ','
  noSpace : isSpace closing = false

theorem elements?_comma {element : β} {chars rest : List Char} {room : Nat}
    (read : read? chars = some (element, ',' :: rest)) :
    elements? read? closing (room + 1) chars =
      (elements? read? closing room rest).map fun (others, rest) => (element :: others, rest) := by
  rw [elements?, read]
  show (do
    let (others, rest) ← elements? read? closing room rest
    return (element :: others, rest)) = _
  cases elements? read? closing room rest <;> rfl

theorem skipSpace_cons {first : Char} (noSpace : isSpace first = false) (rest : List Char) :
    skipSpace (first :: rest) = first :: rest :=
  List.dropWhile_cons_of_neg (by rw [noSpace]; decide)

theorem elements?_closing (behindAll : Closing closing) {element : β} {chars rest : List Char}
    {room : Nat} (read : read? chars = some (element, closing :: rest)) :
    elements? read? closing (room + 1) chars = some ([element], rest) := by
  rw [elements?, read]
  simp only [Option.bind_eq_bind, Option.bind_some, skipSpace_cons behindAll.noSpace]
  split
  · cases ‹closing :: rest = ',' :: _›
    exact absurd rfl behindAll.noComma
  · cases ‹closing :: rest = _ :: _›
    exact if_pos rfl
  · cases ‹closing :: rest = []›

theorem elements?_behind (behindAll : Closing closing) {first : α} {others : List α}
    (each : ∀ element ∈ first :: others, ReadsBack read? written image element) {room : Nat}
    (fits : others.length < room) (more : List Char) :
    elements? read? closing room (written first ++ behind written closing others more) =
      some ((first :: others).map image, more) := by
  induction others generalizing first room with
  | nil =>
      obtain ⟨room, rfl⟩ := Nat.exists_eq_add_of_lt fits
      obtain ⟨here, _⟩ := List.forall_mem_cons.mp each
      exact elements?_closing behindAll (here _ (closes_behind behindAll.closed [] more))
  | cons next others ih =>
      cases room with
      | zero => cases fits
      | succ room =>
          obtain ⟨here, later⟩ := List.forall_mem_cons.mp each
          have read := here (behind written closing (next :: others) more)
            (closes_behind behindAll.closed _ _)
          rw [elements?_comma read, ih later (Nat.lt_of_succ_lt_succ fits)]
          rfl

theorem length_le_behind (others : List α) (more : List Char) :
    others.length ≤ (behind written closing others more).length := by
  induction others with
  | nil => exact Nat.zero_le _
  | cons next others ih =>
      rw [behind, List.length_cons, List.length_cons, List.length_append]
      omega

theorem list?_elements (behindAll : Closing closing) {values : List α}
    (opens : ∀ element ∈ values, ∃ first rest, written element = first :: rest ∧
      first ≠ closing ∧ isSpace first = false)
    (each : ∀ element ∈ values, ReadsBack read? written image element) (more : List Char) :
    list? read? closing (elements written closing values more) =
      some (values.map image, more) := by
  cases values with
  | nil =>
      rw [elements, list?, skipSpace_cons behindAll.noSpace]
      exact if_pos rfl
  | cons element others =>
      obtain ⟨first, rest, split, different, noSpace⟩ := opens element List.mem_cons_self
      have fits : others.length <
          (written element ++ behind written closing others more).length := by
        have within : others.length ≤ (behind written closing others more).length :=
          length_le_behind others more
        rw [List.length_append, split, List.length_cons]
        omega
      have read := elements?_behind behindAll each fits more
      rw [elements, list?]
      rw [split, List.cons_append] at read ⊢
      rw [skipSpace_cons noSpace]
      exact (if_neg different).trans read

end Elements

theorem isSpace_of_ofFirst? {first : Char} {kind : Kind} (opens : Kind.ofFirst? first = some kind) :
    isSpace first = false := by
  rw [Bool.eq_false_iff]
  intro space
  unfold isSpace at space
  simp only [Bool.or_eq_true, beq_iff_eq] at space
  rcases space with ((rfl | rfl) | rfl) | rfl <;> cases opens

theorem scalar?_of_number {first : Char} {rest : List Char}
    (opens : Kind.ofFirst? first = some .number) :
    scalar? (first :: rest) = number? (first :: rest) := by
  unfold scalar?
  split
  · cases ‹first :: rest = _›
    cases opens
  · cases ‹first :: rest = _›
    cases opens
  · cases ‹first :: rest = _›
    cases opens
  · cases ‹first :: rest = _›
    cases opens
  · rfl

theorem value?_of_scalar {first : Char} {rest : List Char} {kind : Kind}
    (opens : Kind.ofFirst? first = some kind) (noList : kind ≠ .list) (noObject : kind ≠ .object)
    (levels : Nat) : value? levels (first :: rest) = scalar? (first :: rest) := by
  have noSpace := isSpace_of_ofFirst? opens
  cases levels with
  | zero => rw [value?, skipSpace_cons noSpace]
  | succ levels =>
      rw [value?, skipSpace_cons noSpace]
      split
      · cases ‹first :: rest = _›
        cases opens
        exact absurd rfl noList
      · cases ‹first :: rest = _›
        cases opens
        exact absurd rfl noObject
      · rfl

theorem scalar?_valueChars {json : Json} (scalar : json.isScalar = true)
    (integral : json.Integral) : ReadsBack scalar? valueChars arranged json := by
  intro rest closes
  rw [arranged_of_isScalar scalar]
  cases integral with
  | null => rfl
  | bool value => cases value <;> rfl
  | @int value least most =>
      have read := number?_int least most closes
      obtain ⟨first, others, split, opens⟩ := valueChars_cons (.int value)
      rw [split, List.cons_append] at read ⊢
      rw [scalar?_of_number opens, read]
  | str value =>
      have read := quoted?_quoted value rest
      rw [toList_quoted, List.cons_append] at read
      rw [valueChars, text, toList_quoted, List.cons_append, scalar?, read]
      rfl
  | arr each => cases scalar
  | obj each => cases scalar

theorem kind_of_isScalar {json : Json} (scalar : json.isScalar = true) :
    json.kind ≠ .list ∧ json.kind ≠ .object := by
  cases json with
  | bool value => cases value <;> exact ⟨nofun, nofun⟩
  | arr items => cases scalar
  | obj members => cases scalar
  | _ => exact ⟨nofun, nofun⟩

theorem value?_of_isScalar {json : Json} (scalar : json.isScalar = true)
    (integral : json.Integral) (levels : Nat) :
    ReadsBack (value? levels) valueChars arranged json := by
  intro rest closes
  obtain ⟨first, others, split, opens⟩ := json.valueChars_cons
  obtain ⟨noList, noObject⟩ := kind_of_isScalar scalar
  have read := scalar?_valueChars scalar integral rest closes
  rw [split, List.cons_append] at read ⊢
  rw [value?_of_scalar opens noList noObject, read]

theorem member?_memberChars (value? : List Char → Option (Json × List Char))
    (member : String × Json) (rest : List Char) :
    member? value? (memberChars member ++ rest) =
      (value? (member.2.valueChars ++ rest)).map fun (value, rest) =>
        ((member.1, value), rest) := by
  have key := quoted?_quoted member.1 (':' :: (member.2.valueChars ++ rest))
  have noSpace : skipSpace ((quoted member.1).toList ++ ':' :: (member.2.valueChars ++ rest)) =
      (quoted member.1).toList ++ ':' :: (member.2.valueChars ++ rest) := by
    rw [toList_quoted]
    rfl
  have colon : isSpace ':' = false := rfl
  rw [memberChars_append, member?, noSpace, key]
  simp only [Option.bind_eq_bind, Option.bind_some, skipSpace_cons colon]
  cases value? (member.2.valueChars ++ rest) <;> rfl

theorem readsBack_member {value? : List Char → Option (Json × List Char)}
    {member : String × Json} (reads : ReadsBack value? valueChars arranged member.2) :
    ReadsBack (member? value?) memberChars arrangedMember member := by
  intro rest closes
  rw [member?_memberChars, reads rest closes]
  rfl

theorem opens_item (item : Json) : ∃ first others, valueChars item = first :: others ∧
    first ≠ ']' ∧ isSpace first = false := by
  obtain ⟨first, others, split, opens⟩ := item.valueChars_cons
  refine ⟨first, others, split, ?_, isSpace_of_ofFirst? opens⟩
  rintro rfl
  cases opens

theorem opens_member (member : String × Json) : ∃ first others,
    memberChars member = first :: others ∧ first ≠ '\x7d' ∧ isSpace first = false := by
  have split := memberChars_append member []
  rw [List.append_nil, toList_quoted] at split
  exact ⟨'"', _, split, by decide, rfl⟩

theorem value?_arr {levels : Nat} {items : List Json}
    (each : ∀ item ∈ items, ReadsBack (value? levels) valueChars arranged item) :
    ReadsBack (value? (levels + 1)) valueChars arranged (.arr items) := by
  intro rest closes
  have read := list?_elements ⟨rfl, by decide, rfl⟩ (fun item _present => opens_item item) each rest
  rw [valueChars_arr, value?, skipSpace_cons rfl]
  simp only [read]
  rw [Option.map_some, arranged_arr]

theorem value?_obj {levels : Nat} {members : List (String × Json)}
    (each : ∀ member ∈ members, ReadsBack (value? levels) valueChars arranged member.2) :
    ReadsBack (value? (levels + 1)) valueChars arranged (.obj members) := by
  intro rest closes
  have readsMember : ∀ member ∈ members,
      ReadsBack (member? (value? levels)) memberChars arrangedMember member :=
    fun member present => readsBack_member (each member present)
  have read := list?_elements ⟨rfl, by decide, rfl⟩ (fun member _present => opens_member member)
    readsMember rest
  rw [valueChars_obj, value?, skipSpace_cons rfl]
  simp only [read]
  rw [Option.map_some, arranged_obj]

theorem Integral.item {items : List Json} (integral : (Json.arr items).Integral) :
    ∀ item ∈ items, item.Integral := by
  cases integral with
  | arr each => exact each

theorem Integral.member {members : List (String × Json)} (integral : (Json.obj members).Integral) :
    ∀ member ∈ members, member.2.Integral := by
  cases integral with
  | obj each => exact each

/-- A reader that goes down far enough reads the arranged form of a value. -/
theorem value?_valueChars {levels : Nat} {json : Json} (integral : json.Integral)
    (within : json.levels ≤ levels) : ReadsBack (value? levels) valueChars arranged json := by
  induction levels generalizing json with
  | zero =>
      cases json with
      | arr items => cases within
      | obj members => cases within
      | _ => exact value?_of_isScalar rfl integral 0
  | succ levels ih =>
      cases json with
      | arr items =>
          have each := levelsOfItems_le_iff.mp (Nat.le_of_succ_le_succ within)
          exact value?_arr fun item present => ih (integral.item item present) (each item present)
      | obj members =>
          have each := levelsOfMembers_le_iff.mp (Nat.le_of_succ_le_succ within)
          exact value?_obj fun member present =>
            ih (integral.member member present) (each member present)
      | _ => exact value?_of_isScalar rfl integral _

theorem parseWithin?_text {levels : Nat} {json : Json} (integral : json.Integral)
    (within : json.levels ≤ levels) : parseWithin? levels json.text = some json.arranged := by
  have read := value?_valueChars integral within [] closes_nil
  rw [List.append_nil] at read
  rw [parseWithin?, ← valueChars, read]
  rfl

theorem parse?_text {json : Json} (integral : json.Integral) (within : json.levels ≤ mostLevels) :
    parse? json.text = some json.arranged :=
  parseWithin?_text integral within

/-- Texts with floating-point numbers are read as well, but not always as the number that was
written. -/
example : (parse? "\x7b\"zz\":1.5\x7d").map keys = some ["zz"] := by
  decide +kernel

/-! ### Ways of passing on a value -/

namespace Passage

end Passage

end Json
end WorkflowBus
