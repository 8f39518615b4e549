/-
Decimal numbers that are written are read back.

The digits of a number are read as the number, zeros before them make no difference, and
what is read ends where no further digit stands or where no further digit is looked for.
What is read with a bound are the numerals of the numbers within the bound, and nothing else.
-/

import Mathlib.Data.Nat.Digits.Lemmas
import WorkflowBus.Text.Decimal

namespace WorkflowBus
namespace Decimal

def Ends (rest : List Char) : Prop :=
  ∀ first ∈ rest.head?, first.isDigit = false

theorem ends_nil : Ends [] :=
  nofun

theorem ends_cons {first : Char} {rest : List Char} (closed : first.isDigit = false) :
    Ends (first :: rest) := by
  intro char member
  cases member
  exact closed

theorem isDigit_of_mem_toDigits {number : Nat} {char : Char}
    (member : char ∈ Nat.toDigits 10 number) : char.isDigit = true :=
  Nat.isDigit_of_mem_toDigits (by decide) (by decide) member

theorem head_toDigits_ne {number : Nat} (positive : 0 < number) {rest : List Char} :
    Nat.toDigits 10 number ≠ '0' :: rest := by
  induction number using Nat.strongRecOn generalizing rest with
  | ind number ih =>
      by_cases small : number < 10
      · rw [Nat.toDigits_of_lt_base small]
        intro same
        have digit : number.digitChar = '0' := (List.cons.inj same).1
        interval_cases number <;> revert digit <;> decide
      · rw [Nat.toDigits_of_base_le (by decide) (Nat.le_of_not_lt small)]
        have tens : 0 < number / 10 := Nat.div_pos (Nat.le_of_not_lt small) (by decide)
        have fewer : number / 10 < number := Nat.div_lt_self positive (by decide)
        cases split : Nat.toDigits 10 (number / 10) with
        | nil => exact absurd split Nat.toDigits_ne_nil
        | cons first others =>
            intro same
            cases (List.cons.inj same).1
            exact ih _ fewer tens split

theorem continued?_eq {chars : List Char} (digits : ∀ char ∈ chars, char.isDigit = true)
    (sofar : Nat) : continued? sofar chars = some (Nat.ofDigitChars 10 chars sofar) := by
  induction chars generalizing sofar with
  | nil => rfl
  | cons char rest ih =>
      obtain ⟨digit, digits⟩ := List.forall_mem_cons.mp digits
      have value : digit? char = some (char.toNat - '0'.toNat) := if_pos digit
      simp only [continued?, value]
      rw [ih digits, Nat.ofDigitChars_cons, Nat.mul_comm sofar]

theorem value?_eq {chars : List Char} (some : chars ≠ [])
    (digits : ∀ char ∈ chars, char.isDigit = true) :
    value? chars = Option.some (Nat.ofDigitChars 10 chars 0) := by
  cases chars with
  | nil => exact absurd rfl some
  | cons char rest => exact continued?_eq digits 0

theorem value?_toDigits (number : Nat) : value? (Nat.toDigits 10 number) = some number := by
  rw [value?_eq Nat.toDigits_ne_nil fun char member => isDigit_of_mem_toDigits member,
    Nat.ofDigitChars_ten_toDigits]

theorem value?_append_zeros {digits : List Char} {number : Nat} (count : Nat)
    (each : ∀ char ∈ digits, char.isDigit = true) (value : value? digits = some number) :
    value? (digits ++ List.replicate count '0') = some (number * 10 ^ count) := by
  cases digits with
  | nil => cases value
  | cons first rest =>
      rw [value?_eq (List.cons_ne_nil first rest) each] at value
      cases value
      have all : ∀ char ∈ first :: rest ++ List.replicate count '0', char.isDigit = true := by
        intro char member
        rcases List.mem_append.mp member with written | zero
        · exact each char written
        · rw [List.eq_of_mem_replicate zero]
          decide
      have some := List.append_ne_nil_of_left_ne_nil (List.cons_ne_nil first rest)
        (List.replicate count '0')
      rw [value?_eq some all, Nat.ofDigitChars_append, Nat.ofDigitChars_replicate_zero,
        Nat.mul_comm]

theorem toList_padded (width number : Nat) :
    (padded width number).toList =
      List.replicate (width - (Nat.toDigits 10 number).length) '0' ++ Nat.toDigits 10 number :=
  String.toList_ofList

theorem isDigit_of_mem_padded {width number : Nat} {char : Char}
    (member : char ∈ (padded width number).toList) : char.isDigit = true := by
  rw [toList_padded] at member
  rcases List.mem_append.mp member with zero | digit
  · rw [List.eq_of_mem_replicate zero]
    decide
  · exact isDigit_of_mem_toDigits digit

theorem padded_ne_nil (width number : Nat) : (padded width number).toList ≠ [] := by
  rw [toList_padded]
  exact List.append_ne_nil_of_right_ne_nil _ Nat.toDigits_ne_nil

theorem padded_cons (width number : Nat) :
    ∃ first rest, (padded width number).toList = first :: rest ∧ first.isDigit = true := by
  cases split : (padded width number).toList with
  | nil => exact absurd split (padded_ne_nil width number)
  | cons first rest =>
      have member : first ∈ (padded width number).toList := by
        rw [split]
        exact List.mem_cons_self
      exact ⟨first, rest, rfl, isDigit_of_mem_padded member⟩

theorem length_padded {width number : Nat} (positive : 0 < width) (fits : number < 10 ^ width) :
    (padded width number).toList.length = width := by
  have short := (Nat.length_toDigits_le_iff (by decide) positive).mpr fits
  rw [toList_padded, List.length_append, List.length_replicate]
  omega

theorem value?_padded (width number : Nat) :
    value? (padded width number).toList = some number := by
  rw [value?_eq (padded_ne_nil width number) fun char member => isDigit_of_mem_padded member,
    toList_padded, Nat.ofDigitChars_append, Nat.ofDigitChars_replicate_zero, Nat.mul_zero,
    Nat.ofDigitChars_ten_toDigits]

theorem digitRun_append {most : Nat} {digits rest : List Char}
    (each : ∀ char ∈ digits, char.isDigit = true) (fits : digits.length ≤ most)
    (ends : digits.length = most ∨ Ends rest) :
    digitRun most (digits ++ rest) = (digits, rest) := by
  induction digits generalizing most with
  | nil =>
      cases most with
      | zero => rfl
      | succ most =>
          cases rest with
          | nil => rfl
          | cons first rest =>
              have closed : first.isDigit = false := (ends.resolve_left nofun) first rfl
              simp only [List.nil_append, digitRun, closed, Bool.false_eq_true, if_false]
  | cons char digits ih =>
      cases most with
      | zero => cases fits
      | succ most =>
          obtain ⟨digit, each⟩ := List.forall_mem_cons.mp each
          have later := ih each (Nat.le_of_succ_le_succ fits) (ends.imp_left Nat.succ.inj)
          simp only [List.cons_append, digitRun, digit, if_true, later]

theorem number?_append {most : Nat} {digits rest : List Char} {number : Nat}
    (each : ∀ char ∈ digits, char.isDigit = true) (value : value? digits = some number)
    (fits : digits.length ≤ most) (ends : digits.length = most ∨ Ends rest) :
    number? most (digits ++ rest) = some (number, rest) := by
  simp only [number?, digitRun_append each fits ends, value, Option.map_some]

theorem number?_padded {width number : Nat} (positive : 0 < width) (fits : number < 10 ^ width)
    (rest : List Char) :
    number? width ((padded width number).toList ++ rest) = some (number, rest) := by
  have length := length_padded positive fits
  exact number?_append (fun char member => isDigit_of_mem_padded member)
    (value?_padded width number) (Nat.le_of_eq length) (Or.inl length)

theorem digit?_lt {char : Char} {digit : Nat} (read : digit? char = some digit) : digit < 10 := by
  rw [digit?] at read
  split at read
  case isTrue isDigit =>
    cases read
    have most : char.toNat ≤ 57 := (Char.isDigit_iff_toNat.mp isDigit).2
    show char.toNat - 48 < 10
    omega
  case isFalse => cases read

theorem continued?_lt {chars : List Char} {sofar number : Nat}
    (read : continued? sofar chars = some number) : number < (sofar + 1) * 10 ^ chars.length := by
  induction chars generalizing sofar with
  | nil =>
      cases read
      rw [List.length_nil, Nat.pow_zero, Nat.mul_one]
      exact Nat.lt_succ_self number
  | cons char rest ih =>
      rw [continued?] at read
      split at read
      case h_1 => cases read
      case h_2 digit found =>
        have tens : sofar * 10 + digit + 1 ≤ (sofar + 1) * 10 := by
          have small := digit?_lt found
          omega
        calc
          number < (sofar * 10 + digit + 1) * 10 ^ rest.length := ih read
          _ ≤ (sofar + 1) * 10 * 10 ^ rest.length := Nat.mul_le_mul_right _ tens
          _ = (sofar + 1) * 10 ^ (rest.length + 1) := by rw [Nat.mul_assoc, ← Nat.pow_succ']

theorem value?_lt {chars : List Char} {number : Nat} (read : value? chars = some number) :
    number < 10 ^ chars.length := by
  cases chars with
  | nil => cases read
  | cons char rest =>
      have bound := continued?_lt read
      rwa [Nat.zero_add, Nat.one_mul] at bound

theorem length_digitRun_le (most : Nat) (chars : List Char) :
    (digitRun most chars).1.length ≤ most := by
  induction most generalizing chars with
  | zero => exact Nat.le_refl 0
  | succ most ih =>
      cases chars with
      | nil => exact Nat.zero_le _
      | cons char rest =>
          rw [digitRun]
          split
          · exact Nat.succ_le_succ (ih rest)
          · exact Nat.zero_le _

/-! ### Numerals -/

theorem isDigit_of_continued? {chars : List Char} {sofar number : Nat}
    (read : continued? sofar chars = some number) : ∀ char ∈ chars, char.isDigit = true := by
  induction chars generalizing sofar with
  | nil => exact fun char member => absurd member List.not_mem_nil
  | cons char rest ih =>
      rw [continued?] at read
      split at read
      case h_1 => cases read
      case h_2 digit found =>
        have first : char.isDigit = true := by
          rw [digit?] at found
          split at found
          case isTrue isDigit => exact isDigit
          case isFalse => cases found
        exact List.forall_mem_cons.mpr ⟨first, ih read⟩

theorem value?_eq_some_iff {chars : List Char} {number : Nat} :
    value? chars = some number ↔
      chars ≠ [] ∧ (∀ char ∈ chars, char.isDigit = true) ∧
        Nat.ofDigitChars 10 chars 0 = number := by
  constructor
  · intro read
    cases chars with
    | nil => cases read
    | cons char rest =>
        have digits := isDigit_of_continued? read
        have value := continued?_eq digits 0
        exact ⟨List.cons_ne_nil char rest, digits, Option.some.inj (value.symm.trans read)⟩
  · rintro ⟨nonempty, digits, rfl⟩
    exact value?_eq nonempty digits

/-- The characters are a numeral of the number: one or more digits, of which any number may be
leading zeros, perhaps with a plus sign in front. -/
def Denotes (chars : List Char) (number : Nat) : Prop :=
  ∃ digits : List Char, (chars = digits ∨ chars = '+' :: digits) ∧ digits ≠ [] ∧
    (∀ char ∈ digits, char.isDigit = true) ∧ Nat.ofDigitChars 10 digits 0 = number

theorem unsigned?_eq_some_iff {chars : List Char} {number : Nat} :
    unsigned? chars = some number ↔ Denotes chars number := by
  simp only [Denotes, ← value?_eq_some_iff]
  unfold unsigned?
  split
  · next rest =>
      constructor
      · intro read
        exact ⟨rest, Or.inr rfl, read⟩
      · rintro ⟨digits, rfl | same, read⟩
        · obtain ⟨_nonempty, digits, _value⟩ := value?_eq_some_iff.mp read
          cases digits '+' List.mem_cons_self
        · cases same
          exact read
  · next unsigned =>
      constructor
      · intro read
        exact ⟨chars, Or.inl rfl, read⟩
      · rintro ⟨digits, rfl | same, read⟩
        · exact read
        · exact absurd same (unsigned digits)

theorem Denotes.unique {chars : List Char} {left right : Nat} (isLeft : Denotes chars left)
    (isRight : Denotes chars right) : left = right :=
  Option.some.inj
    ((unsigned?_eq_some_iff.mpr isLeft).symm.trans (unsigned?_eq_some_iff.mpr isRight))

theorem bounded?_eq_some_iff {limit number : Nat} {text : String} :
    bounded? limit text = some number ↔ Denotes text.toList number ∧ number ≤ limit := by
  rw [← unsigned?_eq_some_iff, bounded?]
  cases unsigned? text.toList with
  | none => exact iff_of_false nofun fun read => nomatch read.1
  | some value =>
      by_cases fits : value ≤ limit
      · simp only [if_pos fits, Option.some.injEq]
        constructor
        · rintro rfl
          exact ⟨rfl, fits⟩
        · exact And.left
      · simp only [if_neg fits, Option.some.injEq]
        refine iff_of_false nofun ?_
        rintro ⟨rfl, within⟩
        exact fits within

example : bounded? 65535 "+00065535" = some 65535 ∧ bounded? 65535 "65536" = none := by
  decide +kernel

end Decimal
end WorkflowBus
