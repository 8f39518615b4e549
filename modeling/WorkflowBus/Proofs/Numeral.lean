/-
Numerals that are written are read back.

What follows a numeral is left for the next reader.  It has to be nothing that the numeral
could go on with: no digit, no point and no letter of an exponent.  So the characters of a
numeral tell all of its parts.
-/

import WorkflowBus.Proofs.Decimal
import WorkflowBus.Text.Numeral

namespace WorkflowBus
namespace Numeral

def goesOn (char : Char) : Bool :=
  char.isDigit || char = '.' || char = 'e' || char = 'E'

def Closes (chars : List Char) : Prop :=
  ∀ first ∈ chars.head?, goesOn first = false

theorem closes_nil : Closes [] :=
  nofun

theorem closes_cons {first : Char} {rest : List Char} (closed : goesOn first = false) :
    Closes (first :: rest) := by
  intro char member
  cases member
  exact closed

/-- A numeral as it is written: its whole part has no zeros in front, and digits are digits. -/
structure Written (numeral : Numeral) : Prop where
  whole : numeral.whole = ['0'] ∨ numeral.whole ≠ [] ∧ numeral.whole.head? ≠ some '0'
  wholeDigits : ∀ char ∈ numeral.whole, char.isDigit = true
  fractionDigits : ∀ char ∈ numeral.fraction, char.isDigit = true

theorem Closes.ends {rest : List Char} (closes : Closes rest) : Decimal.Ends rest := by
  intro first present
  have closed := closes first present
  simp only [goesOn, Bool.or_eq_false_iff] at closed
  exact closed.1.1.1

theorem digits?_append {digits rest : List Char} (some : digits ≠ [])
    (each : ∀ char ∈ digits, char.isDigit = true) (ends : Decimal.Ends rest) :
    digits? (digits ++ rest) = Option.some (digits, rest) := by
  have stop : rest.takeWhile Char.isDigit = [] ∧ rest.dropWhile Char.isDigit = rest := by
    cases rest with
    | nil => exact ⟨rfl, rfl⟩
    | cons first rest =>
        have closed : ¬first.isDigit = true := by
          rw [ends first rfl]
          exact Bool.false_ne_true
        exact ⟨List.takeWhile_cons_of_neg closed, List.dropWhile_cons_of_neg closed⟩
  rw [digits?, List.takeWhile_append_of_pos each, List.dropWhile_append_of_pos each, stop.1,
    stop.2, List.append_nil]
  cases digits with
  | nil => exact absurd rfl some
  | cons first others => rfl

theorem whole?_append {numeral : Numeral} (written : numeral.Written) {rest : List Char}
    (ends : Decimal.Ends rest) :
    whole? (numeral.whole ++ rest) = some (numeral.whole, rest) := by
  rcases written.whole with zero | ⟨some, noZero⟩
  · rw [zero]
    rfl
  · have read := digits?_append some written.wholeDigits ends
    cases split : numeral.whole with
    | nil => exact absurd split some
    | cons first others =>
        rw [split] at read noZero
        unfold whole?
        split
        · cases ‹first :: others ++ rest = '0' :: _›
          exact absurd rfl noZero
        · exact read

theorem head?_exponentChars_append (numeral : Numeral) (rest : List Char) :
    (numeral.exponentChars ++ rest).head? = some 'e' ∨ numeral.exponentChars ++ rest = rest := by
  unfold exponentChars
  cases numeral.exponent with
  | none => exact Or.inr rfl
  | some exponent => exact Or.inl rfl

theorem head?_fractionChars_append (numeral : Numeral) (rest : List Char) :
    (numeral.fractionChars ++ rest).head? = some '.' ∨ numeral.fractionChars ++ rest = rest := by
  unfold fractionChars
  cases numeral.fraction with
  | nil => exact Or.inr rfl
  | cons first others => exact Or.inl rfl

theorem ends_of_head? {chars rest : List Char} {char : Char} (noDigit : char.isDigit = false)
    (heads : chars.head? = some char ∨ chars = rest) (ends : Decimal.Ends rest) :
    Decimal.Ends chars := by
  rcases heads with first | same
  · intro other present
    rw [first] at present
    cases present
    exact noDigit
  · rw [same]
    exact ends

theorem fraction?_append {numeral : Numeral} (written : numeral.Written) {rest : List Char}
    (ends : Decimal.Ends rest) (noPoint : rest.head? ≠ some '.') :
    fraction? (numeral.fractionChars ++ rest) = some (numeral.fraction, rest) := by
  unfold fractionChars
  cases digits : numeral.fraction with
  | nil =>
      rw [List.nil_append]
      unfold fraction?
      split
      · exact absurd rfl noPoint
      · rfl
  | cons first others =>
      have each := written.fractionDigits
      rw [digits] at each
      exact digits?_append (List.cons_ne_nil first others) each ends

theorem sign_of_digit {first : Char} (digit : first.isDigit = true) (rest : List Char) :
    sign (first :: rest) = (false, first :: rest) := by
  unfold sign
  split
  · cases ‹first :: rest = '-' :: _›
    cases digit
  · rfl

theorem toList_toString (value : Int) : (toString value).toList = (ofInt value).chars := by
  cases value with
  | ofNat number =>
      show number.repr.toList = _ ++ (Nat.toDigits 10 number ++ ([] ++ []))
      rw [Nat.toList_repr, List.append_nil, List.append_nil]
      rfl
  | negSucc number =>
      have negative : Int.negSucc number < 0 := Int.negSucc_lt_zero number
      show ("-" ++ number.succ.repr).toList =
        (if decide (Int.negSucc number < 0) = true then ['-'] else []) ++
          (Nat.toDigits 10 number.succ ++ ([] ++ []))
      rw [decide_eq_true negative, String.toList_append, Nat.toList_repr, List.append_nil,
        List.append_nil]
      rfl

theorem written_ofInt (value : Int) : (ofInt value).Written where
  whole := by
    show Nat.toDigits 10 value.natAbs = ['0'] ∨ _
    cases magnitude : value.natAbs with
    | zero => exact Or.inl rfl
    | succ number =>
        refine Or.inr ⟨?_, ?_⟩
        · exact Nat.toDigits_ne_nil
        · intro zero
          obtain ⟨rest, split⟩ := List.head?_eq_some_iff.mp zero
          simp only [ofInt, magnitude] at split
          exact Decimal.head_toDigits_ne (Nat.succ_pos number) split
  wholeDigits _char member := Decimal.isDigit_of_mem_toDigits member
  fractionDigits := nofun

theorem toDigits_cons (number : Nat) :
    ∃ first rest, Nat.toDigits 10 number = first :: rest ∧ first.isDigit = true := by
  cases split : Nat.toDigits 10 number with
  | nil => exact absurd split Nat.toDigits_ne_nil
  | cons first rest =>
      have member : first ∈ Nat.toDigits 10 number := split ▸ List.mem_cons_self
      exact ⟨first, rest, rfl, Decimal.isDigit_of_mem_toDigits member⟩

theorem exponentSign_of_digit {first : Char} (digit : first.isDigit = true) (rest : List Char) :
    exponentSign (first :: rest) = (false, first :: rest) := by
  unfold exponentSign
  split
  · cases ‹first :: rest = '+' :: _›
    cases digit
  · cases ‹first :: rest = '-' :: _›
    cases digit
  · rfl

theorem exponentSign_toString (value : Int) (rest : List Char) :
    exponentSign ((toString value).toList ++ rest) =
      (decide (value < 0), Nat.toDigits 10 value.natAbs ++ rest) := by
  have chars : (toString value).toList =
      (if value < 0 then ['-'] else []) ++ Nat.toDigits 10 value.natAbs := by
    rw [toList_toString]
    simp [Numeral.chars, ofInt, signChars, fractionChars, exponentChars]
  rw [chars]
  by_cases negative : value < 0
  · rw [if_pos negative, decide_eq_true negative]
    rfl
  · obtain ⟨first, others, split, digit⟩ := toDigits_cons value.natAbs
    rw [if_neg negative, decide_eq_false negative, split]
    exact exponentSign_of_digit digit _

theorem signed?_toString (value : Int) {rest : List Char} (ends : Decimal.Ends rest) :
    signed? ((toString value).toList ++ rest) = some (value, rest) := by
  have digits := digits?_append Nat.toDigits_ne_nil
    (fun char (member : char ∈ Nat.toDigits 10 value.natAbs) =>
      Decimal.isDigit_of_mem_toDigits member) ends
  have same : (if decide (value < 0) = true then -(value.natAbs : Int) else value.natAbs) =
      value := by
    simp only [decide_eq_true_eq]
    split <;> omega
  rw [signed?, exponentSign_toString]
  simp only [digits, Decimal.value?_toDigits, Option.bind_eq_bind, Option.bind_some, same]
  rfl

theorem exponent?_append (numeral : Numeral) {rest : List Char} (closes : Closes rest) :
    exponent? (numeral.exponentChars ++ rest) = some (numeral.exponent, rest) := by
  unfold exponentChars
  cases numeral.exponent with
  | none =>
      rw [List.nil_append]
      unfold exponent?
      split
      · cases closes 'e' rfl
      · cases closes 'E' rfl
      · rfl
  | some exponent =>
      rw [List.cons_append, exponent?, signed?_toString exponent closes.ends]
      rfl

theorem whole_cons {numeral : Numeral} (written : numeral.Written) :
    ∃ first rest, numeral.whole = first :: rest ∧ first.isDigit = true := by
  cases split : numeral.whole with
  | nil =>
      rcases written.whole with zero | ⟨some, _noZero⟩
      · rw [zero] at split
        cases split
      · exact absurd split some
  | cons first rest =>
      exact ⟨first, rest, rfl, written.wholeDigits first (split ▸ List.mem_cons_self)⟩

theorem sign_append {numeral : Numeral} (written : numeral.Written) (rest : List Char) :
    sign (numeral.signChars ++ (numeral.whole ++ rest)) =
      (numeral.negative, numeral.whole ++ rest) := by
  unfold signChars
  cases numeral.negative with
  | true => rfl
  | false =>
      obtain ⟨first, others, split, digit⟩ := whole_cons written
      rw [split]
      exact sign_of_digit digit _

theorem read?_chars {numeral : Numeral} (written : numeral.Written) {rest : List Char}
    (closes : Closes rest) : read? (numeral.chars ++ rest) = some (numeral, rest) := by
  have exponent := exponent?_append numeral closes
  have exponentHead := numeral.head?_exponentChars_append rest
  have exponentEnds := ends_of_head? rfl exponentHead closes.ends
  have noPoint : (numeral.exponentChars ++ rest).head? ≠ some '.' := by
    rcases exponentHead with first | same
    · rw [first]
      decide
    · rw [same]
      intro point
      cases closes '.' point
  have fraction := fraction?_append written exponentEnds noPoint
  have fractionEnds :=
    ends_of_head? rfl (numeral.head?_fractionChars_append _) exponentEnds
  have whole := whole?_append written fractionEnds
  have sign := sign_append written (numeral.fractionChars ++ (numeral.exponentChars ++ rest))
  simp only [chars, List.append_assoc, read?, sign, whole, fraction, exponent,
    Option.bind_eq_bind, Option.bind_some]
  rfl

/-- Wherever a numeral ends, its characters tell it and what follows. -/
theorem chars_apart {left right : Numeral} (written : left.Written) (otherWritten : right.Written)
    {rest otherRest : List Char} (closes : Closes rest) (otherCloses : Closes otherRest)
    (same : left.chars ++ rest = right.chars ++ otherRest) : left = right ∧ rest = otherRest := by
  have read := congrArg read? same
  rw [read?_chars written closes, read?_chars otherWritten otherCloses] at read
  exact Prod.mk.inj (Option.some.inj read)

theorem toString_apart {value other : Int} {rest otherRest : List Char} (ends : Decimal.Ends rest)
    (otherEnds : Decimal.Ends otherRest)
    (same : (toString value).toList ++ rest = (toString other).toList ++ otherRest) :
    value = other ∧ rest = otherRest := by
  have read := congrArg signed? same
  rw [signed?_toString value ends, signed?_toString other otherEnds] at read
  exact Prod.mk.inj (Option.some.inj read)

theorem ofInt_injective {value other : Int} (same : ofInt value = ofInt other) : value = other := by
  have written := congrArg chars same
  rw [← toList_toString, ← toList_toString] at written
  exact (toString_apart Decimal.ends_nil Decimal.ends_nil (congrArg (· ++ []) written)).1

/-! ### Hyphens -/

theorem count_hyphen_eq_zero {digits : List Char} (each : ∀ char ∈ digits, char.isDigit = true) :
    digits.count '-' = 0 := by
  rw [List.count_eq_zero]
  intro member
  cases each '-' member

theorem count_hyphen_signChars (numeral : Numeral) : numeral.signChars.count '-' ≤ 1 := by
  unfold signChars
  split <;> decide

theorem count_hyphen_toString (value : Int) : (toString value).toList.count '-' ≤ 1 := by
  have digits := count_hyphen_eq_zero fun char (member : char ∈ Nat.toDigits 10 value.natAbs) =>
    Decimal.isDigit_of_mem_toDigits member
  have sign := (ofInt value).count_hyphen_signChars
  rw [toList_toString, chars, List.count_append]
  show _ + (Nat.toDigits 10 value.natAbs ++ ([] ++ [])).count '-' ≤ 1
  rw [List.append_nil, List.append_nil, digits]
  exact sign

theorem chars_cons {numeral : Numeral} (written : numeral.Written) :
    ∃ first rest, numeral.chars = first :: rest ∧ (first.isDigit = true ∨ first = '-') ∧
      rest.count '-' ≤ 1 := by
  have fraction : numeral.fractionChars.count '-' = 0 := by
    have digits := count_hyphen_eq_zero written.fractionDigits
    unfold fractionChars
    cases split : numeral.fraction with
    | nil => rfl
    | cons first others =>
        rw [split] at digits
        rw [List.count_cons_of_ne (by decide), digits]
  have exponent : numeral.exponentChars.count '-' ≤ 1 := by
    unfold exponentChars
    cases numeral.exponent with
    | none => exact Nat.zero_le 1
    | some exponent =>
        rw [List.count_cons_of_ne (by decide)]
        exact count_hyphen_toString exponent
  have whole := count_hyphen_eq_zero written.wholeDigits
  obtain ⟨first, others, split, digit⟩ := whole_cons written
  unfold chars signChars
  cases numeral.negative with
  | true =>
      refine ⟨'-', numeral.whole ++ (numeral.fractionChars ++ numeral.exponentChars), rfl,
        Or.inr rfl, ?_⟩
      rw [List.count_append, List.count_append, whole, fraction]
      omega
  | false =>
      rw [split] at whole ⊢
      refine ⟨first, others ++ (numeral.fractionChars ++ numeral.exponentChars), rfl,
        Or.inl digit, ?_⟩
      have later : others.count '-' = 0 := Nat.eq_zero_of_le_zero
        (whole ▸ List.count_le_count_cons)
      rw [List.count_append, List.count_append, later, fraction]
      omega

end Numeral
end WorkflowBus
