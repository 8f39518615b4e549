/-
The numeral of a floating-point number tells the number.

Each magnitude is nearest to itself, so that its shortest decimal exists and is nearest to it
alone.  Wherever the point of the numeral stands, the numeral has the value of that decimal.
-/

import WorkflowBus.Binary64
import WorkflowBus.Proofs.Numeral

namespace WorkflowBus
namespace Binary64

theorem rounded_mul_right (numerator denominator : Nat) {factor : Nat} (positive : 0 < factor) :
    rounded (numerator * factor) (denominator * factor) = rounded numerator denominator := by
  have twice : 2 * (numerator % denominator * factor) =
      2 * (numerator % denominator) * factor := (Nat.mul_assoc 2 _ factor).symm
  simp only [rounded, Nat.mul_div_mul_right numerator denominator positive,
    Nat.mul_mod_mul_right, twice, Nat.mul_lt_mul_right positive,
    Nat.mul_left_inj (Nat.ne_of_gt positive)]

theorem rounded_mul_self (number : Nat) {denominator : Nat} (positive : 0 < denominator) :
    rounded (number * denominator) denominator = number := by
  rw [rounded, Nat.mul_div_cancel number positive, Nat.mul_mod_left]
  exact if_pos (Or.inl positive)

theorem units_eq (magnitude : Nat) :
    units magnitude = if magnitude < 2 ^ 52 then magnitude
      else (2 ^ 52 + magnitude % 2 ^ 52) * 2 ^ (magnitude / 2 ^ 52 - 1) :=
  rfl

theorem nearest_eq (numerator denominator : Nat) :
    nearest numerator denominator = ((numerator / denominator).log2 - 52) * 2 ^ 52 +
      rounded numerator (denominator * 2 ^ ((numerator / denominator).log2 - 52)) :=
  rfl

theorem ofDecimal_eq (digits : Nat) (exponent : Int) :
    ofDecimal digits exponent =
      nearest (digits * 10 ^ exponent.toNat * unitsPerOne) (10 ^ (-exponent).toNat) :=
  rfl

theorem nearest_mul_right (numerator denominator : Nat) {factor : Nat} (positive : 0 < factor) :
    nearest (numerator * factor) (denominator * factor) = nearest numerator denominator := by
  rw [nearest, Nat.mul_div_mul_right numerator denominator positive, Nat.mul_right_comm,
    rounded_mul_right _ _ positive]
  rfl

theorem nearest_zero (denominator : Nat) : nearest 0 denominator = 0 := by
  have nothing (denominator : Nat) : rounded 0 denominator = 0 := by
    rw [rounded, Nat.zero_div, Nat.zero_mod]
    exact if_pos ((Nat.eq_zero_or_pos denominator).symm.imp id fun zero => ⟨zero.symm, rfl⟩)
  rw [nearest, Nat.zero_div, nothing]
  rfl

theorem log2_of_normal {significand : Nat} (normal : 2 ^ 52 ≤ significand)
    (fits : significand < 2 ^ 53) (shift : Nat) :
    (significand * 2 ^ shift).log2 = 52 + shift := by
  have positive : significand * 2 ^ shift ≠ 0 :=
    Nat.mul_ne_zero (by omega) (Nat.ne_of_gt (Nat.two_pow_pos shift))
  rw [Nat.log2_eq_iff positive, Nat.pow_add, Nat.add_right_comm 52 shift 1, Nat.pow_add]
  exact ⟨Nat.mul_le_mul_right _ normal, Nat.mul_lt_mul_of_pos_right fits (Nat.two_pow_pos shift)⟩

theorem nearest_of_normal {significand : Nat} (normal : 2 ^ 52 ≤ significand)
    (fits : significand < 2 ^ 53) (shift : Nat) {denominator : Nat} (positive : 0 < denominator) :
    nearest (significand * 2 ^ shift * denominator) denominator =
      shift * 2 ^ 52 + significand := by
  have scaled : significand * 2 ^ shift * denominator =
      significand * (denominator * 2 ^ shift) := by
    rw [Nat.mul_assoc, Nat.mul_comm (2 ^ shift)]
  have exponent : (significand * 2 ^ shift * denominator / denominator).log2 - 52 = shift := by
    rw [Nat.mul_div_cancel _ positive, log2_of_normal normal fits, Nat.add_sub_cancel_left]
  rw [nearest_eq, exponent]
  rw [scaled, rounded_mul_self _ (Nat.mul_pos positive (Nat.two_pow_pos shift))]

theorem nearest_of_small {number : Nat} (small : number < 2 ^ 52) {denominator : Nat}
    (positive : 0 < denominator) : nearest (number * denominator) denominator = number := by
  have exponent : (number * denominator / denominator).log2 - 52 = 0 := by
    rw [Nat.mul_div_cancel _ positive]
    rcases Nat.eq_zero_or_pos number with rfl | some
    · rfl
    · exact Nat.sub_eq_zero_of_le (Nat.le_of_lt ((Nat.log2_lt (Nat.ne_of_gt some)).mpr small))
  rw [nearest_eq, exponent]
  rw [Nat.zero_mul, Nat.zero_add, Nat.pow_zero, Nat.mul_one, rounded_mul_self _ positive]

theorem nearest_units (magnitude : Nat) {denominator : Nat} (positive : 0 < denominator) :
    nearest (units magnitude * denominator) denominator = magnitude := by
  rw [units_eq]
  split
  · next small => exact nearest_of_small small positive
  · next large =>
      have fraction : magnitude % 2 ^ 52 < 2 ^ 52 := Nat.mod_lt _ (by decide)
      rw [nearest_of_normal (by omega) (by omega) _ positive]
      omega

theorem ofDecimal_of_decimalAt? {magnitude digits : Nat} {exponent : Int}
    (found : decimalAt? magnitude exponent = some digits) :
    ofDecimal digits exponent = magnitude := by
  have nearestTo := List.find?_some found
  exact of_decide_eq_true nearestTo

theorem five_pow_mul_two_pow (places : Nat) : 5 ^ places * 2 ^ places = 10 ^ places :=
  (Nat.mul_pow 5 2 places).symm

theorem ofDecimal_exactDecimal (magnitude : Nat) :
    ofDecimal (exactDecimal magnitude).1 (exactDecimal magnitude).2 = magnitude := by
  have whole : (-(unitPlaces : Int)).toNat = 0 := Int.toNat_eq_zero.mpr (by omega)
  have places : (-(-(unitPlaces : Int))).toNat = unitPlaces := by omega
  rw [ofDecimal_eq, exactDecimal, whole, places, Nat.pow_zero, Nat.mul_one, unitsPerOne,
    Nat.mul_assoc, Nat.pow_eq, Nat.pow_eq, five_pow_mul_two_pow]
  exact nearest_units magnitude (Nat.pow_pos (by decide))

theorem ofDecimal_shortest (magnitude : Nat) :
    ofDecimal (shortest magnitude).1 (shortest magnitude).2 = magnitude := by
  rw [shortest]
  generalize tried : exponents.findSome? _ = found
  cases found with
  | none => exact ofDecimal_exactDecimal magnitude
  | some decimal =>
      obtain ⟨exponent, _listed, read⟩ := List.exists_of_findSome?_eq_some tried
      obtain ⟨digits, hit, rfl⟩ := Option.map_eq_some_iff.mp read
      exact ofDecimal_of_decimalAt? hit

theorem shortest_pos {magnitude : Nat} (some : magnitude ≠ 0) : 0 < (shortest magnitude).1 := by
  refine Nat.pos_of_ne_zero fun none => some ?_
  rw [← ofDecimal_shortest magnitude, none, ofDecimal, Nat.zero_mul, Nat.zero_mul, nearest_zero]

theorem ofDecimal_mul_ten (digits : Nat) {exponent : Int} (whole : 0 ≤ exponent) :
    ofDecimal (10 ^ exponent.toNat * digits * 10) (-1) = ofDecimal digits exponent := by
  have noPlaces : (-exponent).toNat = 0 := Int.toNat_eq_zero.mpr (by omega)
  have product : 10 ^ exponent.toNat * digits * 10 * 10 ^ (-1 : Int).toNat * unitsPerOne =
      digits * 10 ^ exponent.toNat * unitsPerOne * 10 := by
    show 10 ^ exponent.toNat * digits * 10 * 1 * unitsPerOne = _
    rw [Nat.mul_one, Nat.mul_comm (10 ^ exponent.toNat), Nat.mul_right_comm]
  have tens : 10 ^ (-(-1 : Int)).toNat = 10 ^ (-exponent).toNat * 10 := by
    rw [noPlaces]
    rfl
  rw [ofDecimal_eq, product, tens, nearest_mul_right _ _ (by decide), ofDecimal_eq]

end Binary64

/-! ### Numerals -/

/-- The decimal that a numeral stands for, but for its sign. -/
def Numeral.decimal (numeral : Numeral) : Nat × Int :=
  (Nat.ofDigitChars 10 (numeral.whole ++ numeral.fraction) 0,
    numeral.exponent.getD 0 - numeral.fraction.length)

namespace Binary64

/-- A numeral that is written as numerals are, is no integer's, and tells a sign and a
magnitude. -/
structure Tells (numeral : Numeral) (negative : Bool) (magnitude : Nat) : Prop where
  written : numeral.Written
  broken : numeral.isWhole = false
  sign : numeral.negative = negative
  value : ofDecimal numeral.decimal.1 numeral.decimal.2 = magnitude

theorem isDigit_of_mem_replicate {count : Nat} {char : Char}
    (member : char ∈ List.replicate count '0') : char.isDigit = true := by
  rw [List.eq_of_mem_replicate member]
  rfl

theorem head?_toDigits_ne {digits : Nat} (positive : 0 < digits) :
    (Nat.toDigits 10 digits).head? ≠ some '0' := by
  intro zero
  obtain ⟨rest, split⟩ := List.head?_eq_some_iff.mp zero
  exact Decimal.head_toDigits_ne positive split

section Places

variable (negative : Bool) {digits : Nat} (positive : 0 < digits) {exponent : Int}

include positive

theorem tells_padded (whole : 0 ≤ exponent) :
    Tells ⟨negative, Nat.toDigits 10 digits ++ List.replicate exponent.toNat '0', ['0'], none⟩
      negative (ofDecimal digits exponent) where
  written :=
    { whole := by
        refine Or.inr ⟨List.append_ne_nil_of_left_ne_nil Nat.toDigits_ne_nil _, ?_⟩
        rw [List.head?_append_of_ne_nil _ Nat.toDigits_ne_nil]
        exact head?_toDigits_ne positive
      wholeDigits := by
        intro char member
        rcases List.mem_append.mp member with digit | zero
        · exact Decimal.isDigit_of_mem_toDigits digit
        · exact isDigit_of_mem_replicate zero
      fractionDigits := List.forall_mem_singleton.mpr rfl }
  broken := rfl
  sign := rfl
  value := by
    rw [← ofDecimal_mul_ten digits whole, Numeral.decimal]
    congr 1
    rw [Nat.ofDigitChars_append, Nat.ofDigitChars_append, Nat.ofDigitChars_ten_toDigits,
      Nat.ofDigitChars_replicate_zero, Nat.mul_comm _ 10]
    rfl

theorem written_take {places : Nat} (some : 0 < places) (exponent? : Option Int) :
    Numeral.Written ⟨negative, (Nat.toDigits 10 digits).take places,
      (Nat.toDigits 10 digits).drop places, exponent?⟩ where
  whole := by
    refine Or.inr ⟨?_, ?_⟩
    · rw [ne_eq, List.take_eq_nil_iff, not_or]
      exact ⟨Nat.ne_of_gt some, Nat.toDigits_ne_nil⟩
    · rw [List.head?_take, if_neg (Nat.ne_of_gt some)]
      exact head?_toDigits_ne positive
  wholeDigits _char member := Decimal.isDigit_of_mem_toDigits (List.mem_of_mem_take member)
  fractionDigits _char member := Decimal.isDigit_of_mem_toDigits (List.mem_of_mem_drop member)

theorem tells_split {places : Nat} (some : 0 < places) {exponent? : Option Int}
    (broken : (Numeral.mk negative ((Nat.toDigits 10 digits).take places)
      ((Nat.toDigits 10 digits).drop places) exponent?).isWhole = false)
    (same : exponent?.getD 0 - ((Nat.toDigits 10 digits).drop places).length = exponent) :
    Tells ⟨negative, (Nat.toDigits 10 digits).take places, (Nat.toDigits 10 digits).drop places,
      exponent?⟩ negative (ofDecimal digits exponent) where
  written := written_take negative positive some exponent?
  broken := broken
  sign := rfl
  value := by
    rw [Numeral.decimal]
    dsimp only
    rw [same, List.take_append_drop, Nat.ofDigitChars_ten_toDigits]

omit positive in
theorem tells_small {zeros : Nat}
    (same : -((zeros + (Nat.toDigits 10 digits).length : Nat) : Int) = exponent) :
    Tells ⟨negative, ['0'], List.replicate zeros '0' ++ Nat.toDigits 10 digits, none⟩ negative
      (ofDecimal digits exponent) where
  written :=
    { whole := Or.inl rfl
      wholeDigits := List.forall_mem_singleton.mpr rfl
      fractionDigits := by
        intro char member
        rcases List.mem_append.mp member with zero | digit
        · exact isDigit_of_mem_replicate zero
        · exact Decimal.isDigit_of_mem_toDigits digit }
  broken := by
    have some := List.append_ne_nil_of_right_ne_nil (List.replicate zeros '0')
      (Nat.toDigits_ne_nil (n := digits) (b := 10))
    rw [Numeral.isWhole, List.isEmpty_eq_false_iff.mpr some, Bool.false_and]
  sign := rfl
  value := by
    rw [Numeral.decimal]
    dsimp only
    rw [← same]
    congr 1
    · rw [← List.append_assoc]
      show Nat.ofDigitChars 10 (List.replicate (zeros + 1) '0' ++ Nat.toDigits 10 digits) 0 = digits
      rw [Nat.ofDigitChars_append, Nat.ofDigitChars_replicate_zero, Nat.mul_zero,
        Nat.ofDigitChars_ten_toDigits]
    · rw [List.length_append, List.length_replicate, Option.getD_none, Int.zero_sub]

theorem tells_numeralOf (exponent : Int) :
    Tells (numeralOf negative (Nat.toDigits 10 digits) exponent) negative
      (ofDecimal digits exponent) := by
  have some : 0 < (Nat.toDigits 10 digits).length := List.length_pos_of_ne_nil Nat.toDigits_ne_nil
  unfold numeralOf
  dsimp only
  split
  · next padded => exact tells_padded negative positive padded.1
  · next unpadded =>
      split
      · next inside =>
          have length : (((Nat.toDigits 10 digits).drop
              ((Nat.toDigits 10 digits).length + exponent).toNat).length : Int) = -exponent := by
            rw [List.length_drop]
            omega
          have places : (Nat.toDigits 10 digits).drop
              ((Nat.toDigits 10 digits).length + exponent).toNat ≠ [] := by
            intro none
            rw [none, List.length_nil] at length
            omega
          refine tells_split negative positive (by omega) ?_ ?_
          · rw [Numeral.isWhole, List.isEmpty_eq_false_iff.mpr places, Bool.false_and]
          · rw [length, Option.getD_none]
            omega
      · split
        · exact tells_small negative (by omega)
        · refine tells_split negative positive Nat.zero_lt_one ?_ ?_
          · rw [Numeral.isWhole, Option.isNone_some, Bool.and_false]
          · rw [List.length_drop, Option.getD_some]
            omega

end Places

theorem tells_numeral (value : Binary64) :
    Tells value.numeral value.negative value.magnitude := by
  unfold numeral
  split
  · next zero =>
      rw [zero]
      exact
        { written :=
            { whole := Or.inl rfl
              wholeDigits := List.forall_mem_singleton.mpr rfl
              fractionDigits := List.forall_mem_singleton.mpr rfl }
          broken := rfl
          sign := rfl
          value := by
            show ofDecimal 0 _ = 0
            rw [ofDecimal, Nat.zero_mul, Nat.zero_mul, nearest_zero] }
  · next some =>
      have told := tells_numeralOf value.negative (shortest_pos some) (shortest value.magnitude).2
      rw [ofDecimal_shortest] at told
      exact told

theorem numeral_injective {left right : Binary64} (same : left.numeral = right.numeral) :
    left = right := by
  have told := tells_numeral left
  have otherTold := tells_numeral right
  rw [same] at told
  exact Binary64.ext (told.sign.symm.trans otherTold.sign) (told.value.symm.trans otherTold.value)

end Binary64
end WorkflowBus
