/-
Characters without regard to case, and hexadecimal digits.

Folding changes capital letters of ASCII and nothing else, one character at a time.  A digit
that is written is read back, from its small letter and from its capital one, and a run of
digits of a known length from any mixture of them.  The digits of a number tell the number,
and they end where no further digit stands.
-/

import Mathlib.Data.Nat.Digits.Lemmas
import WorkflowBus.Text.Character

namespace WorkflowBus
namespace Casing

theorem length_fold (chars : List Char) : (fold chars).length = chars.length :=
  List.length_map _

theorem fold_cons (head : Char) (rest : List Char) :
    fold (head :: rest) = head.toLower :: fold rest :=
  rfl

theorem fold_append (front back : List Char) : fold (front ++ back) = fold front ++ fold back :=
  List.map_append

theorem toLower_of_not_ascii {letter : Char} (beyond : 128 ≤ letter.toNat) :
    letter.toLower = letter := by
  unfold Char.toLower
  refine dif_neg fun upper => ?_
  have last : letter.toNat ≤ 'Z'.toNat := UInt32.le_iff_toNat_le.mp upper.2
  have ascii : 'Z'.toNat < 128 := by decide
  omega

theorem toLower_ascii : ∀ code : Fin 128, (Char.ofNat code.val).toLower.isLower = false →
    (Char.ofNat code.val).toLower = Char.ofNat code.val := by
  decide +kernel

theorem toLower_eq_iff {letter sign : Char} (caseless : sign.toLower = sign)
    (noLetter : sign.isLower = false) : letter.toLower = sign ↔ letter = sign := by
  constructor
  · rintro rfl
    by_cases ascii : letter.toNat < 128
    · have same := toLower_ascii ⟨letter.toNat, ascii⟩
      rw [Char.ofNat_toNat] at same
      exact (same noLetter).symm
    · exact (toLower_of_not_ascii (Nat.le_of_not_lt ascii)).symm
  · rintro rfl
    exact caseless

end Casing

namespace Hex

theorem digit?_char (digit : Fin 16) : digit? (char digit) = some digit := by
  revert digit
  decide

theorem digit?_ascii : ∀ (code : Fin 128) (digit : Fin 16),
    digit? (Char.ofNat code.val) = some digit ↔ (Char.ofNat code.val).toLower = char digit := by
  decide +kernel

theorem toNat_char_lt (digit : Fin 16) : (char digit).toNat < 128 := by
  revert digit
  decide

theorem digit?_of_not_ascii {letter : Char} (beyond : 128 ≤ letter.toNat) :
    digit? letter = none := by
  have zero : '9'.toNat < 128 := by decide
  have small : 'f'.toNat < 128 := by decide
  have large : 'F'.toNat < 128 := by decide
  unfold digit?
  rw [if_neg (by omega), if_neg (by omega), if_neg (by omega)]

theorem digit?_eq_some_iff {letter : Char} {digit : Fin 16} :
    digit? letter = some digit ↔ letter.toLower = char digit := by
  by_cases ascii : letter.toNat < 128
  · have each := digit?_ascii ⟨letter.toNat, ascii⟩ digit
    rwa [Char.ofNat_toNat] at each
  · have beyond := Nat.le_of_not_lt ascii
    rw [digit?_of_not_ascii beyond, Casing.toLower_of_not_ascii beyond]
    refine iff_of_false nofun ?_
    rintro rfl
    exact ascii (toNat_char_lt digit)

theorem run?_eq_some_iff {count : Nat} {chars rest : List Char} {digits : List (Fin 16)} :
    run? count chars = some (digits, rest) ↔
      ∃ front, chars = front ++ rest ∧ digits.length = count ∧
        Casing.fold front = digits.map char := by
  induction count generalizing chars digits with
  | zero =>
      rw [run?, Option.some.injEq, Prod.mk.injEq]
      constructor
      · rintro ⟨rfl, rfl⟩
        exact ⟨[], rfl, rfl, rfl⟩
      · rintro ⟨front, rfl, none, same⟩
        cases List.eq_nil_of_length_eq_zero none
        cases List.map_eq_nil_iff.mp same
        exact ⟨rfl, rfl⟩
  | succ count ih =>
      cases chars with
      | nil =>
          refine iff_of_false nofun ?_
          rintro ⟨front, split, some, same⟩
          cases (List.append_eq_nil_iff.mp split.symm).1
          cases List.map_eq_nil_iff.mp same.symm
          cases some
      | cons letter chars =>
          constructor
          · intro read
            rw [run?] at read
            obtain ⟨digit, first, read⟩ := Option.bind_eq_some_iff.mp read
            obtain ⟨⟨others, remaining⟩, run, same⟩ := Option.bind_eq_some_iff.mp read
            cases same
            obtain ⟨front, rfl, rfl, folded⟩ := ih.mp run
            refine ⟨letter :: front, rfl, rfl, ?_⟩
            rw [Casing.fold, List.map_cons, digit?_eq_some_iff.mp first, List.map_cons, ← folded]
            rfl
          · rintro ⟨front, split, length, folded⟩
            cases digits with
            | nil => cases length
            | cons digit digits =>
                cases front with
                | nil => cases folded
                | cons head front =>
                    rw [List.cons_append] at split
                    obtain ⟨rfl, rfl⟩ := List.cons.inj split
                    obtain ⟨first, others⟩ := List.cons.inj folded
                    have run := ih.mpr ⟨front, rfl, Nat.succ.inj length, others⟩
                    simp only [run?, digit?_eq_some_iff.mpr first, run, Option.bind_eq_bind,
                      Option.bind_some]
                    rfl

theorem fold_map_char (digits : List (Fin 16)) :
    Casing.fold (digits.map char) = digits.map char := by
  rw [Casing.fold, List.map_map]
  exact List.map_congr_left fun digit _member => digit?_eq_some_iff.mp (digit?_char digit)

def number (digits : List (Fin 16)) : Nat :=
  digits.foldl (fun number digit => 16 * number + digit.val) 0

theorem number_append_singleton (digits : List (Fin 16)) (digit : Fin 16) :
    number (digits ++ [digit]) = 16 * number digits + digit.val :=
  List.foldl_append

theorem digitChar_eq_char : ∀ digit : Fin 16, Nat.digitChar digit.val = char digit := by
  decide

theorem toDigits_eq_map_char (value : Nat) :
    ∃ digits : List (Fin 16), Nat.toDigits 16 value = digits.map char ∧ number digits = value := by
  induction value using Nat.strongRecOn with
  | ind value ih =>
      by_cases small : value < 16
      · refine ⟨[⟨value, small⟩], ?_, ?_⟩
        · rw [Nat.toDigits_of_lt_base small, List.map_singleton, ← digitChar_eq_char]
        · exact Nat.zero_add value
      · have larger : 16 ≤ value := Nat.le_of_not_lt small
        obtain ⟨digits, written, same⟩ := ih (value / 16) (by omega)
        refine ⟨digits ++ [⟨value % 16, Nat.mod_lt _ (by decide)⟩], ?_, ?_⟩
        · rw [Nat.toDigits_of_base_le (by decide) larger, written, List.map_append,
            List.map_singleton, ← digitChar_eq_char]
        · rw [number_append_singleton, same]
          exact Nat.div_add_mod value 16

end Hex

end WorkflowBus
