/-
Decimal numerals with a fraction and an exponent.

The whole part has no zeros in front.  A fraction stands behind a point and has digits, and an
exponent may have a sign of its own; either of them may be left out.
-/

import WorkflowBus.Text.Decimal

namespace WorkflowBus

/-- A numeral in its parts; a fraction that is left out has no digits. -/
structure Numeral where
  negative : Bool
  whole : List Char
  fraction : List Char
  exponent : Option Int
deriving DecidableEq

namespace Numeral

def ofInt (value : Int) : Numeral where
  negative := value < 0
  whole := Nat.toDigits 10 value.natAbs
  fraction := []
  exponent := none

def isWhole (numeral : Numeral) : Bool :=
  numeral.fraction.isEmpty && numeral.exponent.isNone

def signChars (numeral : Numeral) : List Char :=
  if numeral.negative then ['-'] else []

def fractionChars (numeral : Numeral) : List Char :=
  match numeral.fraction with
  | [] => []
  | first :: rest => '.' :: first :: rest

def exponentChars (numeral : Numeral) : List Char :=
  match numeral.exponent with
  | none => []
  | some exponent => 'e' :: (toString exponent).toList

def chars (numeral : Numeral) : List Char :=
  numeral.signChars ++ (numeral.whole ++ (numeral.fractionChars ++ numeral.exponentChars))

def text (numeral : Numeral) : String :=
  String.ofList numeral.chars

def digits? (chars : List Char) : Option (List Char × List Char) :=
  match chars.takeWhile Char.isDigit with
  | [] => none
  | first :: rest => some (first :: rest, chars.dropWhile Char.isDigit)

def sign : List Char → Bool × List Char
  | '-' :: rest => (true, rest)
  | chars => (false, chars)

def whole? : List Char → Option (List Char × List Char)
  | '0' :: rest => some (['0'], rest)
  | chars => digits? chars

def fraction? : List Char → Option (List Char × List Char)
  | '.' :: rest => digits? rest
  | chars => some ([], chars)

def exponentSign : List Char → Bool × List Char
  | '+' :: rest => (false, rest)
  | '-' :: rest => (true, rest)
  | chars => (false, chars)

def signed? (chars : List Char) : Option (Int × List Char) := do
  let (negative, chars) := exponentSign chars
  let (digits, rest) ← digits? chars
  let magnitude ← Decimal.value? digits
  return (if negative then -magnitude else magnitude, rest)

def exponent? : List Char → Option (Option Int × List Char)
  | 'e' :: rest => (signed? rest).map fun (exponent, rest) => (some exponent, rest)
  | 'E' :: rest => (signed? rest).map fun (exponent, rest) => (some exponent, rest)
  | chars => some (none, chars)

def read? (chars : List Char) : Option (Numeral × List Char) := do
  let (negative, chars) := sign chars
  let (whole, chars) ← whole? chars
  let (fraction, chars) ← fraction? chars
  let (exponent, chars) ← exponent? chars
  return (⟨negative, whole, fraction, exponent⟩, chars)

end Numeral
end WorkflowBus
