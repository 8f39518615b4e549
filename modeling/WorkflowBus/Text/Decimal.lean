/-
Unsigned decimal numbers as text.

A number is read from a run of ASCII digits.  `value?` reads a whole text, any
number of leading zeros included; `number?` reads the digits at the start of a
text and hands back what follows them; `padded` writes a number with a least
width.
-/

namespace WorkflowBus
namespace Decimal

def digit? (char : Char) : Option Nat :=
  if char.isDigit then some (char.toNat - '0'.toNat) else none

/-- The number whose digits are those of `sofar` followed by all of the given
characters; nothing as soon as one of them is no digit. -/
def continued? (sofar : Nat) : List Char → Option Nat
  | [] => some sofar
  | char :: rest =>
      match digit? char with
      | none => none
      | some digit => continued? (sofar * 10 + digit) rest

def value? : List Char → Option Nat
  | [] => none
  | char :: rest => continued? 0 (char :: rest)

def unsigned? : List Char → Option Nat
  | '+' :: rest => value? rest
  | chars => value? chars

/-- A number written with an optional plus sign that does not exceed `limit`. -/
def bounded? (limit : Nat) (text : String) : Option Nat :=
  match unsigned? text.toList with
  | none => none
  | some number => if number ≤ limit then some number else none

/-- The digits at the start of a text, at most `most` of them, with the rest. -/
def digitRun : (most : Nat) → List Char → List Char × List Char
  | 0, chars => ([], chars)
  | _ + 1, [] => ([], [])
  | most + 1, char :: rest =>
      if char.isDigit then
        let (digits, remaining) := digitRun most rest
        (char :: digits, remaining)
      else ([], char :: rest)

def number? (most : Nat) (chars : List Char) : Option (Nat × List Char) :=
  let (digits, rest) := digitRun most chars
  (value? digits).map (·, rest)

/-- The decimal digits of a number, zeros put before them up to `width`. -/
def padded (width number : Nat) : String :=
  let digits := Nat.toDigits 10 number
  String.ofList (List.replicate (width - digits.length) '0' ++ digits)

end Decimal
end WorkflowBus
