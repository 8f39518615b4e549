/-
Reading JSON values from text.

A text holds one value, with blanks around it and between its parts.  The members of an
object that is read are kept sorted by key, and of equal keys the last one counts.  Numbers
that are no integers of 64 bits are read as floating-point numbers.  Lists and objects stand
in each other at most `Json.mostLevels` deep.
-/

import WorkflowBus.Json.Basic
import WorkflowBus.Text.Character
import WorkflowBus.Text.Decimal

namespace WorkflowBus
namespace Json

def isSpace (char : Char) : Bool :=
  char == ' ' || char == '\t' || char == '\n' || char == '\r'

def skipSpace (chars : List Char) : List Char :=
  chars.dropWhile isSpace

/-- Appends digits to a number as long as it stays within 64 bits.  The digits from the first
that does not fit are left over. -/
def appended (number : Nat) : List Char → Nat × List Char
  | [] => (number, [])
  | char :: rest =>
      let longer := 10 * number + (char.toNat - '0'.toNat)
      if longer < 18446744073709551616 then appended longer rest else (number, char :: rest)

/-- The integer that a numeral is, if it has neither fraction nor exponent and fits into 64
bits, those below zero with their sign. -/
def integer? (numeral : Numeral) : Option Int :=
  match appended 0 numeral.whole with
  | (magnitude, []) =>
      if !numeral.isWhole then none
      else if !numeral.negative then some magnitude
      else if magnitude = 0 ∨ 9223372036854775808 < magnitude then none
      else some (-magnitude)
  | (_, _ :: _) => none

/-- The floating-point number that a numeral is read as.  Of the whole part and the fraction
that many digits count as fit into 64 bits. -/
def float? (numeral : Numeral) : Option Binary64 :=
  let (whole, dropped) := appended 0 numeral.whole
  let (significand, ignored) := appended whole numeral.fraction
  let places : Int := (numeral.fraction.length : Int) - ignored.length
  Binary64.ofParts? numeral.negative significand
    (numeral.exponent.getD 0 + dropped.length - places)

def ofNumeral? (numeral : Numeral) : Option Json :=
  match integer? numeral with
  | some value => some (.int value)
  | none => (float? numeral).map .float

def number? (chars : List Char) : Option (Json × List Char) := do
  let (numeral, rest) ← Numeral.read? chars
  let value ← ofNumeral? numeral
  return (value, rest)

def escapeNames : List (Char × Char) :=
  [('"', '"'), ('\\', '\\'), ('/', '/'), ('b', '\x08'), ('f', '\x0c'), ('n', '\n'), ('r', '\r'),
    ('t', '\t')]

def codeUnit? (chars : List Char) : Option (Nat × List Char) := do
  let (digits, rest) ← Hex.run? 4 chars
  return (digits.foldl (fun number digit => 16 * number + digit.val) 0, rest)

/-- A character escaped by its code.  A code beyond sixteen bits is written in two units, of
which the second is escaped by itself; neither of them may stand alone. -/
def coded? (chars : List Char) : Option (Char × List Char) := do
  let (high, rest) ← codeUnit? chars
  if 0xD800 ≤ high ∧ high ≤ 0xDBFF then
    match rest with
    | '\\' :: 'u' :: rest =>
        let (low, rest) ← codeUnit? rest
        if 0xDC00 ≤ low ∧ low ≤ 0xDFFF then
          return (Char.ofNat (0x10000 + 0x400 * (high - 0xD800) + (low - 0xDC00)), rest)
        else none
    | _ => none
  else if 0xDC00 ≤ high ∧ high ≤ 0xDFFF then none
  else return (Char.ofNat high, rest)

def escaped? : List Char → Option (Char × List Char)
  | 'u' :: rest => coded? rest
  | name :: rest => (escapeNames.lookup name).map (·, rest)
  | [] => none

def char? : List Char → Option (Char × List Char)
  | '\\' :: rest => escaped? rest
  | char :: rest => if char.toNat < 0x20 then none else some (char, rest)
  | [] => none

/-- The characters up to the closing quotation mark, at most `room` of them. -/
def unquoted? : (room : Nat) → List Char → Option (List Char × List Char)
  | _, '"' :: rest => some ([], rest)
  | 0, _ => none
  | room + 1, chars => do
      let (char, rest) ← char? chars
      let (others, rest) ← unquoted? room rest
      return (char :: others, rest)

def quoted? : List Char → Option (String × List Char)
  | '"' :: rest =>
      (unquoted? rest.length rest).map fun (chars, rest) => (String.ofList chars, rest)
  | _ => none

section Elements

variable {α : Type} (read? : List Char → Option (α × List Char)) (closing : Char)

/-- The elements up to the closing character with commas between them, at least one and at
most `room` of them. -/
def elements? : (room : Nat) → List Char → Option (List α × List Char)
  | 0, _ => none
  | room + 1, chars => do
      let (element, rest) ← read? chars
      match skipSpace rest with
      | ',' :: rest =>
          let (others, rest) ← elements? room rest
          return (element :: others, rest)
      | char :: rest => if char = closing then return ([element], rest) else none
      | [] => none

def list? (chars : List Char) : Option (List α × List Char) :=
  match skipSpace chars with
  | [] => none
  | char :: rest =>
      if char = closing then some ([], rest) else elements? read? closing chars.length chars

end Elements

def member? (value? : List Char → Option (Json × List Char)) (chars : List Char) :
    Option ((String × Json) × List Char) := do
  let (key, rest) ← quoted? (skipSpace chars)
  match skipSpace rest with
  | ':' :: rest =>
      let (value, rest) ← value? rest
      return ((key, value), rest)
  | _ => none

def scalar? : List Char → Option (Json × List Char)
  | 'n' :: 'u' :: 'l' :: 'l' :: rest => some (.null, rest)
  | 't' :: 'r' :: 'u' :: 'e' :: rest => some (.bool true, rest)
  | 'f' :: 'a' :: 'l' :: 's' :: 'e' :: rest => some (.bool false, rest)
  | '"' :: rest => (quoted? ('"' :: rest)).map fun (value, rest) => (.str value, rest)
  | chars => number? chars

/-- A value with lists and objects of the given number of levels at most. -/
def value? : (levels : Nat) → List Char → Option (Json × List Char)
  | 0, chars => scalar? (skipSpace chars)
  | levels + 1, chars =>
      match skipSpace chars with
      | '[' :: rest => (list? (value? levels) ']' rest).map fun (items, rest) => (.arr items, rest)
      | '\x7b' :: rest =>
          (list? (member? (value? levels)) '\x7d' rest).map fun (members, rest) =>
            (.ofMembers members, rest)
      | chars => scalar? chars

def parseWithin? (levels : Nat) (text : String) : Option Json := do
  let (value, rest) ← value? levels text.toList
  if (skipSpace rest).isEmpty then some value else none

def mostLevels : Nat := 127

def parse? (text : String) : Option Json :=
  parseWithin? mostLevels text

end Json
end WorkflowBus
