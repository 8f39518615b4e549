/-
Universally unique identifiers and where fresh ones come from.

An identifier is its 32 hexadecimal digits; the version and the variant are not
looked at.  It is read from four forms, in either letter case, and written in
one: lower-case digits in groups separated by hyphens.
-/

import WorkflowBus.Json.Reading
import WorkflowBus.Text.Character

namespace WorkflowBus

/-- An identifier of 128 bits, as its hexadecimal digits. -/
structure Uuid where
  digits : List (Fin 16)
  length_digits : digits.length = 32
deriving DecidableEq

namespace Uuid

def ofDigits? (digits : List (Fin 16)) : Option Uuid :=
  if length_digits : digits.length = 32 then some ⟨digits, length_digits⟩ else none

def groupSizes : List Nat :=
  [8, 4, 4, 4, 12]

/-- Characters in groups of the given sizes with a hyphen between two groups;
what is left over goes into the last group. -/
def hyphenate : (sizes : List Nat) → List Char → List Char
  | [], chars => chars
  | [_], chars => chars
  | size :: sizes, chars => chars.take size ++ '-' :: hyphenate sizes (chars.drop size)

def toChars (id : Uuid) : List Char :=
  hyphenate groupSizes (id.digits.map Hex.char)

def text (id : Uuid) : String :=
  String.ofList id.toChars

def groups? : (sizes : List Nat) → List Char → Option (List (Fin 16))
  | [], [] => some []
  | [], _ :: _ => none
  | [size], chars => do
      let (digits, rest) ← Hex.run? size chars
      if rest.isEmpty then some digits else none
  | size :: sizes, chars => do
      let (digits, rest) ← Hex.run? size chars
      match rest with
      | '-' :: further => return digits ++ (← groups? sizes further)
      | _ => none

def hyphenated? (chars : List Char) : Option Uuid := do
  ofDigits? (← groups? groupSizes chars)

def plain? (chars : List Char) : Option Uuid := do
  ofDigits? (← groups? [32] chars)

def urnStart : List Char :=
  "urn:uuid:".toList

/-- Reads 32 digits, or a hyphenated identifier that may stand in braces or
after the URN name space. -/
def ofChars? (chars : List Char) : Option Uuid :=
  if chars.length = 32 then plain? chars
  else if chars.length = 36 then hyphenated? chars
  else if chars.length = 38 then
    match chars with
    | '\x7b' :: rest =>
        if rest.getLast? = some '\x7d' then hyphenated? rest.dropLast else none
    | _ => none
  else if chars.length = 45 then
    if Casing.alike (chars.take 9) urnStart then hyphenated? (chars.drop 9) else none
  else none

def ofText? (text : String) : Option Uuid :=
  ofChars? text.toList

def toJson (id : Uuid) : Json :=
  .str id.text

def ofJson? (json : Json) : Option Uuid := do
  ofText? (← json.text?)

def nodeDigits (number : Nat) : List (Fin 16) :=
  (List.range 12).map fun position => Hex.lastDigit (number >>> (4 * (11 - position)))

/-- The version 4 identifier all of whose other bits spell a number. -/
def numbered (number : Nat) : Uuid where
  digits :=
    [0, 0, 0, 0, 0, 0, 0, 0, 0, 0, 0, 0, 4, 0, 0, 0, 8, 0, 0, 0].map Hex.lastDigit ++
      nodeDigits number
  length_digits := rfl

end Uuid

/-- A source of identifiers and how many have been drawn from it. -/
structure IdSupply where
  source : Nat → Uuid
  drawn : Nat

namespace IdSupply

def numbered : IdSupply where
  source := fun position => Uuid.numbered (position + 1)
  drawn := 0

def draw (supply : IdSupply) : Uuid × IdSupply :=
  (supply.source supply.drawn, { supply with drawn := supply.drawn + 1 })

end IdSupply
end WorkflowBus
