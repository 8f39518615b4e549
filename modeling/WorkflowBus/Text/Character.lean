/-
Characters: letter case, blanks and hexadecimal digits.

Case is told apart by ASCII letters only.  Blank are the characters with the Unicode
property White_Space.  Hexadecimal digits are read in either letter case and written in
lower case.
-/

namespace WorkflowBus
namespace Casing

def fold (chars : List Char) : List Char :=
  chars.map Char.toLower

def alike (left right : List Char) : Bool :=
  fold left == fold right

end Casing

namespace Blank

/-- The code points with the property White_Space, as inclusive ranges. -/
def ranges : List (Nat × Nat) :=
  [(0x09, 0x0d), (0x20, 0x20), (0x85, 0x85), (0xa0, 0xa0), (0x1680, 0x1680),
    (0x2000, 0x200a), (0x2028, 0x2029), (0x202f, 0x202f), (0x205f, 0x205f),
    (0x3000, 0x3000)]

def isBlank (char : Char) : Bool :=
  ranges.any fun (first, last) => first ≤ char.toNat && char.toNat ≤ last

def skip (chars : List Char) : List Char :=
  chars.dropWhile isBlank

end Blank

namespace Hex

def lastDigit (number : Nat) : Fin 16 :=
  Fin.ofNat 16 number

def digit? (char : Char) : Option (Fin 16) :=
  let code := char.toNat
  if '0'.toNat ≤ code ∧ code ≤ '9'.toNat then
    some (lastDigit (code - '0'.toNat))
  else if 'a'.toNat ≤ code ∧ code ≤ 'f'.toNat then
    some (lastDigit (code - 'a'.toNat + 10))
  else if 'A'.toNat ≤ code ∧ code ≤ 'F'.toNat then
    some (lastDigit (code - 'A'.toNat + 10))
  else none

def char (digit : Fin 16) : Char :=
  if digit.val < 10 then Char.ofNat ('0'.toNat + digit.val)
  else Char.ofNat ('a'.toNat + (digit.val - 10))

/-- Exactly `count` digits at the start of a text, with the rest. -/
def run? : (count : Nat) → List Char → Option (List (Fin 16) × List Char)
  | 0, chars => some ([], chars)
  | _ + 1, [] => none
  | count + 1, head :: tail => do
      let digit ← digit? head
      let (digits, rest) ← run? count tail
      return (digit :: digits, rest)

def ofByte (byte : UInt8) : List Char :=
  [char (lastDigit (byte.toNat / 16)), char (lastDigit byte.toNat)]

def ofWord (word : UInt16) : List Char :=
  (Nat.toDigits 16 word.toNat)

end Hex

end WorkflowBus
