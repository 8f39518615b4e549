/-
Reading internet addresses.

The four numbers of a version 4 address have no leading zeros.  A version 6
address has eight groups of one to four hexadecimal digits; the last two may be
written as a version 4 address, and one run of groups may be left out.  Zones,
brackets and blanks are not part of an address.
-/

import WorkflowBus.IpAddress.Basic
import WorkflowBus.Json.Reading
import WorkflowBus.Text.Decimal

namespace WorkflowBus

namespace Ipv4

def byte? (chars : List Char) : Option (UInt8 × List Char) :=
  let digits := chars.takeWhile Char.isDigit
  if digits.head? = some '0' ∧ digits.length ≠ 1 then none
  else
    match Decimal.value? digits with
    | some number =>
        if number ≤ 255 then some (UInt8.ofNat number, chars.dropWhile Char.isDigit) else none
    | none => none

def nextByte? : List Char → Option (UInt8 × List Char)
  | '.' :: rest => byte? rest
  | _ => none

def read? (chars : List Char) : Option (Ipv4 × List Char) := do
  let (first, rest) ← byte? chars
  let (second, rest) ← nextByte? rest
  let (third, rest) ← nextByte? rest
  let (fourth, rest) ← nextByte? rest
  return (⟨first, second, third, fourth⟩, rest)

def groups (address : Ipv4) : List UInt16 :=
  [address.first.toUInt16 <<< 8 ||| address.second.toUInt16,
    address.third.toUInt16 <<< 8 ||| address.fourth.toUInt16]

end Ipv4

namespace Ipv6

def group? (chars : List Char) : Option (UInt16 × List Char) :=
  let digits := (chars.takeWhile fun char => (Hex.digit? char).isSome).filterMap Hex.digit?
  if digits.isEmpty ∨ digits.length > 4 then none
  else
    some (UInt16.ofNat (digits.foldl (fun number digit => 16 * number + digit.val) 0),
      chars.dropWhile fun char => (Hex.digit? char).isSome)

/-- What follows the separator before a group; no separator stands before the
first group. -/
def afterSeparator? (isFirst : Bool) : List Char → Option (List Char)
  | ':' :: rest => some (if isFirst then ':' :: rest else rest)
  | chars => if isFirst then some chars else none

/-- As many groups as there are at the start of a text, at most `room` of them,
with whether the last two were written as a version 4 address, and with what
follows them. -/
def groups? : (room : Nat) → (isFirst : Bool) → List Char → List UInt16 × Bool × List Char
  | 0, _, chars => ([], false, chars)
  | room + 1, isFirst, chars =>
      match afterSeparator? isFirst chars with
      | none => ([], false, chars)
      | some rest =>
          match (if room = 0 then none else Ipv4.read? rest) with
          | some (embedded, further) => (embedded.groups, true, further)
          | none =>
              match group? rest with
              | none => ([], false, chars)
              | some (group, further) =>
                  let (groups, embedded, remaining) := groups? room false further
                  (group :: groups, embedded, remaining)

def read? (chars : List Char) : Option (Ipv6 × List Char) :=
  let (head, embedded, rest) := groups? 8 true chars
  if head.length = 8 then (ofGroups? head).map (·, rest)
  else if embedded then none
  else
    match rest with
    | ':' :: ':' :: rest =>
        let (tail, _, rest) := groups? (7 - head.length) true rest
        let gap := List.replicate (8 - head.length - tail.length) 0
        (ofGroups? (head ++ gap ++ tail)).map (·, rest)
    | _ => none

end Ipv6

namespace IpAddress

def read? (chars : List Char) : Option (IpAddress × List Char) :=
  match Ipv4.read? chars with
  | some (address, rest) => some (.v4 address, rest)
  | none => (Ipv6.read? chars).map fun (address, rest) => (.v6 address, rest)

def ofText? (text : String) : Option IpAddress :=
  match read? text.toList with
  | some (address, []) => some address
  | _ => none

def ofJson? (json : Json) : Option IpAddress := do
  ofText? (← json.text?)

end IpAddress
end WorkflowBus
