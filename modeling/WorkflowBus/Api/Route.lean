/-
The routes of the operations interface.

Paths are exact.  All routes but the health check stand below `/api/v1`; the last
part of an entry's path is its name, percent-encoded: a percent sign followed by two
hexadecimal digits stands for one byte, and all else stands for itself, also a percent
sign that is not followed by two digits.
-/

import WorkflowBus.Api.Message
import WorkflowBus.Text.Character

namespace WorkflowBus
namespace Percent

def byteOf? (high low : UInt8) : Option UInt8 := do
  let highDigit ← Hex.digit? (Char.ofUInt8 high)
  let lowDigit ← Hex.digit? (Char.ofUInt8 low)
  return UInt8.ofNat (16 * highDigit.val + lowDigit.val)

def decodeBytes : List UInt8 → List UInt8
  | [] => []
  | first :: high :: low :: rest =>
      match (if first = '%'.toUInt8 then byteOf? high low else none) with
      | some byte => byte :: decodeBytes rest
      | none => first :: decodeBytes (high :: low :: rest)
  | first :: rest => first :: decodeBytes rest

/-- The text that a percent-encoded text stands for, if it is valid UTF-8. -/
def decode? (text : String) : Option String :=
  String.fromUTF8? (ByteArray.mk (decodeBytes text.toUTF8.toList).toArray)

end Percent

inductive Route where
  | health
  | registry
  | statistics
  | entry (encodedName : String)
  | subscriptions
  | compliance
deriving DecidableEq

namespace Route

def base : String :=
  "/api/v1"

def after? : (start : List Char) → List Char → Option (List Char)
  | [], chars => some chars
  | _ :: _, [] => none
  | expected :: start, char :: rest => if expected = char then after? start rest else none

def versioned? (path : List Char) : Option Route :=
  if path = "/events/registry".toList then some .registry
  else if path = "/events/registry/statistics".toList then some .statistics
  else if path = "/events/subscriptions".toList then some .subscriptions
  else if path = "/events/compliance".toList then some .compliance
  else
    match after? "/events/registry/".toList path with
    | some name =>
        if name.isEmpty || name.contains '/' then none else some (.entry (String.ofList name))
    | none => none

def ofPath? (path : List Char) : Option Route :=
  if path = "/health".toList then some .health
  else
    match after? base.toList path with
    | some below => versioned? below
    | none => none

end Route
end WorkflowBus
