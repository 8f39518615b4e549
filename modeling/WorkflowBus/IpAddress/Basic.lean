/-
Internet addresses of both versions and their written form.

A version 4 address is written as four decimal numbers.  A version 6 address is
written as groups of lower-case hexadecimal digits without leading zeros, with
the first of the longest runs of two or more zero groups left out; an address
that maps a version 4 address ends in that address's own text.
-/

import WorkflowBus.Json.Basic
import WorkflowBus.Text.Character

namespace WorkflowBus

structure Ipv4 where
  first : UInt8
  second : UInt8
  third : UInt8
  fourth : UInt8
deriving DecidableEq

structure Ipv6 where
  groups : List UInt16
  length_groups : groups.length = 8
deriving DecidableEq

inductive IpAddress where
  | v4 (address : Ipv4)
  | v6 (address : Ipv6)
deriving DecidableEq

namespace Ipv4

def text (address : Ipv4) : String :=
  toString address.first.toNat ++ "." ++ toString address.second.toNat ++ "." ++
    toString address.third.toNat ++ "." ++ toString address.fourth.toNat

end Ipv4

namespace Ipv6

def ofGroups? (groups : List UInt16) : Option Ipv6 :=
  if length_groups : groups.length = 8 then some ⟨groups, length_groups⟩ else none

/-- The version 4 address that an address maps: five zero groups and a group of
ones stand before it. -/
def mapped? (address : Ipv6) : Option Ipv4 :=
  match address.groups with
  | [0, 0, 0, 0, 0, 0xffff, high, low] =>
      some ⟨(high >>> 8).toUInt8, high.toUInt8, (low >>> 8).toUInt8, low.toUInt8⟩
  | _ => none

def zeroRun (groups : List UInt16) : Nat :=
  (groups.takeWhile (· == 0)).length

/-- The start and the length of the first of the longest runs of zero groups. -/
def longestZeroRun (groups : List UInt16) : Nat × Nat :=
  (List.range groups.length).foldl
    (fun best start =>
      let length := zeroRun (groups.drop start)
      if best.2 < length then (start, length) else best)
    (0, 0)

def joined (groups : List UInt16) : List Char :=
  List.intercalate [':'] (groups.map Hex.ofWord)

def text (address : Ipv6) : String :=
  match address.mapped? with
  | some embedded => "::ffff:" ++ embedded.text
  | none =>
      let (start, length) := longestZeroRun address.groups
      if length < 2 then String.ofList (joined address.groups)
      else
        String.ofList (joined (address.groups.take start)) ++ "::" ++
          String.ofList (joined (address.groups.drop (start + length)))

end Ipv6

namespace IpAddress

def text : IpAddress → String
  | .v4 address => address.text
  | .v6 address => address.text

def toJson (address : IpAddress) : Json :=
  .str address.text

end IpAddress
end WorkflowBus
