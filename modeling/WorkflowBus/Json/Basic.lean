/-
JSON values and their compact text.

A number is an integer or else a floating-point number.  The members of an object stand in the
order in which they are written: records of this library keep the order of their fields, and
free objects are kept sorted by key through `Json.ofMembers`.
-/

import WorkflowBus.Binary64

namespace WorkflowBus

inductive Json where
  | null
  | bool (value : Bool)
  | int (value : Int)
  | float (value : Binary64)
  | str (value : String)
  | arr (items : List Json)
  | obj (members : List (String × Json))

namespace Json

/-- Puts a member into a list sorted by key; a member of the same key is
replaced. -/
def insertMember {α : Type} (key : String) (value : α) :
    List (String × α) → List (String × α)
  | [] => [(key, value)]
  | (otherKey, otherValue) :: rest =>
      if key = otherKey then (key, value) :: rest
      else if key < otherKey then (key, value) :: (otherKey, otherValue) :: rest
      else (otherKey, otherValue) :: insertMember key value rest

/-- The members sorted by key, the last of equal keys kept. -/
def sortedMembers {α : Type} (members : List (String × α)) : List (String × α) :=
  members.foldl (fun sorted member => insertMember member.1 member.2 sorted) []

def ofMembers (members : List (String × Json)) : Json :=
  .obj (sortedMembers members)

def eraseKey {α : Type} (key : String) (members : List (String × α)) : List (String × α) :=
  members.filter fun member => member.1 ≠ key

def keys : Json → List String
  | .obj members => members.map Prod.fst
  | _ => []

def get? (key : String) : Json → Option Json
  | .obj members => members.lookup key
  | _ => none

def isNull : Json → Bool
  | .null => true
  | _ => false

def ofText? : Option String → Json
  | some text => .str text
  | none => .null

def ofTexts (texts : List String) : Json :=
  .arr (texts.map .str)

def ofCount (count : Nat) : Json :=
  .int count

/-- What stands for one character inside a quoted text: quotes, backslashes and
the control characters below the blank are escaped, all else stands for itself. -/
def escapedChar (char : Char) : List Char :=
  if char = '"' then ['\\', '"']
  else if char = '\\' then ['\\', '\\']
  else if char = '\x08' then ['\\', 'b']
  else if char = '\x0c' then ['\\', 'f']
  else if char = '\n' then ['\\', 'n']
  else if char = '\r' then ['\\', 'r']
  else if char = '\t' then ['\\', 't']
  else if char.toNat < 0x20 then
    ['\\', 'u', '0', '0', Nat.digitChar (char.toNat / 16), Nat.digitChar (char.toNat % 16)]
  else [char]

def quoted (text : String) : String :=
  "\"" ++ String.ofList (text.toList.flatMap escapedChar) ++ "\""

mutual

def text : Json → String
  | .null => "null"
  | .bool true => "true"
  | .bool false => "false"
  | .int value => toString value
  | .float value => value.text
  | .str value => quoted value
  | .arr items => "[" ++ textOfItems items ++ "]"
  | .obj members => "\x7b" ++ textOfMembers members ++ "\x7d"

def textOfItems : List Json → String
  | [] => ""
  | item :: rest =>
      item.text ++ (match rest with | [] => "" | _ :: _ => "," ++ textOfItems rest)

def textOfMembers : List (String × Json) → String
  | [] => ""
  | (key, value) :: rest =>
      quoted key ++ ":" ++ value.text ++
        (match rest with | [] => "" | _ :: _ => "," ++ textOfMembers rest)

end

end Json
end WorkflowBus
