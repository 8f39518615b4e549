/-
Reading records from JSON values.

A record is written as an object that names its fields.  It may also be written
as the list of all its field values in their declared order.  Members whose
name is no field are ignored, and absent and null are the same for a field that
may be absent.
-/

import WorkflowBus.Json.Basic

namespace WorkflowBus
namespace Json

/-- The values of the named fields, each with whether it is there. -/
def fields? (names : List String) : Json → Option (List (Option Json))
  | .obj members => some (names.map fun name => members.lookup name)
  | .arr values =>
      if values.length = names.length then some (values.map some) else none
  | _ => none

def required? {α : Type} (read? : Json → Option α) : Option Json → Option α
  | none => none
  | some value => read? value

/-- A field that may be missing or null. -/
def optional? {α : Type} (read? : Json → Option α) : Option Json → Option (Option α)
  | none => some none
  | some .null => some none
  | some value => (read? value).map some

def text? : Json → Option String
  | .str value => some value
  | _ => none

def bool? : Json → Option Bool
  | .bool value => some value
  | _ => none

def intBetween? (least most : Int) : Json → Option Int
  | .int value => if least ≤ value ∧ value ≤ most then some value else none
  | _ => none

def count? (most : Nat) : Json → Option Nat
  | .int (.ofNat value) => if value ≤ most then some value else none
  | _ => none

/-- A name out of a closed list, written as a text or as an object whose only
member has that name and is null. -/
def name? : Json → Option String
  | .str name => some name
  | .obj [(name, .null)] => some name
  | _ => none

end Json
end WorkflowBus
