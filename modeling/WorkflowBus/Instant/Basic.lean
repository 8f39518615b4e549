/-
Instants of universal time with nanosecond precision.
-/

import WorkflowBus.Instant.Calendar

namespace WorkflowBus

/-- An instant of universal time: a day counted from 1970-01-01, a second of that
day, and nanoseconds.  A leap second is the second before it with one thousand
million nanoseconds or more. -/
structure Instant where
  day : Int
  second : Fin 86400
  nanosecond : Fin 2000000000
deriving DecidableEq

namespace Instant

/-- A number of nanoseconds in the range that an instant keeps. -/
def nanoseconds (number : Nat) : Fin 2000000000 :=
  Fin.ofNat 2000000000 number

def epoch : Instant where
  day := 0
  second := 0
  nanosecond := 0

def firstYear : Int := -262143
def lastYear : Int := 262142

def dayInRange (day : Int) : Bool :=
  decide (Date.dayNumber ⟨firstYear, 1, 1⟩ ≤ day) &&
    decide (day ≤ Date.dayNumber ⟨lastYear, 12, 31⟩)

/-- The instant at which a clock that is `offset` seconds ahead of universal time
shows the given day and second. -/
def ofLocal (day : Int) (second : Nat) (nanosecond : Fin 2000000000) (offset : Int) : Instant :=
  let shifted : Int := second - offset
  { day := day + shifted / 86400
    second := Fin.ofNat 86400 (shifted % 86400).toNat
    nanosecond := nanosecond }

end Instant
end WorkflowBus
