/-
Binary floating-point numbers of 64 bits.

A magnitude is the exponent and the fraction of a number taken as one natural number, so that
magnitudes are counted in their order.  The unit is the least magnitude that is not zero, and
each magnitude is a number of units.  What is calculated is rounded to
the nearest magnitude, and to the even one of two.

A number is written as the decimal with the fewest digits that is nearest to it of all
magnitudes, and of these as the one that is closest to it.
-/

import WorkflowBus.Text.Numeral

namespace WorkflowBus

@[ext]
structure Binary64 where
  negative : Bool
  magnitude : Nat
  finite : magnitude < 2047 * Nat.pow 2 52
deriving DecidableEq

namespace Binary64

/-- How many binary places the unit has behind the point, and as many decimal ones. -/
def unitPlaces : Nat := 1074

def unitsPerOne : Nat :=
  Nat.pow 2 unitPlaces

/-- How many units a magnitude has. -/
def units (magnitude : Nat) : Nat :=
  let ones := Nat.pow 2 52
  if magnitude < ones then magnitude
  else (ones + magnitude % ones) * Nat.pow 2 (magnitude / ones - 1)

/-- A quotient rounded to the nearest natural number, and to the even one of two. -/
def rounded (numerator denominator : Nat) : Nat :=
  let below := numerator / denominator
  let twice := 2 * (numerator % denominator)
  if twice < denominator ∨ twice = denominator ∧ below % 2 = 0 then below else below + 1

/-- The magnitude nearest to a quotient of units, which may be beyond those of finite
numbers. -/
def nearest (numerator denominator : Nat) : Nat :=
  let shift := (numerator / denominator).log2 - 52
  shift * Nat.pow 2 52 + rounded numerator (denominator * Nat.pow 2 shift)

def ofDecimal (digits : Nat) (exponent : Int) : Nat :=
  nearest (digits * Nat.pow 10 exponent.toNat * unitsPerOne) (Nat.pow 10 (-exponent).toNat)

def product (left right : Nat) : Nat :=
  nearest (units left * units right) unitsPerOne

def quotient (left right : Nat) : Nat :=
  nearest (units left * unitsPerOne) (units right)

/-- The powers of ten that are magnitudes of finite numbers are those up to this one. -/
def mostPower : Nat := 308

/-- Divides a magnitude by a power of ten, in several steps if the power is not finite. -/
def dividedByPower (magnitude exponent : Nat) : Nat :=
  if exponent ≤ mostPower then quotient magnitude (ofDecimal 1 exponent)
  else if magnitude = 0 then 0
  else dividedByPower (quotient magnitude (ofDecimal 1 mostPower)) (exponent - mostPower)
termination_by exponent
decreasing_by
  simp only [mostPower] at *
  omega

/-- The number that a significand and an exponent are read as.  The significand is rounded
before it is multiplied or divided, so that this need not be the nearest number. -/
def ofParts? (negative : Bool) (significand : Nat) (exponent : Int) : Option Binary64 :=
  let whole := ofDecimal significand 0
  let magnitude := match exponent with
    | .ofNat exponent =>
        if exponent ≤ mostPower then product whole (ofDecimal 1 exponent)
        else if whole = 0 then 0
        else 2047 * Nat.pow 2 52
    | .negSucc exponent => dividedByPower whole (exponent + 1)
  if finite : magnitude < 2047 * Nat.pow 2 52 then some ⟨negative, magnitude, finite⟩ else none

/-- The multiple of a power of ten that a magnitude is nearest to of all magnitudes; if there
are two, the closer one. -/
def decimalAt? (magnitude : Nat) (exponent : Int) : Option Nat :=
  let numerator := units magnitude * Nat.pow 10 (-exponent).toNat
  let denominator := unitsPerOne * Nat.pow 10 exponent.toNat
  let below := numerator / denominator
  [rounded numerator denominator, below, below + 1].find? fun digits =>
    ofDecimal digits exponent = magnitude

def exponents : List Int :=
  (List.range (mostPower + unitPlaces)).map fun step : Nat => (mostPower : Int) - step

/-- With as many places as the unit has, every magnitude is a decimal exactly. -/
def exactDecimal (magnitude : Nat) : Nat × Int :=
  (units magnitude * Nat.pow 5 unitPlaces, -unitPlaces)

def shortest (magnitude : Nat) : Nat × Int :=
  (exponents.findSome? fun exponent =>
    (decimalAt? magnitude exponent).map (·, exponent)).getD (exactDecimal magnitude)

/-- The numeral of a decimal.  It has an exponent if there are more than sixteen digits before
the point, or more than four zeros behind it. -/
def numeralOf (negative : Bool) (digits : List Char) (exponent : Int) : Numeral :=
  let point : Int := digits.length + exponent
  if 0 ≤ exponent ∧ point ≤ 16 then
    ⟨negative, digits ++ List.replicate exponent.toNat '0', ['0'], none⟩
  else if 0 < point ∧ point ≤ 16 then
    ⟨negative, digits.take point.toNat, digits.drop point.toNat, none⟩
  else if -5 < point ∧ point ≤ 0 then
    ⟨negative, ['0'], List.replicate (-point).toNat '0' ++ digits, none⟩
  else ⟨negative, digits.take 1, digits.drop 1, some (point - 1)⟩

def numeral (value : Binary64) : Numeral :=
  if value.magnitude = 0 then ⟨value.negative, ['0'], ['0'], none⟩
  else
    let decimal := shortest value.magnitude
    numeralOf value.negative (Nat.toDigits 10 decimal.1) decimal.2

def text (value : Binary64) : String :=
  value.numeral.text

end Binary64
end WorkflowBus
