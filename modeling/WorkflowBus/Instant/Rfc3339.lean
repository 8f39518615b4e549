/-
RFC 3339 text of instants.

Writing gives the date and the time of universal time, as few of the digits
after the point as hold the nanoseconds out of none, three, six and nine, and a
zone that the caller chooses.  Years outside 0 to 9999 have a sign.

Reading takes more than it writes: blanks before each number, before each
separator of the date and of the time, before the zone and at the end, a blank
in place of the `T`, numbers of one digit where two are usual, years of any
length after a sign, any number of digits after the point, and the zone as `Z`,
`UTC` or hours and minutes.
-/

import WorkflowBus.Instant.Basic
import WorkflowBus.Json.Reading
import WorkflowBus.Text.Character
import WorkflowBus.Text.Decimal

namespace WorkflowBus
namespace Instant

/-- A year of four digits, with its sign when it lies outside 0 to 9999. -/
def yearText (year : Int) : String :=
  if 0 ≤ year ∧ year ≤ 9999 then Decimal.padded 4 year.toNat
  else (if year < 0 then "-" else "+") ++ Decimal.padded 4 year.natAbs

/-- A point and the fewest of three, six or nine digits that hold the
nanoseconds; nothing for zero. -/
def fractionText (nanosecond : Nat) : String :=
  if nanosecond = 0 then ""
  else if nanosecond % 1000000 = 0 then "." ++ Decimal.padded 3 (nanosecond / 1000000)
  else if nanosecond % 1000 = 0 then "." ++ Decimal.padded 6 (nanosecond / 1000)
  else "." ++ Decimal.padded 9 nanosecond

def clockText (instant : Instant) : String :=
  let date := Date.ofDayNumber instant.day
  let second := instant.second.val
  let leap := instant.nanosecond.val / 1000000000
  yearText date.year ++ "-" ++ Decimal.padded 2 date.month ++ "-" ++
    Decimal.padded 2 date.day ++ "T" ++ Decimal.padded 2 (second / 3600) ++ ":" ++
    Decimal.padded 2 (second / 60 % 60) ++ ":" ++ Decimal.padded 2 (second % 60 + leap) ++
    fractionText (instant.nanosecond.val % 1000000000)

/-- The text with the zone `Z`, used in JSON. -/
def text (instant : Instant) : String :=
  instant.clockText ++ "Z"

/-- The text with the zone as an offset, used in log fields. -/
def offsetText (instant : Instant) : String :=
  instant.clockText ++ "+00:00"

def toJson (instant : Instant) : Json :=
  .str instant.text

def shortNumber? (chars : List Char) : Option (Nat × List Char) :=
  Decimal.number? 2 (Blank.skip chars)

def separator? (separator : Char) (chars : List Char) : Option (List Char) :=
  match Blank.skip chars with
  | char :: rest => if char = separator then some rest else none
  | [] => none

/-- A year: up to four digits, or a sign and any number of digits. -/
def year? (chars : List Char) : Option (Int × List Char) :=
  match Blank.skip chars with
  | '-' :: rest => (Decimal.number? rest.length rest).map fun (year, rest) => (-(year : Int), rest)
  | '+' :: rest => (Decimal.number? rest.length rest).map fun (year, rest) => ((year : Int), rest)
  | chars => (Decimal.number? 4 chars).map fun (year, rest) => ((year : Int), rest)

def date? (chars : List Char) : Option (Date × List Char) := do
  let (year, rest) ← year? chars
  let rest ← separator? '-' rest
  let (month, rest) ← shortNumber? rest
  let rest ← separator? '-' rest
  let (day, rest) ← shortNumber? rest
  return (⟨year, month, day⟩, rest)

/-- The nanoseconds after a point, cut off after nine digits; zero when there is
no point. -/
def fraction? (chars : List Char) : Option (Nat × List Char) :=
  match chars with
  | '.' :: rest =>
      let (digits, remaining) := Decimal.digitRun 9 rest
      if digits.isEmpty then none
      else
        (Decimal.value? (digits ++ List.replicate (9 - digits.length) '0')).map
          (·, remaining.dropWhile Char.isDigit)
  | chars => some (0, chars)

def zone? (chars : List Char) : Option (Int × List Char) :=
  if Casing.alike (chars.take 3) ['u', 't', 'c'] then some (0, chars.drop 3)
  else
    match chars with
    | 'Z' :: rest | 'z' :: rest => some (0, rest)
    | '+' :: rest => (hoursAndMinutes? rest).map fun (seconds, rest) => ((seconds : Int), rest)
    | '-' :: rest => (hoursAndMinutes? rest).map fun (seconds, rest) => (-(seconds : Int), rest)
    | '\u2212' :: rest =>
        (hoursAndMinutes? rest).map fun (seconds, rest) => (-(seconds : Int), rest)
    | _ => none
where
  twoDigits? (chars : List Char) : Option (Nat × List Char) :=
    match chars with
    | first :: second :: rest => (Decimal.value? [first, second]).map (·, rest)
    | _ => none
  /-- Two digits of hours, any colons and blanks, two digits of minutes. -/
  hoursAndMinutes? (chars : List Char) : Option (Nat × List Char) := do
    let (hours, rest) ← twoDigits? chars
    let (minutes, rest) ←
      twoDigits? (rest.dropWhile fun char => char == ':' || Blank.isBlank char)
    if hours ≤ 23 ∧ minutes ≤ 59 then some (3600 * hours + 60 * minutes, rest) else none

def time? (chars : List Char) : Option (Nat × Fin 2000000000 × List Char) := do
  let (hour, rest) ← shortNumber? chars
  let rest ← separator? ':' rest
  let (minute, rest) ← shortNumber? rest
  let rest ← separator? ':' rest
  let (second, rest) ← shortNumber? rest
  let (nanosecond, rest) ← fraction? rest
  if hour ≤ 23 ∧ minute ≤ 59 ∧ second ≤ 60 then
    if second = 60 then
      return (3600 * hour + 60 * minute + 59, nanoseconds (1000000000 + nanosecond), rest)
    else return (3600 * hour + 60 * minute + second, nanoseconds nanosecond, rest)
  else none

def ofChars? (chars : List Char) : Option Instant := do
  let (date, rest) ← date? chars
  match rest with
  | 'T' :: rest | 't' :: rest | ' ' :: rest =>
      let (second, nanosecond, rest) ← time? rest
      let (offset, rest) ← zone? (Blank.skip rest)
      let instant := ofLocal date.dayNumber second nanosecond offset
      if (Blank.skip rest).isEmpty && date.exists? && dayInRange date.dayNumber &&
          dayInRange instant.day then
        some instant
      else none
  | _ => none

def ofText? (text : String) : Option Instant :=
  ofChars? text.toList

def ofJson? (json : Json) : Option Instant := do
  ofText? (← json.text?)

end Instant
end WorkflowBus
