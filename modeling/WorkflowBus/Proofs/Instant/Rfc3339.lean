/-
Instants that are written are read back.

The text of an instant is that of its date and its clock in universal time, each number
padded to the width that is read.  An instant is read back when its day lies in the years
that times are kept in and a leap second, if it is one, ends a minute; a leap second
anywhere else is written as the second behind it.
-/

import WorkflowBus.Instant.Rfc3339
import WorkflowBus.Proofs.Decimal
import WorkflowBus.Proofs.Instant.Calendar

namespace WorkflowBus

theorem Blank.isBlank_of_isDigit {char : Char} (digit : char.isDigit = true) :
    isBlank char = false := by
  have bounds : 48 ≤ char.toNat ∧ char.toNat ≤ 57 := by
    simpa [Char.isDigit, UInt32.le_iff_toNat_le] using digit
  rw [isBlank, List.any_eq_false]
  intro range member
  have outside : ∀ range ∈ ranges, range.2 < 48 ∨ 57 < range.1 := by decide
  have apart := outside range member
  simp only [Bool.and_eq_true, decide_eq_true_eq]
  omega

theorem Blank.skip_cons {first : Char} (solid : isBlank first = false) (rest : List Char) :
    skip (first :: rest) = first :: rest :=
  List.dropWhile_cons_of_neg (Bool.eq_false_iff.mp solid)

theorem Blank.skip_padded (width number : Nat) (rest : List Char) :
    skip ((Decimal.padded width number).toList ++ rest) =
      (Decimal.padded width number).toList ++ rest := by
  obtain ⟨first, others, split, digit⟩ := Decimal.padded_cons width number
  rw [split, List.cons_append, skip_cons (isBlank_of_isDigit digit)]

namespace Instant

theorem shortNumber?_padded {number : Nat} (fits : number < 100) (rest : List Char) :
    shortNumber? ((Decimal.padded 2 number).toList ++ rest) = some (number, rest) := by
  rw [shortNumber?, Blank.skip_padded]
  exact Decimal.number?_padded (by decide) fits rest

theorem separator?_cons {separator : Char} (solid : Blank.isBlank separator = false)
    (rest : List Char) : separator? separator (separator :: rest) = some rest := by
  rw [separator?, Blank.skip_cons solid]
  exact if_pos rfl

theorem number?_signed (number : Nat) (rest : List Char) :
    Decimal.number? ((Decimal.padded 4 number).toList ++ '-' :: rest).length
      ((Decimal.padded 4 number).toList ++ '-' :: rest) = some (number, '-' :: rest) := by
  refine Decimal.number?_append (fun char member => Decimal.isDigit_of_mem_padded member)
    (Decimal.value?_padded 4 number) ?_ (Or.inr (Decimal.ends_cons rfl))
  rw [List.length_append]
  exact Nat.le_add_right _ _

theorem year?_of_isDigit {first : Char} {rest : List Char} (digit : first.isDigit = true) :
    year? (first :: rest) =
      (Decimal.number? 4 (first :: rest)).map fun (year, rest) => ((year : Int), rest) := by
  rw [year?, Blank.skip_cons (Blank.isBlank_of_isDigit digit)]
  split
  · cases ‹first :: rest = _›
    cases digit
  · cases ‹first :: rest = _›
    cases digit
  · rfl

theorem year?_minus (chars : List Char) :
    year? ('-' :: chars) =
      (Decimal.number? chars.length chars).map fun (year, rest) => (-(year : Int), rest) := by
  rw [year?, Blank.skip_cons (by decide)]
  rfl

theorem year?_plus (chars : List Char) :
    year? ('+' :: chars) =
      (Decimal.number? chars.length chars).map fun (year, rest) => ((year : Int), rest) := by
  rw [year?, Blank.skip_cons (by decide)]
  rfl

theorem year?_yearText (year : Int) (rest : List Char) :
    year? ((yearText year).toList ++ '-' :: rest) = some (year, '-' :: rest) := by
  have minus : "-".toList = ['-'] := rfl
  have plus : "+".toList = ['+'] := rfl
  unfold yearText
  by_cases plain : 0 ≤ year ∧ year ≤ 9999
  · have read := Decimal.number?_padded (by decide : 0 < 4)
      (show year.toNat < 10 ^ 4 by omega) ('-' :: rest)
    have same : (year.toNat : Int) = year := Int.toNat_of_nonneg plain.1
    obtain ⟨first, others, split, digit⟩ := Decimal.padded_cons 4 year.toNat
    rw [if_pos plain]
    rw [split, List.cons_append] at read ⊢
    rw [year?_of_isDigit digit, read]
    simp only [Option.map_some, same]
  · have read := number?_signed year.natAbs rest
    rw [if_neg plain, String.toList_append, List.append_assoc]
    by_cases negative : year < 0
    · have same : -(year.natAbs : Int) = year := by omega
      rw [if_pos negative, minus, List.singleton_append, year?_minus, read]
      simp only [Option.map_some, same]
    · have same : (year.natAbs : Int) = year := by omega
      rw [if_neg negative, plus, List.singleton_append, year?_plus, read]
      simp only [Option.map_some, same]

theorem date?_text {date : Date} (there : date.exists? = true) (rest : List Char) :
    date? ((yearText date.year ++ "-" ++ Decimal.padded 2 date.month ++ "-" ++
      Decimal.padded 2 date.day).toList ++ rest) = some (date, rest) := by
  obtain ⟨months, days⟩ := Date.bounds_of_exists? there
  have hyphen : "-".toList = ['-'] := rfl
  simp only [String.toList_append, hyphen, List.append_assoc, List.cons_append, List.nil_append]
  rw [date?]
  simp only [year?_yearText, separator?_cons (show Blank.isBlank '-' = false by decide),
    shortNumber?_padded (show date.month < 100 by omega),
    shortNumber?_padded (show date.day < 100 by omega), Option.bind_eq_bind, Option.bind_some]
  rfl

theorem fraction?_point {width number : Nat} (positive : 0 < width) (most : width ≤ 9)
    (fits : number < 10 ^ width) {rest : List Char} (ends : Decimal.Ends rest) :
    fraction? ('.' :: ((Decimal.padded width number).toList ++ rest)) =
      some (number * 10 ^ (9 - width), rest) := by
  have each : ∀ char ∈ (Decimal.padded width number).toList, char.isDigit = true :=
    fun char member => Decimal.isDigit_of_mem_padded member
  have length := Decimal.length_padded positive fits
  have run := Decimal.digitRun_append each (length.le.trans most) (Or.inr ends)
  have value := Decimal.value?_append_zeros (9 - width) each (Decimal.value?_padded width number)
  have some : (Decimal.padded width number).toList.isEmpty = false := by
    rw [List.isEmpty_eq_false_iff]
    exact Decimal.padded_ne_nil width number
  have further : rest.dropWhile Char.isDigit = rest := by
    cases rest with
    | nil => rfl
    | cons first rest => exact List.dropWhile_cons_of_neg (Bool.eq_false_iff.mp (ends first rfl))
  rw [fraction?, run]
  simp only [some, Bool.false_eq_true, if_false, length, value, Option.map_some, further]

theorem fraction?_fractionText {nanosecond : Nat} (below : nanosecond < 1000000000) :
    fraction? ((fractionText nanosecond).toList ++ ['Z']) = some (nanosecond, ['Z']) := by
  have ends : Decimal.Ends ['Z'] := Decimal.ends_cons rfl
  have point : ".".toList = ['.'] := rfl
  unfold fractionText
  by_cases none : nanosecond = 0
  · rw [if_pos none, none]
    rfl
  · rw [if_neg none]
    by_cases millis : nanosecond % 1000000 = 0
    · have whole : nanosecond / 1000000 * 10 ^ 6 = nanosecond := by omega
      rw [if_pos millis, String.toList_append, point, List.append_assoc, List.singleton_append,
        fraction?_point (by decide) (by decide) (by omega) ends, whole]
    · rw [if_neg millis]
      by_cases micros : nanosecond % 1000 = 0
      · have whole : nanosecond / 1000 * 10 ^ 3 = nanosecond := by omega
        rw [if_pos micros, String.toList_append, point, List.append_assoc, List.singleton_append,
          fraction?_point (by decide) (by decide) (by omega) ends, whole]
      · rw [if_neg micros, String.toList_append, point, List.append_assoc, List.singleton_append,
          fraction?_point (by decide) (by decide) (by omega) ends, Nat.sub_self, Nat.pow_zero,
          Nat.mul_one]

/-- Where sixty seconds are shown, the last second of the minute lasts longer. -/
theorem time?_text {hour minute second nanosecond : Nat} (hours : hour ≤ 23)
    (minutes : minute ≤ 59) (seconds : second ≤ 60) (below : nanosecond < 1000000000) :
    time? ((Decimal.padded 2 hour).toList ++ ':' :: ((Decimal.padded 2 minute).toList ++
      ':' :: ((Decimal.padded 2 second).toList ++
        ((fractionText nanosecond).toList ++ ['Z'])))) =
      some (if second = 60 then
          (3600 * hour + 60 * minute + 59, nanoseconds (1000000000 + nanosecond), ['Z'])
        else (3600 * hour + 60 * minute + second, nanoseconds nanosecond, ['Z'])) := by
  have colon : Blank.isBlank ':' = false := by decide
  rw [time?]
  simp only [shortNumber?_padded (show hour < 100 by omega),
    shortNumber?_padded (show minute < 100 by omega),
    shortNumber?_padded (show second < 100 by omega), separator?_cons colon,
    fraction?_fractionText below, Option.bind_eq_bind, Option.bind_some,
    if_pos (And.intro hours (And.intro minutes seconds))]
  split <;> rfl

/-! ### Instants -/

theorem ofLocal_zero (day : Int) {second : Nat} (inside : second < 86400)
    (nanosecond : Fin 2000000000) :
    ofLocal day second nanosecond 0 = ⟨day, Fin.ofNat 86400 second, nanosecond⟩ := by
  have days : day + ((second : Int) - 0) / 86400 = day := by omega
  have seconds : (((second : Int) - 0) % 86400).toNat = second := by omega
  rw [ofLocal]
  simp only [days, seconds]

/-- The instant that is read where an instant was written: a leap second that does not end
a minute is taken for the second behind it. -/
def settled (instant : Instant) : Instant :=
  if instant.second.val % 60 + instant.nanosecond.val / 1000000000 = 60 then instant
  else
    ofLocal instant.day (instant.second.val + instant.nanosecond.val / 1000000000)
      (nanoseconds (instant.nanosecond.val % 1000000000)) 0

theorem settled_of_inside {instant : Instant}
    (inside : instant.second.val % 60 + instant.nanosecond.val / 1000000000 ≠ 60) :
    instant.settled =
      { instant with
        second := Fin.ofNat 86400 (instant.second.val + instant.nanosecond.val / 1000000000)
        nanosecond := nanoseconds (instant.nanosecond.val % 1000000000) } := by
  have second := instant.second.isLt
  have nanosecond := instant.nanosecond.isLt
  have sameDay : instant.second.val + instant.nanosecond.val / 1000000000 < 86400 := by omega
  rw [settled, if_neg inside, ofLocal_zero instant.day sameDay]

def clockChars (instant : Instant) : List Char :=
  (Decimal.padded 2 (instant.second.val / 3600)).toList ++
    ':' :: ((Decimal.padded 2 (instant.second.val / 60 % 60)).toList ++
      ':' :: ((Decimal.padded 2
          (instant.second.val % 60 + instant.nanosecond.val / 1000000000)).toList ++
        ((fractionText (instant.nanosecond.val % 1000000000)).toList ++ ['Z'])))

theorem toList_text (instant : Instant) :
    instant.text.toList =
      (yearText (Date.ofDayNumber instant.day).year ++ "-" ++
        Decimal.padded 2 (Date.ofDayNumber instant.day).month ++ "-" ++
        Decimal.padded 2 (Date.ofDayNumber instant.day).day).toList ++
      'T' :: instant.clockChars := by
  have colon : ":".toList = [':'] := rfl
  have letters : "T".toList = ['T'] ∧ "Z".toList = ['Z'] := ⟨rfl, rfl⟩
  simp only [text, clockText, clockChars, String.toList_append, colon, letters.1, letters.2,
    List.append_assoc, List.cons_append, List.nil_append]

theorem time?_clockChars (instant : Instant) :
    time? instant.clockChars =
      some (instant.settled.second.val, instant.settled.nanosecond, ['Z']) := by
  have inside := instant.second.isLt
  have below := instant.nanosecond.isLt
  have hours : instant.second.val / 3600 ≤ 23 := by omega
  have minutes : instant.second.val / 60 % 60 ≤ 59 := by omega
  have seconds : instant.second.val % 60 + instant.nanosecond.val / 1000000000 ≤ 60 := by omega
  have fraction := Nat.mod_lt instant.nanosecond.val (by decide : 1000000000 > 0)
  rw [clockChars, time?_text hours minutes seconds fraction]
  by_cases last : instant.second.val % 60 + instant.nanosecond.val / 1000000000 = 60
  · have second : 3600 * (instant.second.val / 3600) + 60 * (instant.second.val / 60 % 60) + 59 =
        instant.second.val := by omega
    have nanosecond : nanoseconds (1000000000 + instant.nanosecond.val % 1000000000) =
        instant.nanosecond := by
      apply Fin.ext
      show (1000000000 + instant.nanosecond.val % 1000000000) % 2000000000 = _
      omega
    rw [if_pos last, settled, if_pos last, second, nanosecond]
  · have second : 3600 * (instant.second.val / 3600) + 60 * (instant.second.val / 60 % 60) +
        (instant.second.val % 60 + instant.nanosecond.val / 1000000000) =
        (instant.second.val + instant.nanosecond.val / 1000000000) % 86400 := by omega
    rw [if_neg last, settled_of_inside last, second]
    rfl

theorem ofText?_text_eq (instant : Instant) :
    ofText? instant.text = if dayInRange instant.day then some instant.settled else none := by
  have date := date?_text (Date.exists?_ofDayNumber instant.day) ('T' :: instant.clockChars)
  have zone : zone? (Blank.skip ['Z']) = some (0, []) := by decide
  have same : (⟨instant.day, instant.settled.second, instant.settled.nanosecond⟩ : Instant) =
      instant.settled := by
    by_cases last : instant.second.val % 60 + instant.nanosecond.val / 1000000000 = 60
    · rw [settled, if_pos last]
    · rw [settled_of_inside last]
  have read : ofLocal instant.day instant.settled.second.val instant.settled.nanosecond 0 =
      instant.settled := by
    rw [ofLocal_zero instant.day instant.settled.second.isLt, Fin.ofNat_val_eq_self, same]
  have day : instant.settled.day = instant.day := by
    rw [← same]
  rw [ofText?, toList_text, ofChars?, date]
  simp only [Option.bind_eq_bind, Option.bind_some, time?_clockChars, zone,
    Date.dayNumber_ofDayNumber, Date.exists?_ofDayNumber, read, day]
  cases dayInRange instant.day <;> rfl

/-- An instant that times are kept as: its day lies in their years, and a leap second ends
a minute. -/
structure Kept (instant : Instant) : Prop where
  inRange : dayInRange instant.day = true
  leapSecond : 1000000000 ≤ instant.nanosecond.val → instant.second.val % 60 = 59

theorem settled_eq_iff (instant : Instant) :
    instant.settled = instant ↔
      (1000000000 ≤ instant.nanosecond.val → instant.second.val % 60 = 59) := by
  have below := instant.nanosecond.isLt
  by_cases last : instant.second.val % 60 + instant.nanosecond.val / 1000000000 = 60
  · rw [settled, if_pos last]
    exact ⟨fun _ _ => by omega, fun _ => rfl⟩
  · rw [settled_of_inside last]
    constructor
    · intro same leap
      have nanosecond := congrArg (fun instant : Instant => instant.nanosecond.val) same
      replace nanosecond : instant.nanosecond.val % 1000000000 % 2000000000 =
        instant.nanosecond.val := nanosecond
      omega
    · intro leap
      have second : Fin.ofNat 86400 (instant.second.val + instant.nanosecond.val / 1000000000) =
          instant.second := by
        apply Fin.ext
        show (instant.second.val + instant.nanosecond.val / 1000000000) % 86400 = _
        have inside := instant.second.isLt
        omega
      have nanosecond : nanoseconds (instant.nanosecond.val % 1000000000) =
          instant.nanosecond := by
        apply Fin.ext
        show instant.nanosecond.val % 1000000000 % 2000000000 = _
        omega
      rw [second, nanosecond]

theorem ofText?_text_iff (instant : Instant) :
    ofText? instant.text = some instant ↔ instant.Kept := by
  rw [ofText?_text_eq]
  constructor
  · intro read
    split at read
    · exact ⟨‹dayInRange instant.day = true›, instant.settled_eq_iff.mp (Option.some.inj read)⟩
    · cases read
  · intro kept
    rw [if_pos kept.inRange, instant.settled_eq_iff.mpr kept.leapSecond]

theorem Kept.ofText?_text {instant : Instant} (kept : instant.Kept) :
    ofText? instant.text = some instant :=
  instant.ofText?_text_iff.mpr kept

theorem Kept.ofJson?_toJson {instant : Instant} (kept : instant.Kept) :
    ofJson? instant.toJson = some instant := by
  simp only [ofJson?, toJson, Json.text?, Option.bind_eq_bind, Option.bind_some]
  exact kept.ofText?_text

end Instant
end WorkflowBus
