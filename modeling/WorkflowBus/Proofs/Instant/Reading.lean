/-
Every time that is read is one that times are kept as.

No more than nine digits behind the point count, so only sixty seconds are more than a second
long, and they are read as the last second of their minute.  Zones are whole minutes ahead of
universal time or behind it, so that second is the last of its minute there as well.
-/

import WorkflowBus.Proofs.Instant.Rfc3339

namespace WorkflowBus
namespace Instant

theorem fraction?_lt {chars rest : List Char} {nanosecond : Nat}
    (read : fraction? chars = some (nanosecond, rest)) : nanosecond < 1000000000 := by
  rw [fraction?.eq_def] at read
  split at read
  case h_1 behind =>
    have short := Decimal.length_digitRun_le 9 behind
    cases run : Decimal.digitRun 9 behind with
    | mk digits remaining =>
        simp only [run] at read short
        split at read
        case isTrue => cases read
        case isFalse =>
          obtain ⟨value, found, same⟩ := Option.map_eq_some_iff.mp read
          cases same
          have nine : (digits ++ List.replicate (9 - digits.length) '0').length = 9 := by
            rw [List.length_append, List.length_replicate]
            omega
          have bound := Decimal.value?_lt found
          rwa [nine] at bound
  case h_2 =>
    cases read
    decide

theorem leapSecond_of_time? {chars rest : List Char} {second : Nat} {nanosecond : Fin 2000000000}
    (read : time? chars = some (second, nanosecond, rest)) (leap : 1000000000 ≤ nanosecond.val) :
    second % 60 = 59 := by
  simp only [time?, Option.bind_eq_bind, Option.bind_eq_some_iff, Prod.exists] at read
  obtain ⟨hour, _, -, _, -, minute, _, -, _, -, shown, _, -, fraction, _, digits, read⟩ := read
  have below := fraction?_lt digits
  split at read
  case isFalse => cases read
  case isTrue inside =>
    split at read
    case isTrue =>
      cases read
      omega
    case isFalse =>
      cases read
      have short : fraction % 2000000000 < 1000000000 := by omega
      exact absurd leap (Nat.not_le_of_gt short)

theorem dvd_of_hoursAndMinutes? {chars rest : List Char} {seconds : Nat}
    (read : zone?.hoursAndMinutes? chars = some (seconds, rest)) : 60 ∣ seconds := by
  simp only [zone?.hoursAndMinutes?, Option.bind_eq_bind, Option.bind_eq_some_iff,
    Prod.exists] at read
  obtain ⟨hours, _, -, minutes, _, -, read⟩ := read
  split at read
  case isFalse => cases read
  case isTrue =>
    cases read
    omega

theorem dvd_of_zone? {chars rest : List Char} {offset : Int}
    (read : zone? chars = some (offset, rest)) : 60 ∣ offset := by
  rw [zone?.eq_def] at read
  split at read
  case isTrue =>
    cases read
    exact Int.dvd_zero 60
  case isFalse =>
    split at read
    case h_1 | h_2 =>
      cases read
      exact Int.dvd_zero 60
    case h_3 =>
      obtain ⟨⟨seconds, _⟩, found, same⟩ := Option.map_eq_some_iff.mp read
      cases same
      exact Int.natCast_dvd_natCast.mpr (dvd_of_hoursAndMinutes? found)
    case h_4 | h_5 =>
      obtain ⟨⟨seconds, _⟩, found, same⟩ := Option.map_eq_some_iff.mp read
      cases same
      exact Int.dvd_neg.mpr (Int.natCast_dvd_natCast.mpr (dvd_of_hoursAndMinutes? found))
    case h_6 => cases read

theorem ofLocal_second_mod {offset : Int} (minutes : 60 ∣ offset) (day : Int) (second : Nat)
    (nanosecond : Fin 2000000000) :
    (ofLocal day second nanosecond offset).second.val % 60 = second % 60 := by
  obtain ⟨count, rfl⟩ := minutes
  show (((second : Int) - 60 * count) % 86400).toNat % 86400 % 60 = second % 60
  omega

theorem kept_of_ofChars? {chars : List Char} {instant : Instant}
    (read : ofChars? chars = some instant) : instant.Kept := by
  simp only [ofChars?, Option.bind_eq_bind, Option.bind_eq_some_iff, Prod.exists] at read
  obtain ⟨date, rest, -, read⟩ := read
  split at read
  case h_1 | h_2 | h_3 =>
    simp only [Option.bind_eq_some_iff, Prod.exists] at read
    obtain ⟨second, nanosecond, _, clock, offset, _, zone, read⟩ := read
    split at read
    case isFalse => cases read
    case isTrue holds =>
      cases read
      simp only [Bool.and_eq_true] at holds
      refine ⟨holds.2, fun leap => ?_⟩
      rw [ofLocal_second_mod (dvd_of_zone? zone)]
      exact leapSecond_of_time? clock leap
  case h_4 => cases read

theorem kept_of_ofJson? {json : Json} {instant : Instant} (read : ofJson? json = some instant) :
    instant.Kept := by
  obtain ⟨text, -, read⟩ := Option.bind_eq_some_iff.mp read
  exact kept_of_ofChars? read

end Instant
end WorkflowBus
