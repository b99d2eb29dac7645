import Mathlib.Data.List.TakeWhile
import Sessiometer.Framing.Decimal
import Sessiometer.Framing.Lines
import Sessiometer.Log.Civil

/-! # The stamp of a line

The instant that the event log writes at the front of a line, and the instant that it is read back as. -/

namespace Sessiometer.Log

open Framing

abbrev Text := List Char

/-- Nanoseconds since the first second of 1970. -/
abbrev SystemTime := ℤ

/-- The whole seconds that are written; a clock before 1970 is written as the first second of 1970. -/
def wholeSeconds (ts : SystemTime) : ℕ := (ts / 1000000000).toNat

def dateText (date : CivilDate) : Text :=
  padded 4 date.year.toNat ++ '-' :: padded 2 date.month.toNat ++ '-' :: padded 2 date.day.toNat

def timeText (hour minute second : ℕ) : Text :=
  padded 2 hour ++ ':' :: padded 2 minute ++ ':' :: padded 2 second

def rfc3339 (ts : SystemTime) : Text :=
  let secs := wholeSeconds ts
  let rem := secs % 86400
  dateText (civilFromDays (secs / 86400 : ℕ)) ++
    'T' :: (timeText (rem / 3600) (rem % 3600 / 60) (rem % 60) ++ ['Z'])

/-- A time of day and what it lies east of UTC, in seconds. -/
def splitOffset (rest : Text) : Option (Text × ℤ) :=
  if rest.getLast? = some 'Z' ∨ rest.getLast? = some 'z' then some (rest.dropLast, 0)
  else
    match rposition (fun c => c == '+' || c == '-') rest with
    | none => some (rest, 0)
    | some pos => do
      let time := rest.take pos
      let sign : ℤ := if rest[pos]? = some '-' then -1 else 1
      let tz := rest.drop (pos + 1)
      let (hours, minutes) ←
        match splitOnce ':' tz with
        | some (h, m) => do pure (← parseSigned (2 ^ 63) h, ← parseSigned (2 ^ 63) m)
        | none =>
          if byteLength tz = 4 then do
            pure (← parseSigned (2 ^ 63) (tz.take 2), ← parseSigned (2 ^ 63) (tz.drop 2))
          else do pure (← parseSigned (2 ^ 63) tz, 0)
      pure (time, sign * (hours * 3600 + minutes * 60))

def epochDate (date : Text) : Option CivilDate := do
  let [y, m, d] := date.splitOn '-' | none
  let year ← parseSigned (2 ^ 63) y
  let month ← parseUnsigned (2 ^ 32) m
  let day ← parseUnsigned (2 ^ 32) d
  if (0 ≤ year ∧ year ≤ 9999) ∧ (1 ≤ month ∧ month ≤ 12) ∧ 1 ≤ day ∧ (day : ℤ) ≤ daysInMonth year month then
    pure ⟨year, month, day⟩
  else none

def epochTime (time : Text) : Option ℤ := do
  let (h, m, s) ←
    match (time.takeWhile (· ≠ '.')).splitOn ':' with
    | [h, m] => some (h, m, ['0'])
    | [h, m, s] => some (h, m, s)
    | _ => none
  let hour ← parseSigned (2 ^ 63) h
  let minute ← parseSigned (2 ^ 63) m
  let second ← parseSigned (2 ^ 63) s
  if (0 ≤ hour ∧ hour ≤ 23) ∧ (0 ≤ minute ∧ minute ≤ 59) ∧ 0 ≤ second ∧ second ≤ 60 then
    pure (hour * 3600 + minute * 60 + second)
  else none

def epochFromRfc3339 (s : Text) : Option ℤ := do
  let (date, rest) ← (splitOnce 'T' s).or (splitOnce ' ' s)
  let date ← epochDate date
  let (time, offset) ← splitOffset rest
  let time ← epochTime time
  pure (daysFromCivil date * 86400 + time - offset)

/-! ## What is read back -/

/-- The first second of the year 10000. -/
def yearTenThousand : ℕ := 253402300800

variable {ts : SystemTime}

theorem splitOn_padded {sep : Char} {width n : ℕ} {rest : Text} (hsep : sep.isDigit = false) :
    (padded width n ++ sep :: rest).splitOn sep = padded width n :: rest.splitOn sep :=
  List.splitOn_append_cons_self_of_not_mem (notMem_padded hsep) rest

theorem splitOn_padded_end {sep : Char} {width n : ℕ} (hsep : sep.isDigit = false) :
    (padded width n).splitOn sep = [padded width n] :=
  List.splitOn_eq_singleton (notMem_padded hsep)

theorem daysInMonth_le (year month : ℤ) : daysInMonth year month ≤ 31 := by
  unfold daysInMonth
  split <;> split <;> (try split) <;> decide

theorem epochDate_dateText {date : CivilDate} (hyear : 0 ≤ date.year) (hmonth : 1 ≤ date.month)
    (hmonth' : date.month ≤ 12) (hday : 1 ≤ date.day) (hday' : date.day ≤ daysInMonth date.year date.month) :
    epochDate (dateText date) = if date.year ≤ 9999 then some date else none := by
  obtain ⟨year, month, day⟩ := date
  dsimp only at *
  have hparts : (dateText ⟨year, month, day⟩).splitOn '-' =
      [padded 4 year.toNat, padded 2 month.toNat, padded 2 day.toNat] := by
    unfold dateText
    rw [List.append_assoc, List.cons_append, splitOn_padded rfl, splitOn_padded rfl, splitOn_padded_end rfl]
  have hday31 := hday'.trans (daysInMonth_le year month)
  have hmonth32 : parseUnsigned (2 ^ 32) (padded 2 month.toNat) = some month.toNat :=
    parseUnsigned_padded (by omega)
  have hday32 : parseUnsigned (2 ^ 32) (padded 2 day.toNat) = some day.toNat :=
    parseUnsigned_padded (by omega)
  have hmonths : ((month.toNat : ℕ) : ℤ) = month := Int.toNat_of_nonneg (by omega)
  have hdays : ((day.toNat : ℕ) : ℤ) = day := Int.toNat_of_nonneg (by omega)
  unfold epochDate
  rw [hparts]
  by_cases hsmall : year < 2 ^ 63
  · have hyear63 : parseSigned (2 ^ 63) (padded 4 year.toNat) = some year := by
      rw [parseSigned_padded (by omega), Int.toNat_of_nonneg hyear]
    simp only [hyear63, hmonth32, hday32, Option.bind_eq_bind, Option.bind_some, hmonths, hdays]
    by_cases hlast : year ≤ 9999
    · rw [if_pos hlast, if_pos (by omega)]
      rfl
    · rw [if_neg hlast, if_neg (by omega)]
  · have hlast : ¬ year ≤ 9999 := by omega
    have hyear63 : parseSigned (2 ^ 63) (padded 4 year.toNat) = none := by
      rw [parseSigned_padded_eq, if_neg (by omega)]
    rw [if_neg hlast]
    simp only [hyear63, Option.bind_eq_bind, Option.bind_none]

theorem epochTime_timeText {hour minute second : ℕ} (hhour : hour < 24) (hminute : minute < 60)
    (hsecond : second ≤ 60) :
    epochTime (timeText hour minute second) = some ((hour : ℤ) * 3600 + minute * 60 + second) := by
  have hdot : ∀ c ∈ timeText hour minute second, decide (c ≠ '.') = true := by
    intro c hc
    apply decide_eq_true
    rintro rfl
    simp [timeText, notMem_padded] at hc
  have hwhole := List.takeWhile_eq_self_iff.mpr hdot
  have hparts : (timeText hour minute second).splitOn ':' =
      [padded 2 hour, padded 2 minute, padded 2 second] := by
    unfold timeText
    rw [List.append_assoc, List.cons_append, splitOn_padded rfl, splitOn_padded rfl, splitOn_padded_end rfl]
  have hhour63 : parseSigned (2 ^ 63) (padded 2 hour) = some (hour : ℤ) := parseSigned_padded (by omega)
  have hminute63 : parseSigned (2 ^ 63) (padded 2 minute) = some (minute : ℤ) := parseSigned_padded (by omega)
  have hsecond63 : parseSigned (2 ^ 63) (padded 2 second) = some (second : ℤ) := parseSigned_padded (by omega)
  unfold epochTime
  rw [hwhole, hparts]
  simp only [hhour63, hminute63, hsecond63, Option.bind_eq_bind, Option.bind_some]
  exact if_pos (by omega)

theorem splitOffset_utc (time : Text) : splitOffset (time ++ ['Z']) = some (time, 0) := by
  unfold splitOffset
  simp

theorem splitOnce_dateText (date : CivilDate) (rest : Text) :
    splitOnce 'T' (dateText date ++ 'T' :: rest) = some (dateText date, rest) := by
  apply splitOnce_append
  simp [dateText, notMem_padded]

section Reading

variable {s date rest time : Text} {d : CivilDate} {offset t : ℤ}

theorem epochFromRfc3339_some (hcut : splitOnce 'T' s = some (date, rest)) (hdate : epochDate date = some d)
    (hoffset : splitOffset rest = some (time, offset)) (htime : epochTime time = some t) :
    epochFromRfc3339 s = some (daysFromCivil d * 86400 + t - offset) := by
  unfold epochFromRfc3339
  rw [hcut, Option.some_or, Option.bind_eq_bind, Option.bind_some]
  dsimp only
  rw [hdate, Option.bind_eq_bind, Option.bind_some, hoffset, Option.bind_eq_bind, Option.bind_some]
  dsimp only
  rw [htime]
  rfl

theorem epochFromRfc3339_none (hcut : splitOnce 'T' s = some (date, rest)) (hdate : epochDate date = none) :
    epochFromRfc3339 s = none := by
  unfold epochFromRfc3339
  rw [hcut, Option.some_or, Option.bind_eq_bind, Option.bind_some]
  dsimp only
  rw [hdate]
  rfl

end Reading

/-- The stamp of a line is read back as the second it was written at, up to the year 9999. -/
theorem epochFromRfc3339_rfc3339 : epochFromRfc3339 (rfc3339 ts) =
    if wholeSeconds ts < yearTenThousand then some (wholeSeconds ts : ℤ) else none := by
  have hdays : (0 : ℤ) ≤ (wholeSeconds ts / 86400 : ℕ) := Int.natCast_nonneg _
  obtain ⟨hmonth, hmonth', hday, hday'⟩ := civilFromDays_valid (wholeSeconds ts / 86400 : ℕ)
  obtain ⟨hyear, hlast⟩ := civilFromDays_year hdays
  have hback := daysFromCivil_civilFromDays (wholeSeconds ts / 86400 : ℕ)
  have hdate := epochDate_dateText (by omega) hmonth hmonth' hday hday'
  have htime := epochTime_timeText (show wholeSeconds ts % 86400 / 3600 < 24 by omega)
    (show wholeSeconds ts % 86400 % 3600 / 60 < 60 by omega) (show wholeSeconds ts % 86400 % 60 ≤ 60 by omega)
  have hcut := splitOnce_dateText (civilFromDays (wholeSeconds ts / 86400 : ℕ))
    (timeText (wholeSeconds ts % 86400 / 3600) (wholeSeconds ts % 86400 % 3600 / 60)
      (wholeSeconds ts % 86400 % 60) ++ ['Z'])
  by_cases hbelow : (civilFromDays (wholeSeconds ts / 86400 : ℕ)).year ≤ 9999
  · have hsmall : wholeSeconds ts < yearTenThousand := by
      have hlt := hlast.mp hbelow
      unfold yearTenThousand
      omega
    rw [if_pos hbelow] at hdate
    rw [if_pos hsmall]
    have hread := epochFromRfc3339_some hcut hdate (splitOffset_utc _) htime
    have hsum : ((wholeSeconds ts / 86400 : ℕ) : ℤ) * 86400 + (((wholeSeconds ts % 86400 / 3600 : ℕ) : ℤ) * 3600 +
        (wholeSeconds ts % 86400 % 3600 / 60 : ℕ) * 60 + (wholeSeconds ts % 86400 % 60 : ℕ)) - 0 =
        wholeSeconds ts := by
      omega
    rw [hback, hsum] at hread
    exact hread
  · have hlarge : ¬ wholeSeconds ts < yearTenThousand := by
      unfold yearTenThousand
      omega
    rw [if_neg hbelow] at hdate
    rw [if_neg hlarge]
    exact epochFromRfc3339_none hcut hdate

end Sessiometer.Log
