import Mathlib.Data.Int.Basic
import Mathlib.Tactic.Linarith
import Mathlib.Tactic.IntervalCases

/-! # The civil calendar

The date that the event log writes for a count of days since 1970-01-01, and the count that a date is read
back as. -/

namespace Sessiometer.Log

structure CivilDate where
  year : ℤ
  month : ℤ
  day : ℤ
deriving DecidableEq, Repr

def isLeapYear (year : ℤ) : Bool := year % 4 = 0 ∧ (year % 100 ≠ 0 ∨ year % 400 = 0)

def daysInMonth (year month : ℤ) : ℤ :=
  if month = 2 then if isLeapYear year then 29 else 28
  else if month ∈ [4, 6, 9, 11] then 30
  else if month ∈ [1, 3, 5, 7, 8, 10, 12] then 31
  else 0

def civilFromDays (days : ℤ) : CivilDate :=
  let z := days + 719468
  let era := (if 0 ≤ z then z else z - 146096).tdiv 146097
  let doe := z - era * 146097
  let yoe := (doe - doe.tdiv 1460 + doe.tdiv 36524 - doe.tdiv 146096).tdiv 365
  let year := yoe + era * 400
  let doy := doe - (365 * yoe + yoe.tdiv 4 - yoe.tdiv 100)
  let mp := (5 * doy + 2).tdiv 153
  let day := doy - (153 * mp + 2).tdiv 5 + 1
  let month := if mp < 10 then mp + 3 else mp - 9
  ⟨year + if month ≤ 2 then 1 else 0, month, day⟩

def daysFromCivil (date : CivilDate) : ℤ :=
  let year := if date.month ≤ 2 then date.year - 1 else date.year
  let era := (if 0 ≤ year then year else year - 399).tdiv 400
  let yoe := year - era * 400
  let doy := (153 * (if 2 < date.month then date.month - 3 else date.month + 9) + 2).tdiv 5 +
    (date.day - 1)
  let doe := yoe * 365 + yoe.tdiv 4 - yoe.tdiv 100 + doy
  era * 146097 + doe - 719468

section Calendar

variable {doe days : ℤ}

/-- Division that rounds toward zero, after the shift that rounds it down. -/
theorem tdiv_shift {n : ℤ} (hn : 0 < n) (z : ℤ) : (if 0 ≤ z then z else z - (n - 1)).tdiv n = z / n := by
  by_cases hz : 0 ≤ z
  · rw [if_pos hz, Int.tdiv_eq_ediv_of_nonneg hz]
  · rw [if_neg hz]
    have hneg : z - (n - 1) = -(n - 1 - z) := by omega
    rw [hneg, Int.neg_tdiv, Int.tdiv_eq_ediv_of_nonneg (by omega)]
    have hlow := Int.mul_ediv_add_emod z n
    have hlow0 := Int.emod_nonneg z (show n ≠ 0 by omega)
    have hlow1 := Int.emod_lt_of_pos z hn
    have hup : (n - 1 - z) / n = -(z / n) := by
      rw [Int.ediv_eq_iff_of_pos hn]
      constructor <;> nlinarith
    omega

/-- A day of the four hundred years: century, leap cycle, year and day of the year. -/
theorem exists_place (h0 : 0 ≤ doe) (h1 : doe < 146097) : ∃ d m b doy : ℤ,
    doe = 36524 * d + 1461 * m + 365 * b + doy ∧ 0 ≤ d ∧ d ≤ 3 ∧ 0 ≤ m ∧ m ≤ 24 ∧ 0 ≤ b ∧ b ≤ 3 ∧
      0 ≤ doy ∧ (doy < 365 ∨ doy = 365 ∧ b = 3 ∧ (m = 24 → d = 3)) := by
  have hd : ∃ d r : ℤ, doe = 36524 * d + r ∧ 0 ≤ d ∧ d ≤ 3 ∧ 0 ≤ r ∧ (r < 36524 ∨ r = 36524 ∧ d = 3) := by
    by_cases hlast : doe = 146096
    · exact ⟨3, 36524, by omega⟩
    · exact ⟨doe / 36524, doe % 36524, by omega⟩
  obtain ⟨d, r, hr, hd0, hd3, hr0, hr1⟩ := hd
  have hb : ∃ m b doy : ℤ, r = 1461 * m + 365 * b + doy ∧ 0 ≤ m ∧ m ≤ 24 ∧ 0 ≤ b ∧ b ≤ 3 ∧
      0 ≤ doy ∧ (doy < 365 ∨ doy = 365 ∧ b = 3) := by
    by_cases hlast : r % 1461 = 1460
    · exact ⟨r / 1461, 3, 365, by omega⟩
    · exact ⟨r / 1461, r % 1461 / 365, r % 1461 % 365, by omega⟩
  obtain ⟨m, b, doy, hm, h⟩ := hb
  exact ⟨d, m, b, doy, by omega⟩

theorem yoe_eq {d m b doy : ℤ} (hd : doe = 36524 * d + 1461 * m + 365 * b + doy)
    (hd0 : 0 ≤ d) (hd3 : d ≤ 3) (hm : 0 ≤ m) (hm' : m ≤ 24) (hb : 0 ≤ b) (hb' : b ≤ 3)
    (h0 : 0 ≤ doy) (h1 : doy < 365 ∨ doy = 365 ∧ b = 3 ∧ (m = 24 → d = 3)) :
    (doe - doe / 1460 + doe / 36524 - doe / 146096) / 365 = 100 * d + 4 * m + b := by
  have h36524 : doe / 36524 - doe / 146096 = d := by
    by_cases hlast : doe = 146096
    · omega
    · have hbelow : 1461 * m + 365 * b + doy < 36524 := by omega
      have hera : doe / 146096 = 0 := by omega
      omega
  have h1460 : doe / 1460 = 25 * d + m + (24 * d + m + 365 * b + doy) / 1460 := by omega
  omega

theorem month_spec {doy : ℤ} (h0 : 0 ≤ doy) (h1 : doy < 366) : ∃ mp,
    (5 * doy + 2) / 153 = mp ∧ 0 ≤ mp ∧ mp < 12 ∧
    1 ≤ doy - (153 * mp + 2) / 5 + 1 ∧
      (mp = 11 → doy - (153 * mp + 2) / 5 + 1 ≤ 29 ∧ (doy < 365 → doy - (153 * mp + 2) / 5 + 1 ≤ 28)) ∧
      (mp ∈ [1, 3, 6, 8] → doy - (153 * mp + 2) / 5 + 1 ≤ 30) ∧ doy - (153 * mp + 2) / 5 + 1 ≤ 31 := by
  refine ⟨_, rfl, ?_⟩
  simp only [List.mem_cons, List.not_mem_nil, or_false]
  omega

theorem doy_eq {d m b doy : ℤ} (hd : doe = 36524 * d + 1461 * m + 365 * b + doy)
    (hm : 0 ≤ m) (hm' : m ≤ 24) (hb : 0 ≤ b) (hb' : b ≤ 3) :
    doe - (365 * (100 * d + 4 * m + b) + (100 * d + 4 * m + b) / 4 - (100 * d + 4 * m + b) / 100) =
      doy := by
  omega

/-- Years that begin on the first of March. -/
theorem exists_year (z : ℤ) : ∃ era yoe doy : ℤ,
    z = era * 146097 + (yoe * 365 + yoe / 4 - yoe / 100 + doy) ∧ 0 ≤ yoe ∧ yoe < 400 ∧ 0 ≤ doy ∧
      (doy < 365 ∨ doy = 365 ∧ isLeapYear (yoe + era * 400 + 1) = true) ∧
      era = z / 146097 ∧
      yoe = (z % 146097 - z % 146097 / 1460 + z % 146097 / 36524 - z % 146097 / 146096) / 365 := by
  have hdoe0 := Int.emod_nonneg z (b := 146097) (by decide)
  have hdoe1 := Int.emod_lt_of_pos z (b := 146097) (by decide)
  obtain ⟨d, m, b, doy, hd, hd0, hd3, hm, hm', hb, hb', h0, h1⟩ := exists_place hdoe0 hdoe1
  have hdoy := doy_eq hd hm hm' hb hb'
  have hz' := Int.mul_ediv_add_emod z 146097
  refine ⟨z / 146097, 100 * d + 4 * m + b, doy, ?_, by omega, by omega, h0, ?_, rfl, ?_⟩
  · generalize z / 146097 = era at *
    generalize z % 146097 = doe at *
    omega
  · rcases h1 with h1 | ⟨h1, hb3, hlast⟩
    · exact .inl h1
    · right
      refine ⟨h1, ?_⟩
      simp only [isLeapYear, decide_eq_true_eq]
      generalize z / 146097 = era
      subst hb3
      clear hd hdoy hz'
      by_cases h24 : m = 24
      · have hd := hlast h24
        subst h24 hd
        omega
      · omega
  · exact (yoe_eq hd hd0 hd3 hm hm' hb hb' h0 h1).symm

theorem civilFromDays_eq (days : ℤ) : ∃ era yoe mp day : ℤ,
    civilFromDays days = ⟨yoe + era * 400 + if (if mp < 10 then mp + 3 else mp - 9) ≤ 2 then 1 else 0,
        if mp < 10 then mp + 3 else mp - 9, day⟩ ∧
      days + 719468 = era * 146097 + (yoe * 365 + yoe / 4 - yoe / 100 + ((153 * mp + 2) / 5 + (day - 1))) ∧
      era = (days + 719468) / 146097 ∧ 0 ≤ yoe ∧ yoe < 400 ∧ 0 ≤ mp ∧ mp < 12 ∧ 1 ≤ day ∧
      (mp = 11 → day ≤ 28 ∨ day = 29 ∧ isLeapYear (yoe + era * 400 + 1) = true) ∧
      (mp ∈ [1, 3, 6, 8] → day ≤ 30) ∧ day ≤ 31 := by
  obtain ⟨era, yoe, doy, hdays, hyoe, hyoe', hdoy, hlast, heras, hyoes⟩ := exists_year (days + 719468)
  obtain ⟨mp, hmp, hmp0, hmp12, hday, hfeb, hshort, hlong⟩ := month_spec hdoy (by omega)
  refine ⟨era, yoe, mp, doy - (153 * mp + 2) / 5 + 1, ?_, ?_, heras, hyoe, hyoe', hmp0, hmp12, hday, ?_,
    hshort, hlong⟩
  · have hmod0 := Int.emod_nonneg (days + 719468) (b := 146097) (by decide)
    have hyear : ((days + 719468) % 146097 - ((days + 719468) % 146097).tdiv 1460 +
        ((days + 719468) % 146097).tdiv 36524 - ((days + 719468) % 146097).tdiv 146096).tdiv 365 = yoe := by
      rw [Int.tdiv_eq_ediv_of_nonneg hmod0, Int.tdiv_eq_ediv_of_nonneg hmod0,
        Int.tdiv_eq_ediv_of_nonneg hmod0, hyoes]
      apply Int.tdiv_eq_ediv_of_nonneg
      clear hyoes
      omega
    clear hyoes
    have hmod : days + 719468 - era * 146097 = (days + 719468) % 146097 := by omega
    have hdoe : doy = (days + 719468) % 146097 - (365 * yoe + yoe / 4 - yoe / 100) := by omega
    have hfloor := tdiv_shift (show (0 : ℤ) < 146097 by decide) (days + 719468)
    rw [show (146097 : ℤ) - 1 = 146096 by decide, ← heras] at hfloor
    unfold civilFromDays
    simp only [hfloor, hmod, hyear]
    rw [Int.tdiv_eq_ediv_of_nonneg hyoe, Int.tdiv_eq_ediv_of_nonneg hyoe, ← hdoe,
      Int.tdiv_eq_ediv_of_nonneg (show 0 ≤ 5 * doy + 2 by omega), hmp,
      Int.tdiv_eq_ediv_of_nonneg (show 0 ≤ 153 * mp + 2 by omega)]
  · omega
  · intro h11
    have hbound := hfeb h11
    rcases hlast with hlast | ⟨hlast, hleap⟩
    · left
      omega
    · by_cases hday29 : doy - (153 * mp + 2) / 5 + 1 ≤ 28
      · exact .inl hday29
      · right
        exact ⟨by omega, hleap⟩

/-- Every day, also before 1970, is counted back from its date. -/
theorem daysFromCivil_civilFromDays (days : ℤ) : daysFromCivil (civilFromDays days) = days := by
  obtain ⟨era, yoe, mp, day, hdate, hdays, -, hyoe, hyoe', hmp, hmp', hday, -, -, -⟩ :=
    civilFromDays_eq days
  have hera400 : (if 0 ≤ yoe + era * 400 then yoe + era * 400 else yoe + era * 400 - 399).tdiv 400 =
      era := by
    have hfloor := tdiv_shift (show (0 : ℤ) < 400 by decide) (yoe + era * 400)
    rw [show (400 : ℤ) - 1 = 399 by decide] at hfloor
    omega
  have hshift : ∀ month : ℤ, month = (if mp < 10 then mp + 3 else mp - 9) →
      (if month ≤ 2 then yoe + era * 400 + (if month ≤ 2 then 1 else 0) - 1
        else yoe + era * 400 + (if month ≤ 2 then 1 else 0)) = yoe + era * 400 ∧
      (if 2 < month then month - 3 else month + 9) = mp := by
    intro month hmonth
    split at hmonth <;> split <;> split <;> omega
  obtain ⟨hyear, hmonth⟩ := hshift _ rfl
  have hyoe400 : yoe + era * 400 - era * 400 = yoe := by omega
  rw [hdate]
  unfold daysFromCivil
  simp only [hyear, hmonth, hera400, hyoe400]
  rw [Int.tdiv_eq_ediv_of_nonneg hyoe, Int.tdiv_eq_ediv_of_nonneg hyoe,
    Int.tdiv_eq_ediv_of_nonneg (show 0 ≤ 153 * mp + 2 by omega)]
  omega

theorem civilFromDays_valid (days : ℤ) :
    1 ≤ (civilFromDays days).month ∧ (civilFromDays days).month ≤ 12 ∧ 1 ≤ (civilFromDays days).day ∧
      (civilFromDays days).day ≤ daysInMonth (civilFromDays days).year (civilFromDays days).month := by
  obtain ⟨era, yoe, mp, day, hdate, hdays, hera, hyoe, hyoe', hmp, hmp', hday, hfeb, hshort, hlong⟩ :=
    civilFromDays_eq days
  rw [hdate]
  dsimp only
  clear hdate hdays hera
  by_cases hlate : mp < 10
  · rw [if_pos hlate]
    refine ⟨by omega, by omega, hday, ?_⟩
    interval_cases mp
    all_goals
      simp [daysInMonth] at *
      omega
  · rw [if_neg hlate]
    refine ⟨by omega, by omega, hday, ?_⟩
    interval_cases mp
    all_goals
      simp [daysInMonth] at *
      try omega
    rcases hfeb with hfeb | ⟨hfeb, hleap⟩
    · split <;> omega
    · rw [if_pos hleap]
      omega

theorem civilFromDays_year (h : 0 ≤ days) :
    1970 ≤ (civilFromDays days).year ∧ ((civilFromDays days).year ≤ 9999 ↔ days < 2932897) := by
  obtain ⟨era, yoe, mp, day, hdate, hdays, hera, hyoe, hyoe', hmp, hmp', hday, hfeb, hshort, hlong⟩ :=
    civilFromDays_eq days
  replace hera : 0 ≤ era := by omega
  rw [hdate]
  dsimp only
  clear hdate
  have hdoy : 0 ≤ (153 * mp + 2) / 5 + (day - 1) ∧
      ((153 * mp + 2) / 5 + (day - 1) ≤ 305 ∧ mp < 10 ∨ 306 ≤ (153 * mp + 2) / 5 + (day - 1) ∧ 10 ≤ mp) := by
    clear hdays
    omega
  have hdoy' : (153 * mp + 2) / 5 + (day - 1) ≤ 365 := by
    clear hdays hshort hdoy
    omega
  generalize (153 * mp + 2) / 5 + (day - 1) = doy at *
  have hfour : 0 ≤ yoe / 4 - yoe / 100 ∧ yoe / 4 - yoe / 100 ≤ 96 := by
    clear hdays
    omega
  have hsplit : ∀ n : ℤ, yoe + era * 400 + (if (if mp < 10 then mp + 3 else mp - 9) ≤ 2 then 1 else 0) ≤ n ↔
      yoe + era * 400 < n ∨ yoe + era * 400 = n ∧ mp < 10 := by
    intro n
    by_cases hlate : mp < 10
    · rw [if_pos hlate, if_neg (by omega)]
      omega
    · rw [if_neg hlate, if_pos (by omega)]
      omega
  clear hfeb hshort hday hlong
  constructor
  · by_contra hbelow
    have hle := (hsplit 1969).mp (by omega)
    clear hsplit
    have hera4 : era ≤ 4 := by omega
    interval_cases era <;> omega
  · rw [hsplit]
    clear hsplit
    by_cases hera24 : era ≤ 23
    · omega
    · by_cases hera25 : 25 ≤ era
      · omega
      · have heq : era = 24 := by omega
        subst heq
        by_cases hyoe399 : yoe = 399
        · subst hyoe399
          omega
        · have hyears : yoe / 4 - yoe / 100 ≤ 96 := hfour.2
          omega

end Calendar

end Sessiometer.Log
