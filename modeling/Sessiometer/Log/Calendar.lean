import Sessiometer.Log.Civil

/-! # The order of the dates

A later date is a later day, and every date of the calendar is the date of its day. -/

namespace Sessiometer.Log

/-- A date that the calendar has. -/
def CivilDate.Valid (date : CivilDate) : Prop :=
  1 ≤ date.month ∧ date.month ≤ 12 ∧ 1 ≤ date.day ∧ date.day ≤ daysInMonth date.year date.month

def CivilDate.Before (a b : CivilDate) : Prop :=
  a.year < b.year ∨ a.year = b.year ∧ (a.month < b.month ∨ a.month = b.month ∧ a.day < b.day)

/-- The date of the next day. -/
def CivilDate.next (date : CivilDate) : CivilDate :=
  if date.day < daysInMonth date.year date.month then ⟨date.year, date.month, date.day + 1⟩
  else if date.month < 12 then ⟨date.year, date.month + 1, 1⟩
  else ⟨date.year + 1, 1, 1⟩

section Order

variable {a b date : CivilDate}

/-- The months since March. -/
def marchMonth (month : ℤ) : ℤ := if 2 < month then month - 3 else month + 9

/-- The year that begins with the March before the date. -/
def marchYear (date : CivilDate) : ℤ := if date.month ≤ 2 then date.year - 1 else date.year

/-- The days since the first of March. -/
def marchDay (date : CivilDate) : ℤ := (153 * marchMonth date.month + 2) / 5 + (date.day - 1)

/-- The days before the first of March of the year. -/
def daysBefore (year : ℤ) : ℤ := 365 * year + year / 4 - year / 100 + year / 400

theorem daysFromCivil_eq (hmonth : 1 ≤ date.month) :
    daysFromCivil date = daysBefore (marchYear date) + marchDay date - 719468 := by
  have hfloor := tdiv_shift (show (0 : ℤ) < 400 by decide) (marchYear date)
  rw [show (400 : ℤ) - 1 = 399 by decide] at hfloor
  have hmod : marchYear date - marchYear date / 400 * 400 = marchYear date % 400 := by omega
  have hmonths : 0 ≤ 153 * marchMonth date.month + 2 := by
    unfold marchMonth
    split <;> omega
  unfold daysFromCivil marchDay daysBefore
  dsimp only
  rw [← marchYear, ← marchMonth, hfloor, hmod, Int.tdiv_eq_ediv_of_nonneg (by omega),
    Int.tdiv_eq_ediv_of_nonneg (by omega), Int.tdiv_eq_ediv_of_nonneg hmonths]
  generalize (153 * marchMonth date.month + 2) / 5 = before
  omega

theorem daysBefore_succ (year : ℤ) :
    daysBefore (year + 1) = daysBefore year + if isLeapYear (year + 1) then 366 else 365 := by
  unfold daysBefore
  by_cases hleap : isLeapYear (year + 1) = true
  · rw [if_pos hleap]
    simp only [isLeapYear, decide_eq_true_eq] at hleap
    omega
  · rw [if_neg hleap]
    simp only [isLeapYear, decide_eq_true_eq] at hleap
    omega

theorem daysBefore_mono {year later : ℤ} (h : year ≤ later) : daysBefore year ≤ daysBefore later := by
  unfold daysBefore
  omega

/-- The next month begins where the month ends, unless that is February. -/
theorem marchMonth_next {month : ℤ} (hmonth : 1 ≤ month) (hmonth' : month ≤ 12) (hfeb : month ≠ 2)
    (year : ℤ) : (153 * marchMonth month + 2) / 5 + daysInMonth year month =
      (153 * (marchMonth month + 1) + 2) / 5 := by
  interval_cases month <;> simp [marchMonth, daysInMonth] at *

theorem marchMonth_bounds (hmonth : 1 ≤ date.month) (hmonth' : date.month ≤ 12) :
    0 ≤ marchMonth date.month ∧ marchMonth date.month ≤ 11 := by
  unfold marchMonth
  split <;> omega

theorem marchDay_lt_next (h : date.Valid) (hfeb : date.month ≠ 2) :
    marchDay date < (153 * (marchMonth date.month + 1) + 2) / 5 := by
  obtain ⟨hmonth, hmonth', hday, hday'⟩ := h
  have hend := marchMonth_next hmonth hmonth' hfeb date.year
  unfold marchDay
  omega

theorem marchDay_lt (h : date.Valid) :
    marchDay date < if isLeapYear (marchYear date + 1) then 366 else 365 := by
  by_cases hfeb : date.month = 2
  · obtain ⟨-, -, -, hday⟩ := h
    have hyear : marchYear date + 1 = date.year := by
      unfold marchYear
      rw [if_pos (by omega)]
      omega
    have heleven : marchMonth date.month = 11 := by rw [hfeb]; rfl
    unfold marchDay
    rw [hyear, heleven]
    unfold daysInMonth at hday
    rw [if_pos hfeb] at hday
    split at hday <;> split <;> omega
  · have hnext := marchDay_lt_next h hfeb
    have hten : marchMonth date.month ≤ 10 := by
      obtain ⟨hmonth, hmonth', -⟩ := h
      unfold marchMonth
      split <;> omega
    split <;> omega

/-- A later date is a later day. -/
theorem daysFromCivil_lt (ha : a.Valid) (hb : b.Valid) (h : a.Before b) :
    daysFromCivil a < daysFromCivil b := by
  rw [daysFromCivil_eq ha.1, daysFromCivil_eq hb.1]
  have hday : 0 ≤ marchDay b := by
    have hbounds := marchMonth_bounds hb.1 hb.2.1
    have hfirst := hb.2.2.1
    unfold marchDay
    omega
  have hyears : marchYear a < marchYear b ∨ marchYear a = marchYear b ∧ marchDay a < marchDay b := by
    have horder : marchYear a < marchYear b ∨ marchYear a = marchYear b ∧
        (marchMonth a.month < marchMonth b.month ∨
          marchMonth a.month = marchMonth b.month ∧ a.day < b.day) := by
      unfold CivilDate.Before at h
      unfold CivilDate.Valid at ha hb
      unfold marchYear marchMonth
      split_ifs <;> omega
    rcases horder with hyears | ⟨hyears, hmonths | ⟨hmonths, hdays⟩⟩
    · exact .inl hyears
    · have hfeb : a.month ≠ 2 := by
        have hlast := (marchMonth_bounds hb.1 hb.2.1).2
        intro hfeb
        rw [hfeb] at hmonths
        have heleven : marchMonth 2 = 11 := rfl
        omega
      have hnext := marchDay_lt_next ha hfeb
      have hfirst := hb.2.2.1
      refine .inr ⟨hyears, ?_⟩
      unfold marchDay at hnext ⊢
      omega
    · refine .inr ⟨hyears, ?_⟩
      unfold marchDay
      rw [hmonths]
      omega
  rcases hyears with hyears | ⟨hyears, hdays⟩
  · have hsucc := daysBefore_succ (marchYear a)
    have hmono := daysBefore_mono (show marchYear a + 1 ≤ marchYear b by omega)
    have hlast := marchDay_lt ha
    omega
  · rw [hyears]
    omega

theorem civilDate_trichotomy (a b : CivilDate) : a.Before b ∨ a = b ∨ b.Before a := by
  unfold CivilDate.Before
  by_cases heq : a = b
  · exact .inr (.inl heq)
  · have hne : ¬ (a.year = b.year ∧ a.month = b.month ∧ a.day = b.day) := by
      rintro ⟨hyear, hmonth, hday⟩
      apply heq
      cases a
      cases b
      simp_all
    omega

theorem daysFromCivil_lt_iff (ha : a.Valid) (hb : b.Valid) :
    daysFromCivil a < daysFromCivil b ↔ a.Before b := by
  constructor
  · intro h
    rcases civilDate_trichotomy a b with hab | rfl | hba
    · exact hab
    · omega
    · have hlt := daysFromCivil_lt hb ha hba
      omega
  · exact daysFromCivil_lt ha hb

theorem civilFromDays_isValid (days : ℤ) : (civilFromDays days).Valid := civilFromDays_valid days

/-- Every date of the calendar is the date of its day. -/
theorem civilFromDays_daysFromCivil (h : date.Valid) : civilFromDays (daysFromCivil date) = date := by
  have hvalid := civilFromDays_isValid (daysFromCivil date)
  have hback := daysFromCivil_civilFromDays (daysFromCivil date)
  rcases civilDate_trichotomy (civilFromDays (daysFromCivil date)) date with hlt | heq | hlt
  · have hdays := daysFromCivil_lt hvalid h hlt
    omega
  · exact heq
  · have hdays := daysFromCivil_lt h hvalid hlt
    omega

theorem civilFromDays_before {days later : ℤ} :
    (civilFromDays days).Before (civilFromDays later) ↔ days < later := by
  rw [← daysFromCivil_lt_iff (civilFromDays_isValid days) (civilFromDays_isValid later),
    daysFromCivil_civilFromDays, daysFromCivil_civilFromDays]

theorem next_valid (h : date.Valid) : date.next.Valid := by
  obtain ⟨hmonth, hmonth', hday, hday'⟩ := h
  have hlength : ∀ year month : ℤ, 1 ≤ month → month ≤ 12 → 1 ≤ daysInMonth year month := by
    intro year month h1 h12
    unfold daysInMonth
    interval_cases month <;> simp
    split <;> decide
  unfold CivilDate.next CivilDate.Valid
  split
  · exact ⟨hmonth, hmonth', by dsimp only; omega, by dsimp only; omega⟩
  · split
    · dsimp only
      exact ⟨by omega, by omega, by omega, hlength _ _ (by omega) (by omega)⟩
    · dsimp only
      exact ⟨by omega, by omega, by omega, hlength _ 1 (by omega) (by omega)⟩

/-- The day after a date is one day later. -/
theorem daysFromCivil_next (h : date.Valid) : daysFromCivil date.next = daysFromCivil date + 1 := by
  obtain ⟨hmonth, hmonth', hday, hday'⟩ := h
  rw [daysFromCivil_eq hmonth, daysFromCivil_eq (next_valid ⟨hmonth, hmonth', hday, hday'⟩).1]
  unfold CivilDate.next
  by_cases hlast : date.day < daysInMonth date.year date.month
  · rw [if_pos hlast]
    unfold marchDay marchYear
    dsimp only
    omega
  · rw [if_neg hlast]
    by_cases hfeb : date.month = 2
    · have hyear : marchYear date = date.year - 1 := if_pos (by omega)
      have hsucc := daysBefore_succ (date.year - 1)
      have hlength : date.day = if isLeapYear date.year then 29 else 28 := by
        unfold daysInMonth at hlast hday'
        rw [if_pos hfeb] at hlast hday'
        omega
      have hback : date.year - 1 + 1 = date.year := by omega
      have hfirst : marchDay ⟨date.year, 3, 1⟩ = 0 := rfl
      have hlater : marchYear ⟨date.year, 3, 1⟩ = date.year := rfl
      have heleven : marchDay date = 337 + (date.day - 1) := by
        unfold marchDay
        rw [hfeb]
        rfl
      rw [if_pos (by omega), hfeb, hyear, heleven, hlength]
      rw [hback] at hsucc
      change daysBefore (marchYear ⟨date.year, 3, 1⟩) + marchDay ⟨date.year, 3, 1⟩ - 719468 = _
      rw [hfirst, hlater, hsucc]
      split <;> omega
    · have hend := marchMonth_next hmonth hmonth' hfeb date.year
      have hnext : ∀ next : CivilDate, next.day = 1 →
          marchYear next = marchYear date → marchMonth next.month = marchMonth date.month + 1 →
            daysBefore (marchYear next) + marchDay next - 719468 =
              daysBefore (marchYear date) + marchDay date - 719468 + 1 := by
        intro next hone hyear hmonths
        rw [hyear]
        unfold marchDay
        rw [hmonths, hone, ← hend]
        omega
      split
      · apply hnext _ rfl
        · unfold marchYear
          dsimp only
          split <;> split <;> omega
        · unfold marchMonth
          dsimp only
          split <;> split <;> omega
      · apply hnext _ rfl
        · unfold marchYear
          dsimp only
          split <;> split <;> omega
        · unfold marchMonth
          dsimp only
          split <;> split <;> omega

end Order

end Sessiometer.Log
