import Sessiometer.Log.Calendar
import Sessiometer.Log.Rfc3339

/-! # The order of the stamps

A later stamp is a later text, up to the year 9999. -/

namespace Sessiometer.Log

open Framing

section Order

variable {ts later : SystemTime}

/-- Fields of one width are compared one after the other. -/
theorem padded_append_lt {width m n : ℕ} {p q : Text} (hwidth : 0 < width) (hm : m < 10 ^ width)
    (hn : n < 10 ^ width) (h : m < n ∨ m = n ∧ p < q) : padded width m ++ p < padded width n ++ q := by
  rcases h with h | ⟨rfl, h⟩
  · apply append_lt_append
    · rw [length_padded hwidth hm, length_padded hwidth hn]
    · exact padded_lt hwidth h hn
  · exact List.append_left_lt h

theorem cons_lt_cons_self {c : Char} {p q : Text} (h : p < q) : c :: p < c :: q :=
  List.cons_lt_cons_iff.mpr (.inr ⟨rfl, h⟩)

theorem timeText_lt {h m s h' m' s' : ℕ} {p : Text} (hh : h < 24) (hm : m < 60) (hs : s < 60) (hh' : h' < 24)
    (hm' : m' < 60) (hs' : s' < 60) (hlt : h * 3600 + m * 60 + s < h' * 3600 + m' * 60 + s') :
    timeText h m s ++ p < timeText h' m' s' ++ p := by
  unfold timeText
  simp only [List.append_assoc, List.cons_append]
  apply padded_append_lt (by decide) (by omega) (by omega)
  by_cases hhours : h < h'
  · exact .inl hhours
  · refine .inr ⟨by omega, cons_lt_cons_self ?_⟩
    apply padded_append_lt (by decide) (by omega) (by omega)
    by_cases hminutes : m < m'
    · exact .inl hminutes
    · refine .inr ⟨by omega, cons_lt_cons_self ?_⟩
      exact padded_append_lt (by decide) (by omega) (by omega) (.inl (by omega))

theorem dateText_lt {a b : CivilDate} {p q : Text} (ha : a.Valid) (hb : b.Valid) (hyear : 0 ≤ a.year)
    (hlast : b.year ≤ 9999) (h : a.Before b ∨ a = b ∧ p < q) : dateText a ++ p < dateText b ++ q := by
  rcases h with h | ⟨rfl, h⟩
  · have hmonths := daysInMonth_le a.year a.month
    have hmonths' := daysInMonth_le b.year b.month
    obtain ⟨hmonth, hmonth', hday, hday'⟩ := ha
    obtain ⟨hmonthb, hmonthb', hdayb, hdayb'⟩ := hb
    unfold CivilDate.Before at h
    unfold dateText
    simp only [List.append_assoc, List.cons_append]
    apply padded_append_lt (by decide) (by omega) (by omega)
    by_cases hyears : a.year.toNat < b.year.toNat
    · exact .inl hyears
    · refine .inr ⟨by omega, cons_lt_cons_self ?_⟩
      apply padded_append_lt (by decide) (by omega) (by omega)
      by_cases hmonthlt : a.month.toNat < b.month.toNat
      · exact .inl hmonthlt
      · refine .inr ⟨by omega, cons_lt_cons_self ?_⟩
        exact padded_append_lt (by decide) (by omega) (by omega) (.inl (by omega))
  · exact List.append_left_lt h

/-- The stamps are ordered as their seconds are. -/
theorem rfc3339_lt (h : wholeSeconds ts < wholeSeconds later) (hlast : wholeSeconds later < yearTenThousand) :
    rfc3339 ts < rfc3339 later := by
  have hyear := civilFromDays_year (Int.natCast_nonneg (wholeSeconds ts / 86400))
  have hyear' := civilFromDays_year (Int.natCast_nonneg (wholeSeconds later / 86400))
  unfold yearTenThousand at hlast
  unfold rfc3339
  dsimp only
  apply dateText_lt (civilFromDays_isValid _) (civilFromDays_isValid _) (by omega)
    (hyear'.2.mpr (by omega))
  by_cases hdays : wholeSeconds ts / 86400 < wholeSeconds later / 86400
  · exact .inl (civilFromDays_before.mpr (by omega))
  · have hsame : wholeSeconds ts / 86400 = wholeSeconds later / 86400 := by omega
    refine .inr ⟨by rw [hsame], cons_lt_cons_self ?_⟩
    exact timeText_lt (by omega) (by omega) (by omega) (by omega) (by omega) (by omega) (by omega)

theorem rfc3339_lt_iff (hts : wholeSeconds ts < yearTenThousand) (hlater : wholeSeconds later < yearTenThousand) :
    rfc3339 ts < rfc3339 later ↔ wholeSeconds ts < wholeSeconds later := by
  constructor
  · intro h
    by_contra hnot
    rcases Nat.lt_or_eq_of_le (Nat.le_of_not_lt hnot) with hlt | heq
    · exact List.lt_irrefl _ (List.lt_trans h (rfc3339_lt hlt hts))
    · have hsame : rfc3339 ts = rfc3339 later := by
        unfold rfc3339
        rw [heq]
      rw [hsame] at h
      exact List.lt_irrefl _ h
  · exact fun h => rfc3339_lt h hlater

end Order

end Sessiometer.Log
