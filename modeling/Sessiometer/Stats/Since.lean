import Sessiometer.Log.Shape
import Sessiometer.Usage.Trailer

/-! # The start of a report

The `--since` value as a span before now, a date, or an instant. -/

namespace Sessiometer.Stats

open Framing Log

/-! ## The reader -/

/-- The seconds of a unit. -/
def unitSecs : Char → Option ℤ
  | 's' => some 1
  | 'm' => some 60
  | 'h' => some 3600
  | 'd' => some 86400
  | 'w' => some 604800
  | _ => none

/-- A count that is not negative, and the unit after it. -/
def relative (s : Text) : Option (ℤ × Char) := do
  let unit ← s.getLast?
  if unit ∈ ['s', 'm', 'h', 'd', 'w'] then do
    let n ← parseSigned (2 ^ 63) s.dropLast
    if 0 ≤ n then pure (n, unit) else none
  else none

/-- The span in seconds: nothing where it overflows. -/
def checkedSpan (n : ℤ) : Char → Option ℤ
  | 's' => some n
  | 'm' => checkedI64 (n * 60)
  | 'h' => checkedI64 (n * 3600)
  | 'd' => checkedI64 (n * 86400)
  | 'w' => do checkedI64 ((← checkedI64 (n * 7)) * 86400)
  | _ => some 0

def isYmd (s : Text) : Bool :=
  byteLength s = 10 && s[4]? = some '-' && s[7]? = some '-' &&
    s.zipIdx.all (fun p => p.2 = 4 || p.2 = 7 || p.1.isDigit)

def midnight : Text := "T00:00:00Z".toList

/-- `parse_since`: nothing where it overflows; the error bears the text. -/
def checkedParseSince (raw : Text) (now : ℤ) : Option (Except Text ℤ) :=
  let s := trim raw
  match relative s with
  | some (n, unit) => do
    let secs ← checkedSpan n unit
    let start ← checkedI64 (now - secs)
    pure (.ok start)
  | none => do
    match ← if isYmd s then checkedEpochFromRfc3339 (s ++ midnight) else some none with
    | some epoch => pure (.ok epoch)
    | none =>
      match ← checkedEpochFromRfc3339 s with
      | some epoch => pure (.ok epoch)
      | none => pure (.error s)

/-! ## What a value should be -/

/-- The text is a count and a unit of so many seconds. -/
def Relative (s : Text) (n u : ℤ) : Prop :=
  ∃ digits unit, s = digits ++ [unit] ∧ parseSigned (2 ^ 63) digits = some n ∧ 0 ≤ n ∧
    unitSecs unit = some u

/-- The text means the second: a span before now, the midnight of a date, or an instant. -/
def Means (s : Text) (now start : ℤ) : Prop :=
  (∃ n u, Relative s n u ∧ start = now - n * u ∧ start ≤ now) ∨
  (∃ date : CivilDate, date.Valid ∧ 0 ≤ date.year ∧ date.year ≤ 9999 ∧ s = dateText date ∧
    start = daysFromCivil date * 86400) ∨
  ∃ instant : Instant, instant.text = s ∧ instant.epoch = start

/-- Nothing overflows, and a value is what the text means. -/
def SinceSound (raw : Text) (now : ℤ) : Prop :=
  ∃ r, checkedParseSince raw now = some r ∧ ∀ start, r = .ok start → Means (trim raw) now start

/-- A span, and now less the span, are in a word; any other text is plain. -/
structure SincePlain (raw : Text) (now : ℤ) : Prop where
  span_fits : ∀ n u, Relative (trim raw) n u → FitsI64 (n * u) ∧ FitsI64 (now - n * u)
  plain : (∀ n u, ¬ Relative (trim raw) n u) → Plain (trim raw)

section Since

variable {s : Text} {n u : ℤ} {unit : Char}

theorem unitSecs_isSome : (∃ u, unitSecs unit = some u) ↔ unit ∈ ['s', 'm', 'h', 'd', 'w'] := by
  constructor
  · rintro ⟨u, hu⟩
    unfold unitSecs at hu
    split at hu <;> simp_all
  · intro h
    simp only [List.mem_cons, List.not_mem_nil, or_false] at h
    rcases h with rfl | rfl | rfl | rfl | rfl
    · exact ⟨1, rfl⟩
    · exact ⟨60, rfl⟩
    · exact ⟨3600, rfl⟩
    · exact ⟨86400, rfl⟩
    · exact ⟨604800, rfl⟩

theorem relative_eq_some (hunit : unitSecs unit = some u) : relative s = some (n, unit) ↔
    ∃ digits, s = digits ++ [unit] ∧ parseSigned (2 ^ 63) digits = some n ∧ 0 ≤ n := by
  have hmem := unitSecs_isSome.mp ⟨u, hunit⟩
  unfold relative
  simp only [Option.bind_eq_bind, Option.bind_eq_some_iff]
  constructor
  · rintro ⟨unit', hlast, h⟩
    rw [Option.ite_none_right_eq_some] at h
    obtain ⟨-, h⟩ := h
    obtain ⟨n', hn, h⟩ := Option.bind_eq_some_iff.mp h
    rw [Option.ite_none_right_eq_some] at h
    obtain ⟨hnonneg, h⟩ := h
    cases h
    obtain ⟨digits, rfl⟩ := List.getLast?_eq_some_iff.mp hlast
    rw [List.dropLast_concat] at hn
    exact ⟨digits, rfl, hn, hnonneg⟩
  · rintro ⟨digits, rfl, hn, hnonneg⟩
    refine ⟨unit, List.getLast?_concat, ?_⟩
    rw [if_pos hmem, List.dropLast_concat, hn, Option.bind_some, if_pos hnonneg]
    rfl

theorem relative_unit {p : ℤ × Char} (h : relative s = some p) : ∃ u, unitSecs p.2 = some u := by
  unfold relative at h
  simp only [Option.bind_eq_bind, Option.bind_eq_some_iff] at h
  obtain ⟨unit', -, h⟩ := h
  rw [Option.ite_none_right_eq_some] at h
  obtain ⟨hmem, h⟩ := h
  obtain ⟨n', -, h⟩ := Option.bind_eq_some_iff.mp h
  rw [Option.ite_none_right_eq_some] at h
  obtain ⟨-, h⟩ := h
  cases h
  exact unitSecs_isSome.mpr hmem

theorem relative_eq_none : relative s = none ↔ ∀ n u, ¬ Relative s n u := by
  constructor
  · rintro h n u ⟨digits, unit, hs, hn, hnonneg, hunit⟩
    rw [(relative_eq_some hunit).mpr ⟨digits, hs, hn, hnonneg⟩] at h
    cases h
  · intro h
    cases hrelative : relative s with
    | none => rfl
    | some p =>
      obtain ⟨u, hu⟩ := relative_unit hrelative
      obtain ⟨digits, hs, hn, hnonneg⟩ := (relative_eq_some hu).mp hrelative
      exact absurd ⟨digits, p.2, hs, hn, hnonneg, hu⟩ (h p.1 u)

theorem checkedSpan_eq (hnonneg : 0 ≤ n) (hn : FitsI64 n) (hunit : unitSecs unit = some u) :
    checkedSpan n unit = checkedI64 (n * u) := by
  have hmem := unitSecs_isSome.mp ⟨u, hunit⟩
  simp only [List.mem_cons, List.not_mem_nil, or_false] at hmem
  rcases hmem with rfl | rfl | rfl | rfl | rfl
  · cases hunit
    rw [Int.mul_one, checkedI64_of_fits hn]
    rfl
  · cases hunit
    rfl
  · cases hunit
    rfl
  · cases hunit
    rfl
  · cases hunit
    have hassoc : n * 604800 = n * 7 * 86400 := by omega
    unfold checkedSpan
    rw [hassoc]
    by_cases hweeks : FitsI64 (n * 7)
    · rw [checkedI64_of_fits hweeks]
      rfl
    · have hbig : ¬ FitsI64 (n * 7 * 86400) := by
        unfold FitsI64 at *
        omega
      rw [checkedI64_eq_none.mpr hweeks, checkedI64_eq_none.mpr hbig]
      rfl

theorem parseSigned_fits {digits : Text} (h : parseSigned (2 ^ 63) digits = some n) (hnonneg : 0 ≤ n) :
    FitsI64 n := by
  have hunsigned : ∀ (cs : Text) (k : ℕ), parseUnsigned (2 ^ 63) cs = some k → k < 2 ^ 63 := by
    intro cs k hk
    unfold parseUnsigned at hk
    dsimp only at hk
    rw [Option.ite_none_right_eq_some] at hk
    rw [← Option.some.inj hk.2]
    exact hk.1.2.2
  unfold FitsI64
  unfold parseSigned at h
  by_cases hminus : digits.head? = some '-'
  · rw [if_pos hminus, Option.ite_none_right_eq_some] at h
    have hneg := Option.some.inj h.2
    omega
  · rw [if_neg hminus] at h
    obtain ⟨k, hk, rfl⟩ := Option.map_eq_some_iff.mp h
    have hlt := hunsigned digits k hk
    omega

/-! ### Dates alone -/

theorem length_of_isYmd (h : isYmd s = true) : s.length = 10 ∧ s[4]? = some '-' ∧ s[7]? = some '-' ∧
    ∀ i c, s[i]? = some c → i = 4 ∨ i = 7 ∨ c.isDigit = true := by
  unfold isYmd at h
  simp only [Bool.and_eq_true, decide_eq_true_eq, List.all_eq_true] at h
  obtain ⟨⟨⟨hbytes, hfour⟩, hseven⟩, hall⟩ := h
  have hplaces : ∀ i c, s[i]? = some c → i = 4 ∨ i = 7 ∨ c.isDigit = true := by
    intro i c hc
    have hmem : (c, i) ∈ s.zipIdx := List.mem_zipIdx_iff_getElem?.mpr hc
    have hplace := hall (c, i) hmem
    simp only [Bool.or_eq_true, decide_eq_true_eq] at hplace
    tauto
  have hsize : ∀ c ∈ s, c.utf8Size = 1 := by
    intro c hc
    obtain ⟨i, hi⟩ := List.mem_iff_getElem?.mp hc
    rcases hplaces i c hi with rfl | rfl | hdigit
    · rw [hfour] at hi
      cases hi
      rfl
    · rw [hseven] at hi
      cases hi
      rfl
    · exact utf8Size_of_isDigit hdigit
  have hlength : ∀ cs : Text, (∀ c ∈ cs, c.utf8Size = 1) → byteLength cs = cs.length := by
    intro cs hcs
    induction cs with
    | nil => rfl
    | cons c cs ih =>
      have hrest := ih (fun d hd => hcs d (List.mem_cons_of_mem _ hd))
      have hone := hcs c List.mem_cons_self
      unfold byteLength at *
      rw [List.map_cons, List.sum_cons, List.length_cons]
      omega
  rw [hlength s hsize] at hbytes
  exact ⟨hbytes, hfour, hseven, hplaces⟩

/-- Such a text is three numbers of four, two and two digits. -/
theorem digits_of_isYmd (h : isYmd s = true) : ∃ y m d : Text, s = y ++ '-' :: (m ++ '-' :: d) ∧
    y.length = 4 ∧ m.length = 2 ∧ d.length = 2 ∧
      (∀ c ∈ y, c.isDigit = true) ∧ (∀ c ∈ m, c.isDigit = true) ∧ ∀ c ∈ d, c.isDigit = true := by
  obtain ⟨hlength, hfour, hseven, hplaces⟩ := length_of_isYmd h
  have hcons : ∀ i : ℕ, s[i]? = some '-' → s.drop i = '-' :: s.drop (i + 1) := by
    intro i hi
    obtain ⟨hlt, hget⟩ := List.getElem?_eq_some_iff.mp hi
    rw [List.drop_eq_getElem_cons hlt, hget]
  have hdigits : ∀ from' count c, c ∈ (s.drop from').take count →
      (∀ i, from' ≤ i → i < from' + count → i ≠ 4 ∧ i ≠ 7) → c.isDigit = true := by
    intro from' count c hc hplain
    obtain ⟨i, hi⟩ := List.mem_iff_getElem?.mp hc
    have hlt : i < count := by
      by_contra hge
      rw [List.getElem?_eq_none (by rw [List.length_take]; omega)] at hi
      cases hi
    rw [List.getElem?_take_of_lt hlt, List.getElem?_drop] at hi
    have hnot := hplain (from' + i) (by omega) (by omega)
    rcases hplaces _ c hi with h4 | h7 | hd
    · exact absurd h4 hnot.1
    · exact absurd h7 hnot.2
    · exact hd
  refine ⟨(s.drop 0).take 4, (s.drop 5).take 2, (s.drop 8).take 2, ?_, ?_, ?_, ?_, ?_, ?_, ?_⟩
  · have hlast : (s.drop 8).take 2 = s.drop 8 := List.take_of_length_le (by rw [List.length_drop]; omega)
    rw [hlast, ← hcons 7 hseven, show s.drop 7 = (s.drop 5).drop 2 by rw [List.drop_drop],
      List.take_append_drop, ← hcons 4 hfour, List.drop_zero, List.take_append_drop]
  · rw [List.length_take, List.length_drop]
    omega
  · rw [List.length_take, List.length_drop]
    omega
  · rw [List.length_take, List.length_drop]
    omega
  · exact fun c hc => hdigits 0 4 c hc (by omega)
  · exact fun c hc => hdigits 5 2 c hc (by omega)
  · exact fun c hc => hdigits 8 2 c hc (by omega)

/-- Such a text is a date of the calendar, or none that is read. -/
theorem date_of_isYmd (h : isYmd s = true) : epochDate s = none ∨
    ∃ date : CivilDate, date.Valid ∧ 0 ≤ date.year ∧ date.year ≤ 9999 ∧ s = dateText date := by
  obtain ⟨y, m, d, hs, hylen, hmlen, hdlen, hy, hm, hd⟩ := digits_of_isYmd h
  have hnotmem : ∀ cs : Text, (∀ c ∈ cs, c.isDigit = true) → '-' ∉ cs :=
    fun cs hcs hmem => absurd (hcs _ hmem) (by decide)
  have hparts : s.splitOn '-' = [y, m, d] := by
    rw [hs, List.splitOn_append_cons_self_of_not_mem (hnotmem y hy),
      List.splitOn_append_cons_self_of_not_mem (hnotmem m hm), List.splitOn_eq_singleton (hnotmem d hd)]
  have hne : ∀ cs : Text, 0 < cs.length → cs ≠ [] := fun cs hcs => List.length_pos_iff.mp hcs
  have hyear : parseSigned (2 ^ 63) y = some (Nat.ofDigitChars 10 y 0 : ℤ) := by
    have hhead : y.head? ≠ some '-' := fun hhead => hnotmem y hy (List.mem_of_head? hhead)
    unfold parseSigned
    rw [if_neg hhead, parseUnsigned_digits hy (hne y (by omega)) (by rw [hylen]; decide)]
    rfl
  have hmonth := @parseUnsigned_digits (2 ^ 32) m hm (hne m (by omega)) (by rw [hmlen]; decide)
  have hday := @parseUnsigned_digits (2 ^ 32) d hd (hne d (by omega)) (by rw [hdlen]; decide)
  cases hdate : epochDate s with
  | none => exact .inl rfl
  | some date =>
    right
    obtain ⟨y', m', d', month, day, hparts', hyear', hmonth', hday', hdm, hdd, h0, h1, hvalid⟩ :=
      epochDate_eq_some.mp hdate
    rw [hparts] at hparts'
    cases hparts'
    rw [hyear] at hyear'
    rw [hmonth] at hmonth'
    rw [hday] at hday'
    refine ⟨date, hvalid, h0, h1, ?_⟩
    have hpad : ∀ (cs : Text) (width : ℕ), (∀ c ∈ cs, c.isDigit = true) → cs.length = width → 0 < width →
        padded width (Nat.ofDigitChars 10 cs 0) = cs := by
      rintro cs _ hcs rfl hpos
      exact padded_ofDigitChars hcs (hne cs hpos)
    have hyear'' : date.year.toNat = Nat.ofDigitChars 10 y 0 := by
      have heq := Option.some.inj hyear'
      omega
    have hmonth'' : date.month.toNat = Nat.ofDigitChars 10 m 0 := by
      have heq := Option.some.inj hmonth'
      omega
    have hday'' : date.day.toNat = Nat.ofDigitChars 10 d 0 := by
      have heq := Option.some.inj hday'
      omega
    unfold dateText
    rw [hyear'', hmonth'', hday'', hpad y 4 hy hylen (by decide), hpad m 2 hm hmlen (by decide),
      hpad d 2 hd hdlen (by decide), hs]
    simp

/-- The midnight that begins a date. -/
def midnightOf (date : CivilDate) (hvalid : date.Valid) (hyear : 0 ≤ date.year ∧ date.year ≤ 9999) :
    Instant where
  date := date
  separator := 'T'
  hour := 0
  minute := 0
  second := 0
  fraction := none
  zone := .utc 'Z'
  date_valid := hvalid
  year_digits := hyear
  separator_eq := .inl rfl
  hour_lt := by decide
  minute_lt := by decide
  second_le := by decide
  fraction_digits := by simp
  zone_wf := .inl rfl

theorem cut_of_plain {c : Char} (hdigits : ∀ c ∈ s, c.isDigit = true ∨ c = '-') (hc : c = 'T' ∨ c = ' ') :
    c ∉ s := by
  intro hmem
  rcases hdigits c hmem with hd | rfl
  · rcases hc with rfl | rfl <;> exact absurd hd (by decide)
  · rcases hc with hc | hc <;> cases hc

theorem dateText_chars (date : CivilDate) : ∀ c ∈ dateText date, c.isDigit = true ∨ c = '-' := by
  intro c hc
  unfold dateText at hc
  simp only [List.mem_append, List.mem_cons] at hc
  rcases hc with (hc | rfl | hc) | rfl | hc
  · exact .inl (isDigit_of_mem_padded c hc)
  · exact .inr rfl
  · exact .inl (isDigit_of_mem_padded c hc)
  · exact .inr rfl
  · exact .inl (isDigit_of_mem_padded c hc)

theorem isYmd_chars (h : isYmd s = true) : ∀ c ∈ s, c.isDigit = true ∨ c = '-' := by
  obtain ⟨y, m, d, hs, -, -, -, hy, hm, hd⟩ := digits_of_isYmd h
  intro c hc
  rw [hs] at hc
  simp only [List.mem_append, List.mem_cons] at hc
  rcases hc with hc | rfl | hc | rfl | hc
  · exact .inl (hy c hc)
  · exact .inr rfl
  · exact .inl (hm c hc)
  · exact .inr rfl
  · exact .inl (hd c hc)

/-- A date alone has no time of day to be read. -/
theorem checkedEpochFromRfc3339_date (h : ∀ c ∈ s, c.isDigit = true ∨ c = '-') :
    checkedEpochFromRfc3339 s = some none := by
  have hcut : cut s = none := by
    unfold cut splitOnce
    rw [if_neg (cut_of_plain h (.inl rfl)), if_neg (cut_of_plain h (.inr rfl))]
    rfl
  unfold checkedEpochFromRfc3339
  rw [hcut]

theorem checkedEpochFromRfc3339_midnight (h : isYmd s = true) :
    checkedEpochFromRfc3339 (s ++ midnight) = some none ∨
      ∃ date : CivilDate, date.Valid ∧ 0 ≤ date.year ∧ date.year ≤ 9999 ∧ s = dateText date ∧
        checkedEpochFromRfc3339 (s ++ midnight) = some (some (daysFromCivil date * 86400)) := by
  rcases date_of_isYmd h with hnone | ⟨date, hvalid, hyear, hlast, rfl⟩
  · left
    have hcut : cut (s ++ midnight) = some (s, "00:00:00Z".toList) := by
      unfold cut
      rw [show s ++ midnight = s ++ 'T' :: "00:00:00Z".toList from rfl,
        splitOnce_append (cut_of_plain (isYmd_chars h) (.inl rfl))]
      rfl
    unfold checkedEpochFromRfc3339
    rw [hcut]
    dsimp only
    rw [hnone]
  · right
    have htext : (midnightOf date hvalid ⟨hyear, hlast⟩).text = dateText date ++ midnight := by
      have htime : timeText 0 0 0 ++ [] ++ ['Z'] = "00:00:00Z".toList := by decide
      change dateText date ++ 'T' :: (timeText 0 0 0 ++ [] ++ ['Z']) = _
      rw [htime]
      rfl
    have hepoch : (midnightOf date hvalid ⟨hyear, hlast⟩).epoch = daysFromCivil date * 86400 := by
      change daysFromCivil date * 86400 + (((0 : ℕ) : ℤ) * 3600 + ((0 : ℕ) : ℤ) * 60 + ((0 : ℕ) : ℤ)) - 0 = _
      omega
    refine ⟨date, hvalid, hyear, hlast, rfl, ?_⟩
    rw [← htext, checkedEpochFromRfc3339_text, hepoch]

/-- The reader of the start is sound on a text just where the text is plain. -/
theorem sinceSound_iff_plain (raw : Text) (now : ℤ) : SinceSound raw now ↔ SincePlain raw now := by
  cases hrelative : relative (trim raw) with
  | some p =>
    obtain ⟨u, hu⟩ := relative_unit hrelative
    obtain ⟨digits, hs, hn, hnonneg⟩ := (relative_eq_some hu).mp hrelative
    have hread : checkedParseSince raw now =
        (checkedI64 (p.1 * u)).bind (fun secs => (checkedI64 (now - secs)).bind
          (fun start => some (.ok start))) := by
      unfold checkedParseSince
      dsimp only
      rw [hrelative, ← checkedSpan_eq hnonneg (parseSigned_fits hn hnonneg) hu]
      rfl
    have hself : Relative (trim raw) p.1 u := ⟨digits, p.2, hs, hn, hnonneg, hu⟩
    constructor
    · rintro ⟨r, hr, -⟩
      rw [hread] at hr
      obtain ⟨secs, hsecs, hr⟩ := Option.bind_eq_some_iff.mp hr
      obtain ⟨start, hstart, -⟩ := Option.bind_eq_some_iff.mp hr
      obtain ⟨hspan, rfl⟩ := checkedI64_eq_some.mp hsecs
      obtain ⟨hfits, -⟩ := checkedI64_eq_some.mp hstart
      refine ⟨?_, fun hnone => absurd hself (hnone _ _)⟩
      rintro n' u' ⟨digits', unit', hs', hn', hnonneg', hu'⟩
      have hsame := (relative_eq_some hu').mpr ⟨digits', hs', hn', hnonneg'⟩
      rw [hrelative, Option.some.injEq] at hsame
      subst hsame
      rw [hu] at hu'
      cases hu'
      exact ⟨hspan, hfits⟩
    · intro hplain
      obtain ⟨hspan, hfits⟩ := hplain.span_fits _ _ hself
      refine ⟨.ok (now - p.1 * u), ?_, ?_⟩
      · rw [hread, checkedI64_of_fits hspan, Option.bind_some, checkedI64_of_fits hfits]
        rfl
      · intro start hstart
        cases hstart
        have hu0 : 0 ≤ u := by
          have hmem := unitSecs_isSome.mp ⟨u, hu⟩
          unfold unitSecs at hu
          split at hu <;> simp_all <;> omega
        have hspan0 := Int.mul_nonneg hnonneg hu0
        exact .inl ⟨p.1, u, hself, rfl, by omega⟩
  | none =>
    have hnone := relative_eq_none.mp hrelative
    have hother : checkedEpochFromRfc3339 (trim raw) = some none →
        Plain (trim raw) := fun hread => (sound_iff_plain _).mp ⟨none, hread, fun t ht => by cases ht⟩
    constructor
    · intro hsound
      refine ⟨fun n u h => absurd h (hnone n u), fun _ => ?_⟩
      by_cases hymd : isYmd (trim raw) = true
      · exact hother (checkedEpochFromRfc3339_date (isYmd_chars hymd))
      · obtain ⟨r, hr, hmeans⟩ := hsound
        unfold checkedParseSince at hr
        dsimp only at hr
        rw [hrelative] at hr
        dsimp only at hr
        rw [if_neg hymd, Option.bind_eq_bind, Option.bind_some] at hr
        dsimp only at hr
        obtain ⟨epoch, hepoch, hr⟩ := Option.bind_eq_some_iff.mp hr
        rw [← sound_iff_plain]
        refine ⟨epoch, hepoch, ?_⟩
        rintro t rfl
        rcases hmeans t (Option.some.inj hr).symm with ⟨n, u, h, -⟩ | ⟨date, -, -, -, hs, -⟩ | h
        · exact absurd h (hnone n u)
        · rw [hs, checkedEpochFromRfc3339_date (dateText_chars date)] at hepoch
          cases hepoch
        · exact h
    · intro hplain
      obtain ⟨r, hread, hvalue⟩ := (sound_iff_plain _).mpr (hplain.plain hnone)
      have hrest : ∀ read : Option (Except Text ℤ), read = (checkedEpochFromRfc3339 (trim raw)).bind
          (fun epoch => some (epoch.elim (.error (trim raw)) .ok)) →
            ∃ r, read = some r ∧ ∀ start, r = .ok start → Means (trim raw) now start := by
        rintro _ rfl
        rw [hread, Option.bind_some]
        refine ⟨_, rfl, ?_⟩
        intro start hstart
        cases r with
        | none => cases hstart
        | some epoch =>
          cases hstart
          exact .inr (.inr (hvalue _ rfl))
      unfold SinceSound checkedParseSince
      dsimp only
      rw [hrelative]
      dsimp only
      by_cases hymd : isYmd (trim raw) = true
      · rw [if_pos hymd]
        rcases checkedEpochFromRfc3339_midnight hymd with hnever | ⟨date, hvalid, hyear, hlast, hs, hday⟩
        · rw [hnever, Option.bind_eq_bind, Option.bind_some]
          apply hrest
          rw [hread]
          cases r <;> rfl
        · rw [hday, Option.bind_eq_bind, Option.bind_some]
          refine ⟨_, rfl, ?_⟩
          intro start hstart
          cases hstart
          exact .inr (.inl ⟨date, hvalid, hyear, hlast, hs, rfl⟩)
      · rw [if_neg hymd, Option.bind_eq_bind, Option.bind_some]
        apply hrest
        rw [hread]
        cases r <;> rfl

/-! ### The readers and the calendar -/

/-- The stamp of a line as an instant. -/
def stampOf (ts : SystemTime) (hlast : (civilFromDays (wholeSeconds ts / 86400 : ℕ)).year ≤ 9999) :
    Instant where
  date := civilFromDays (wholeSeconds ts / 86400 : ℕ)
  separator := 'T'
  hour := wholeSeconds ts % 86400 / 3600
  minute := wholeSeconds ts % 86400 % 3600 / 60
  second := wholeSeconds ts % 86400 % 60
  fraction := none
  zone := .utc 'Z'
  date_valid := civilFromDays_isValid _
  year_digits := by
    have hyear := civilFromDays_year (Int.natCast_nonneg (wholeSeconds ts / 86400))
    exact ⟨by omega, hlast⟩
  separator_eq := .inl rfl
  hour_lt := by omega
  minute_lt := by omega
  second_le := by omega
  fraction_digits := by simp
  zone_wf := .inl rfl

theorem checkedEpochFromRfc3339_rfc3339 {ts : SystemTime}
    (hlast : (civilFromDays (wholeSeconds ts / 86400 : ℕ)).year ≤ 9999) :
    checkedEpochFromRfc3339 (rfc3339 ts) = some (some (wholeSeconds ts : ℤ)) := by
  have htext : (stampOf ts hlast).text = rfc3339 ts := by
    unfold Instant.text Instant.time stampOf rfc3339
    simp [Zone.text]
  have hepoch : (stampOf ts hlast).epoch = wholeSeconds ts := by
    unfold Instant.epoch stampOf
    dsimp only [Zone.seconds]
    rw [daysFromCivil_civilFromDays]
    omega
  rw [← htext, checkedEpochFromRfc3339_text, hepoch]

/-- The calendar is turned into days and back, the stamps are read back and ordered as their seconds,
and each reader gives what a well-formed text means, without overflow, just on the plain texts. -/
theorem calendar_and_readers (s raw : Text) (now : ℤ) :
    (Sound s ↔ Plain s) ∧ (SinceSound raw now ↔ SincePlain raw now) ∧
    (∀ ts : SystemTime, (civilFromDays (wholeSeconds ts / 86400 : ℕ)).year ≤ 9999 →
      checkedEpochFromRfc3339 (rfc3339 ts) = some (some (wholeSeconds ts : ℤ))) ∧
    (∀ ts later : SystemTime, (civilFromDays (wholeSeconds ts / 86400 : ℕ)).year ≤ 9999 →
      (civilFromDays (wholeSeconds later / 86400 : ℕ)).year ≤ 9999 →
        (rfc3339 ts < rfc3339 later ↔ wholeSeconds ts < wholeSeconds later)) ∧
    (∀ days : ℤ, (civilFromDays days).Valid ∧ daysFromCivil (civilFromDays days) = days) ∧
    (∀ date : CivilDate, date.Valid → civilFromDays (daysFromCivil date) = date ∧
      daysFromCivil date.next = daysFromCivil date + 1) ∧
    daysFromCivil ⟨1970, 1, 1⟩ = 0 := by
  have hsecs : ∀ ts : SystemTime, (civilFromDays (wholeSeconds ts / 86400 : ℕ)).year ≤ 9999 →
      wholeSeconds ts < yearTenThousand := by
    intro ts hts
    have hyear := (civilFromDays_year (Int.natCast_nonneg (wholeSeconds ts / 86400))).2.mp hts
    unfold yearTenThousand
    omega
  refine ⟨sound_iff_plain s, sinceSound_iff_plain raw now,
    fun ts h => checkedEpochFromRfc3339_rfc3339 h, ?_, ?_, ?_, by decide⟩
  · intro ts later hts hlater
    exact rfc3339_lt_iff (hsecs ts hts) (hsecs later hlater)
  · intro days
    exact ⟨civilFromDays_isValid days, daysFromCivil_civilFromDays days⟩
  · intro date hvalid
    exact ⟨civilFromDays_daysFromCivil hvalid, daysFromCivil_next hvalid⟩

/-- An offset of many hours and a span of many weeks overflow. -/
theorem readers_overflow :
    ¬ Sound "2026-01-01T00:00:00+9223372036854775807:00".toList ∧
      ¬ SinceSound "9223372036854775807w".toList 1767225600 := by
  have hinstant : checkedEpochFromRfc3339 "2026-01-01T00:00:00+9223372036854775807:00".toList = none := by
    decide +kernel
  have hsince : checkedParseSince "9223372036854775807w".toList 1767225600 = none := by
    decide +kernel
  constructor
  · rintro ⟨r, hr, -⟩
    rw [hinstant] at hr
    cases hr
  · rintro ⟨r, hr, -⟩
    rw [hsince] at hr
    cases hr

end Since

end Sessiometer.Stats
