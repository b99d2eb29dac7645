import Sessiometer.Log.Instant

/-! # The shape of an instant

The instants as they should be written, and the parts of a text that the reader can read at all. -/

namespace Sessiometer.Log

open Framing

/-! ## Well-formed instants -/

/-- The side of UTC and how far from it, as it is written. -/
inductive Zone where
  | unmarked
  | utc (letter : Char)
  | colon (west : Bool) (hours minutes : ℕ)
  | compact (west : Bool) (hours minutes : ℕ)
  | hour (west : Bool) (hours : ℕ)
deriving DecidableEq

def Zone.WellFormed : Zone → Prop
  | .unmarked => True
  | .utc letter => letter = 'Z' ∨ letter = 'z'
  | .colon _ hours minutes => hours < 24 ∧ minutes < 60
  | .compact _ hours minutes => hours < 24 ∧ minutes < 60
  | .hour _ hours => hours < 24

def signChar (west : Bool) : Char := if west then '-' else '+'

def Zone.text : Zone → Text
  | .unmarked => []
  | .utc letter => [letter]
  | .colon west hours minutes => signChar west :: (padded 2 hours ++ ':' :: padded 2 minutes)
  | .compact west hours minutes => signChar west :: (padded 2 hours ++ padded 2 minutes)
  | .hour west hours => signChar west :: padded 2 hours

/-- Seconds east of UTC. -/
def Zone.seconds : Zone → ℤ
  | .unmarked => 0
  | .utc _ => 0
  | .colon west hours minutes => (if west then -1 else 1) * (hours * 3600 + minutes * 60)
  | .compact west hours minutes => (if west then -1 else 1) * (hours * 3600 + minutes * 60)
  | .hour west hours => (if west then -1 else 1) * (hours * 3600)

structure Instant where
  date : CivilDate
  separator : Char
  hour : ℕ
  minute : ℕ
  second : ℕ
  fraction : Option Text
  zone : Zone
  date_valid : date.Valid
  year_digits : 0 ≤ date.year ∧ date.year ≤ 9999
  separator_eq : separator = 'T' ∨ separator = ' '
  hour_lt : hour < 24
  minute_lt : minute < 60
  second_le : second ≤ 60
  fraction_digits : ∀ digits, fraction = some digits → digits ≠ [] ∧ digits.all Char.isDigit = true
  zone_wf : zone.WellFormed

def Instant.time (instant : Instant) : Text :=
  timeText instant.hour instant.minute instant.second ++
    instant.fraction.elim [] (fun digits => '.' :: digits)

/-- `YYYY-MM-DD`, a separator, `HH:MM:SS`, perhaps a fraction, and the zone. -/
def Instant.text (instant : Instant) : Text :=
  dateText instant.date ++ instant.separator :: (instant.time ++ instant.zone.text)

/-- The second that the instant is. -/
def Instant.epoch (instant : Instant) : ℤ :=
  daysFromCivil instant.date * 86400 +
    (instant.hour * 3600 + instant.minute * 60 + instant.second) - instant.zone.seconds

/-! ## What can be read -/

/-- Three numbers of a date that the calendar has. -/
def DateReads (text : Text) (date : CivilDate) : Prop :=
  ∃ y m d month day, text.splitOn '-' = [y, m, d] ∧ parseSigned (2 ^ 63) y = some date.year ∧
    parseUnsigned (2 ^ 32) m = some month ∧ parseUnsigned (2 ^ 32) d = some day ∧
      date.month = month ∧ date.day = day ∧ 0 ≤ date.year ∧ date.year ≤ 9999 ∧ date.Valid

/-- Two numbers of a time of day, or three, before a point. -/
def TimeReads (text : Text) (seconds : ℤ) : Prop :=
  ∃ h m s hour minute second, ((text.takeWhile (· ≠ '.')).splitOn ':' = [h, m] ∧ s = ['0'] ∨
      (text.takeWhile (· ≠ '.')).splitOn ':' = [h, m, s]) ∧
    parseSigned (2 ^ 63) h = some hour ∧ parseSigned (2 ^ 63) m = some minute ∧
      parseSigned (2 ^ 63) s = some second ∧ 0 ≤ hour ∧ hour ≤ 23 ∧ 0 ≤ minute ∧ minute ≤ 59 ∧
        0 ≤ second ∧ second ≤ 60 ∧ seconds = hour * 3600 + minute * 60 + second

/-- The hours and the minutes of an offset: with a colon between, as four bytes, or hours alone. -/
def OffsetReads (tz : Text) (hours minutes : ℤ) : Prop :=
  (∃ h m, splitOnce ':' tz = some (h, m) ∧ parseSigned (2 ^ 63) h = some hours ∧
    parseSigned (2 ^ 63) m = some minutes) ∨
  (':' ∉ tz ∧ byteLength tz = 4 ∧ parseSigned (2 ^ 63) (tz.take 2) = some hours ∧
    parseSigned (2 ^ 63) (tz.drop 2) = some minutes) ∨
  (':' ∉ tz ∧ byteLength tz ≠ 4 ∧ parseSigned (2 ^ 63) tz = some hours ∧ minutes = 0)

section Reads

variable {text tz : Text}

theorem epochDate_eq_some {date : CivilDate} : epochDate text = some date ↔ DateReads text date := by
  unfold epochDate DateReads
  constructor
  · intro h
    split at h
    · rename_i y m d hparts
      simp only [Option.bind_eq_bind, Option.bind_eq_some_iff] at h
      obtain ⟨year, hyear, month, hmonth, day, hday, h⟩ := h
      split at h
      · rename_i hrange
        cases Option.some.inj h
        refine ⟨y, m, d, month, day, hparts, hyear, hmonth, hday, rfl, rfl, hrange.1.1, hrange.1.2,
          ?_, ?_, ?_, hrange.2.2.2⟩
        · dsimp only
          omega
        · dsimp only
          omega
        · dsimp only
          omega
      · cases h
    · cases h
  · rintro ⟨y, m, d, month, day, hparts, hyear, hmonth, hday, hm, hd, h0, h1, h2, h3, h4, h5⟩
    rw [hparts]
    dsimp only
    rw [hyear, hmonth, hday]
    simp only [Option.bind_eq_bind, Option.bind_some]
    rw [hm, hd] at h5
    rw [if_pos ⟨⟨h0, h1⟩, ⟨by omega, by omega⟩, by omega, h5⟩, ← hm, ← hd]
    rfl

theorem epochTime_eq_some {seconds : ℤ} : epochTime text = some seconds ↔ TimeReads text seconds := by
  unfold epochTime TimeReads
  constructor
  · intro h
    have hfields : ∃ h' m s, ((text.takeWhile (· ≠ '.')).splitOn ':' = [h', m] ∧ s = ['0'] ∨
        (text.takeWhile (· ≠ '.')).splitOn ':' = [h', m, s]) ∧
          ((parseSigned (2 ^ 63) h').bind fun hour => (parseSigned (2 ^ 63) m).bind fun minute =>
            (parseSigned (2 ^ 63) s).bind fun second =>
              if (0 ≤ hour ∧ hour ≤ 23) ∧ (0 ≤ minute ∧ minute ≤ 59) ∧ 0 ≤ second ∧ second ≤ 60 then
                some (hour * 3600 + minute * 60 + second)
              else none) = some seconds := by
      split at h
      · rename_i h' m hparts
        exact ⟨h', m, ['0'], .inl ⟨hparts, rfl⟩, h⟩
      · rename_i h' m s hparts
        exact ⟨h', m, s, .inr hparts, h⟩
      · cases h
    obtain ⟨h', m, s, hfields, h⟩ := hfields
    simp only [Option.bind_eq_some_iff] at h
    obtain ⟨hour, hhour, minute, hminute, second, hsecond, h⟩ := h
    split at h
    · rename_i hrange
      exact ⟨h', m, s, hour, minute, second, hfields, hhour, hminute, hsecond, hrange.1.1, hrange.1.2,
        hrange.2.1.1, hrange.2.1.2, hrange.2.2.1, hrange.2.2.2, (Option.some.inj h).symm⟩
    · cases h
  · rintro ⟨h, m, s, hour, minute, second, hfields, hhour, hminute, hsecond, h0, h1, h2, h3, h4, h5, rfl⟩
    rcases hfields with ⟨hfields, rfl⟩ | hfields
    · rw [hfields]
      simp only [Option.bind_eq_bind, Option.bind_some, hhour, hminute, hsecond]
      exact if_pos ⟨⟨h0, h1⟩, ⟨h2, h3⟩, h4, h5⟩
    · rw [hfields]
      simp only [Option.bind_eq_bind, Option.bind_some, hhour, hminute, hsecond]
      exact if_pos ⟨⟨h0, h1⟩, ⟨h2, h3⟩, h4, h5⟩

theorem offsetNumbers_eq_some {hours minutes : ℤ} :
    offsetNumbers tz = some (hours, minutes) ↔ OffsetReads tz hours minutes := by
  unfold offsetNumbers OffsetReads
  by_cases hcolon : ':' ∈ tz
  · have hsplit : splitOnce ':' tz =
        some (tz.takeWhile (· ≠ ':'), (tz.dropWhile (· ≠ ':')).tail) := if_pos hcolon
    rw [hsplit]
    simp only [Option.bind_eq_bind, Option.bind_eq_some_iff, hcolon, not_true_eq_false, false_and,
      or_false]
    constructor
    · rintro ⟨h, hh, m, hm, heq⟩
      cases heq
      exact ⟨_, _, rfl, hh, hm⟩
    · rintro ⟨h, m, heq, hh, hm⟩
      cases heq
      exact ⟨_, hh, _, hm, rfl⟩
  · have hsplit : splitOnce ':' tz = none := if_neg hcolon
    rw [hsplit]
    dsimp only
    by_cases hfour : byteLength tz = 4
    · rw [if_pos hfour]
      simp only [Option.bind_eq_bind, Option.bind_eq_some_iff, hcolon, hfour, reduceCtorEq,
        not_false_eq_true, true_and, not_true_eq_false, false_and, exists_false, false_or, or_false, ne_eq]
      constructor
      · rintro ⟨h, hh, m, hm, heq⟩
        cases heq
        exact ⟨hh, hm⟩
      · rintro ⟨hh, hm⟩
        exact ⟨_, hh, _, hm, rfl⟩
    · rw [if_neg hfour]
      simp only [Option.bind_eq_bind, Option.bind_eq_some_iff, hcolon, hfour, reduceCtorEq,
        not_false_eq_true, true_and, false_and, exists_false, false_or, ne_eq]
      constructor
      · rintro ⟨h, hh, heq⟩
        cases heq
        exact ⟨hh, rfl⟩
      · rintro ⟨hh, rfl⟩
        exact ⟨_, hh, rfl⟩

end Reads

/-! ## What is well formed is read -/

section WellFormed

variable {instant : Instant} {time tz : Text}

/-- The characters of a time of day. -/
def Timely (c : Char) : Prop := c.isDigit = true ∨ c = ':' ∨ c = '.'

theorem timely_time (instant : Instant) : ∀ c ∈ instant.time, Timely c := by
  intro c hc
  unfold Instant.time timeText at hc
  simp only [List.mem_append, List.mem_cons] at hc
  have hfraction : c ∈ instant.fraction.elim [] (fun digits => '.' :: digits) → Timely c := by
    have hdigits := instant.fraction_digits
    cases hf : instant.fraction with
    | none => simp
    | some digits =>
      intro hmem
      rcases List.mem_cons.mp hmem with rfl | hmem
      · exact .inr (.inr rfl)
      · exact .inl (List.all_eq_true.mp (hdigits digits hf).2 c hmem)
  rcases hc with ((hc | rfl | hc) | rfl | hc) | hc
  · exact .inl (isDigit_of_mem_padded c hc)
  · exact .inr (.inl rfl)
  · exact .inl (isDigit_of_mem_padded c hc)
  · exact .inr (.inl rfl)
  · exact .inl (isDigit_of_mem_padded c hc)
  · exact hfraction hc

theorem getLast?_time (instant : Instant) : ∃ c, instant.time.getLast? = some c ∧ c.isDigit = true := by
  unfold Instant.time
  have hdigits := instant.fraction_digits
  cases hf : instant.fraction with
  | none =>
    have hne : padded 2 instant.second ≠ [] := padded_ne_nil
    obtain ⟨c, hc⟩ := Option.isSome_iff_exists.mp (List.getLast?_isSome.mpr hne)
    refine ⟨c, ?_, isDigit_of_mem_padded c (List.mem_of_getLast? hc)⟩
    unfold timeText
    rw [Option.elim_none, List.append_nil, List.getLast?_append_of_ne_nil _ (List.cons_ne_nil _ _),
      List.getLast?_cons_of_ne_nil hne, hc]
  | some digits =>
    obtain ⟨hne, hall⟩ := hdigits digits hf
    obtain ⟨c, hc⟩ := Option.isSome_iff_exists.mp (List.getLast?_isSome.mpr hne)
    refine ⟨c, ?_, List.all_eq_true.mp hall c (List.mem_of_getLast? hc)⟩
    rw [Option.elim_some, List.getLast?_append_of_ne_nil _ (List.cons_ne_nil _ _),
      List.getLast?_cons_of_ne_nil hne, hc]

theorem signless (h : ∀ c ∈ tz, Timely c) : ∀ c ∈ tz, (c == '+' || c == '-') = false := by
  intro c hc
  rcases h c hc with hd | rfl | rfl
  · have hbounds := isDigit_iff.mp hd
    rw [Bool.or_eq_false_iff, beq_eq_false_iff_ne, beq_eq_false_iff_ne]
    constructor
    · rintro rfl
      exact absurd hd (by decide)
    · rintro rfl
      exact absurd hd (by decide)
  · rfl
  · rfl

theorem notUtc_of_digit {rest : Text} {c : Char} (hlast : rest.getLast? = some c) (hc : c.isDigit = true) :
    ¬ (rest.getLast? = some 'Z' ∨ rest.getLast? = some 'z') := by
  rw [hlast]
  rintro (h | h)
  · cases Option.some.inj h
    exact absurd hc (by decide)
  · cases Option.some.inj h
    exact absurd hc (by decide)

theorem cutZone_unmarked (instant : Instant) : cutZone instant.time = (instant.time, none) := by
  obtain ⟨c, hlast, hc⟩ := getLast?_time instant
  unfold cutZone
  rw [if_neg (notUtc_of_digit hlast hc), rposition_eq_none.mpr (signless (timely_time instant))]

theorem cutZone_utc {letter : Char} (h : letter = 'Z' ∨ letter = 'z') (time : Text) :
    cutZone (time ++ [letter]) = (time, none) := by
  unfold cutZone
  rw [List.getLast?_concat, List.dropLast_concat, if_pos (by rcases h with rfl | rfl <;> simp)]

theorem cutZone_signed {c : Char} (htz : ∀ c ∈ tz, Timely c) (hlast : tz.getLast? = some c)
    (hc : c.isDigit = true) (west : Bool) (time : Text) :
    cutZone (time ++ signChar west :: tz) = (time, some (west, tz)) := by
  have hne : tz ≠ [] := by
    rintro rfl
    cases hlast
  have hend : (time ++ signChar west :: tz).getLast? = some c := by
    rw [List.getLast?_append_of_ne_nil _ (List.cons_ne_nil _ _), List.getLast?_cons_of_ne_nil hne, hlast]
  have hsplit : time ++ signChar west :: tz = (time ++ [signChar west]) ++ tz := by simp
  have hpos : rposition (fun c => c == '+' || c == '-') (time ++ signChar west :: tz) =
      some time.length := by
    rw [hsplit, rposition_append (signless htz), rposition_snoc (by cases west <;> rfl)]
  have hget : (time ++ signChar west :: tz)[time.length]? = some (signChar west) := by simp
  have hdrop : (time ++ signChar west :: tz).drop (time.length + 1) = tz := by
    rw [hsplit, List.drop_left' (by simp)]
  unfold cutZone
  rw [if_neg (notUtc_of_digit hend hc), hpos]
  dsimp only
  rw [List.take_left, hget, hdrop]
  cases west <;> rfl

theorem getLast?_padded (width n : ℕ) : ∃ c, (padded width n).getLast? = some c ∧ c.isDigit = true := by
  obtain ⟨c, hc⟩ := Option.isSome_iff_exists.mp (List.getLast?_isSome.mpr (@padded_ne_nil width n))
  exact ⟨c, hc, isDigit_of_mem_padded c (List.mem_of_getLast? hc)⟩

theorem timely_padded (width n : ℕ) : ∀ c ∈ padded width n, Timely c :=
  fun c hc => .inl (isDigit_of_mem_padded c hc)

theorem checkedOffset_of_small {hours minutes : ℕ} (hh : hours < 24) (hm : minutes < 60) (west : Bool) :
    checkedOffset west hours minutes =
      some ((if west then -1 else 1) * ((hours : ℤ) * 3600 + minutes * 60)) := by
  rw [checkedOffset_eq_some]
  unfold FitsI64
  refine ⟨by omega, by omega, by omega, ?_, rfl⟩
  cases west
  · simp only [Bool.false_eq_true, if_false]
    omega
  · simp only [if_true]
    omega

/-- The zone is split off as it was written. -/
theorem checkedSplitOffset_text (instant : Instant) :
    checkedSplitOffset (instant.time ++ instant.zone.text) =
      some (some (instant.time, instant.zone.seconds)) := by
  have hwf := instant.zone_wf
  have hcolon : ∀ width n : ℕ, ':' ∉ padded width n := fun width n => notMem_padded rfl
  have htwo : ∀ n : ℕ, n < 60 → parseSigned (2 ^ 63) (padded 2 n) = some (n : ℤ) :=
    fun n hn => parseSigned_padded (by omega)
  have hlength : ∀ n : ℕ, n < 60 → (padded 2 n).length = 2 :=
    fun n hn => length_padded (by decide) (by omega)
  have hbytes : ∀ n : ℕ, n < 60 → byteLength (padded 2 n) = 2 :=
    fun n hn => byteLength_padded (by decide) (by omega)
  have hsigned : ∀ (west : Bool) (tz : Text) (hours minutes : ℕ), (∀ c ∈ tz, Timely c) →
      (∃ c, tz.getLast? = some c ∧ c.isDigit = true) → hours < 24 → minutes < 60 →
        OffsetReads tz hours minutes → checkedSplitOffset (instant.time ++ signChar west :: tz) =
          some (some (instant.time, (if west then -1 else 1) * ((hours : ℤ) * 3600 + minutes * 60))) := by
    rintro west tz hours minutes htz ⟨c, hlast, hc⟩ hh hm hreads
    unfold checkedSplitOffset
    rw [cutZone_signed htz hlast hc]
    dsimp only
    rw [offsetNumbers_eq_some.mpr hreads]
    dsimp only
    rw [checkedOffset_of_small hh hm]
    rfl
  cases hzone : instant.zone with
  | unmarked =>
    unfold checkedSplitOffset Zone.text
    rw [List.append_nil, cutZone_unmarked]
    rfl
  | utc letter =>
    rw [hzone] at hwf
    unfold checkedSplitOffset Zone.text
    rw [cutZone_utc hwf]
    rfl
  | colon west hours minutes =>
    rw [hzone] at hwf
    have hh : hours < 60 := by
      have hlt := hwf.1
      omega
    apply hsigned west _ hours minutes _ _ hwf.1 hwf.2
    · exact .inl ⟨_, _, splitOnce_append (hcolon 2 hours), htwo hours hh, htwo minutes hwf.2⟩
    · intro c hc
      rcases List.mem_append.mp hc with hc | hc
      · exact timely_padded 2 hours c hc
      · rcases List.mem_cons.mp hc with rfl | hc
        · exact .inr (.inl rfl)
        · exact timely_padded 2 minutes c hc
    · obtain ⟨c, hlast, hc⟩ := getLast?_padded 2 minutes
      refine ⟨c, ?_, hc⟩
      rw [List.getLast?_append_of_ne_nil _ (List.cons_ne_nil _ _), List.getLast?_cons_of_ne_nil padded_ne_nil,
        hlast]
  | compact west hours minutes =>
    rw [hzone] at hwf
    have hh : hours < 60 := by
      have hlt := hwf.1
      omega
    apply hsigned west _ hours minutes _ _ hwf.1 hwf.2
    · refine .inr (.inl ⟨?_, ?_, ?_, ?_⟩)
      · rw [List.mem_append, not_or]
        exact ⟨hcolon 2 hours, hcolon 2 minutes⟩
      · unfold byteLength
        rw [List.map_append, List.sum_append]
        exact congrArg₂ (· + ·) (hbytes hours hh) (hbytes minutes hwf.2)
      · rw [List.take_left' (hlength hours hh)]
        exact htwo hours hh
      · rw [List.drop_left' (hlength hours hh)]
        exact htwo minutes hwf.2
    · intro c hc
      rcases List.mem_append.mp hc with hc | hc
      · exact timely_padded 2 hours c hc
      · exact timely_padded 2 minutes c hc
    · obtain ⟨c, hlast, hc⟩ := getLast?_padded 2 minutes
      exact ⟨c, by rw [List.getLast?_append_of_ne_nil _ padded_ne_nil, hlast], hc⟩
  | hour west hours =>
    rw [hzone] at hwf
    have hlt : hours < 24 := hwf
    have hread := hsigned west (padded 2 hours) hours 0 (timely_padded 2 hours) (getLast?_padded 2 hours) hlt
      (by decide) (.inr (.inr ⟨hcolon 2 hours, by rw [hbytes hours (by omega)]; decide,
        htwo hours (by omega), rfl⟩))
    rw [Nat.cast_zero, zero_mul, add_zero] at hread
    exact hread

theorem epochTime_time (instant : Instant) : epochTime instant.time =
    some ((instant.hour : ℤ) * 3600 + instant.minute * 60 + instant.second) := by
  rw [← epochTime_timeText instant.hour_lt instant.minute_lt instant.second_le]
  have hpoint : ∀ c ∈ timeText instant.hour instant.minute instant.second, decide (c ≠ '.') = true := by
    intro c hc
    apply decide_eq_true
    rintro rfl
    simp [timeText, notMem_padded] at hc
  have htake : instant.time.takeWhile (· ≠ '.') =
      (timeText instant.hour instant.minute instant.second).takeWhile (· ≠ '.') := by
    unfold Instant.time
    cases instant.fraction with
    | none => rw [Option.elim_none, List.append_nil]
    | some digits =>
      rw [Option.elim_some, List.takeWhile_append_of_pos hpoint, List.takeWhile_eq_self_iff.mpr hpoint]
      simp
  unfold epochTime
  rw [htake]

theorem cut_text (instant : Instant) :
    cut instant.text = some (dateText instant.date, instant.time ++ instant.zone.text) := by
  have hdate : ∀ c : Char, c.isDigit = false → c ≠ '-' → c ∉ dateText instant.date := by
    intro c hc hdash
    simp [dateText, notMem_padded hc, hdash]
  have hletter : 'T' ∉ instant.time := fun h => absurd (timely_time instant 'T' h) (by unfold Timely; decide)
  have hzone : 'T' ∉ instant.zone.text := by
    have hwf := instant.zone_wf
    have hsign : ∀ west : Bool, 'T' ≠ signChar west := by decide
    have hdigits : ∀ n : ℕ, 'T' ∉ padded 2 n := fun n => notMem_padded rfl
    cases hz : instant.zone with
    | unmarked => simp [Zone.text]
    | utc letter =>
      rw [hz] at hwf
      rcases hwf with rfl | rfl <;> simp [Zone.text]
    | colon west hours minutes => simp [Zone.text, hsign, hdigits]
    | compact west hours minutes => simp [Zone.text, hsign, hdigits]
    | hour west hours => simp [Zone.text, hsign, hdigits]
  unfold cut Instant.text
  rcases instant.separator_eq with hsep | hsep
  · rw [hsep, splitOnce_append (hdate 'T' rfl (by decide)), Option.some_or]
  · have hnone : splitOnce 'T' (dateText instant.date ++ ' ' :: (instant.time ++ instant.zone.text)) = none := by
      apply if_neg
      rw [List.mem_append, List.mem_cons, List.mem_append, not_or, not_or, not_or]
      exact ⟨hdate 'T' rfl (by decide), by decide, hletter, hzone⟩
    rw [hsep, hnone, Option.none_or, splitOnce_append (hdate ' ' rfl (by decide))]

theorem seconds_bounds (instant : Instant) :
    -86400 ≤ instant.zone.seconds ∧ instant.zone.seconds ≤ 86400 := by
  have hwf := instant.zone_wf
  have hoffset : ∀ (west : Bool) (hours minutes : ℕ), hours < 24 → minutes < 60 →
      -86400 ≤ (if west then -1 else 1) * ((hours : ℤ) * 3600 + minutes * 60) ∧
        (if west then -1 else 1) * ((hours : ℤ) * 3600 + minutes * 60) ≤ 86400 := by
    intro west hours minutes hh hm
    cases west
    · simp only [Bool.false_eq_true, if_false]
      omega
    · simp only [if_true]
      omega
  cases hz : instant.zone with
  | unmarked => exact ⟨by decide, by decide⟩
  | utc letter => simp [Zone.seconds]
  | colon west hours minutes =>
    rw [hz] at hwf
    exact hoffset west hours minutes hwf.1 hwf.2
  | compact west hours minutes =>
    rw [hz] at hwf
    exact hoffset west hours minutes hwf.1 hwf.2
  | hour west hours =>
    rw [hz] at hwf
    have hzero := hoffset west hours 0 hwf (by decide)
    rw [Nat.cast_zero, zero_mul, add_zero] at hzero
    exact hzero

/-- The days of the years of four digits. -/
theorem daysFromCivil_bounds {date : CivilDate} (h : date.Valid) (hyear : 0 ≤ date.year)
    (hlast : date.year ≤ 9999) : -1000000 ≤ daysFromCivil date ∧ daysFromCivil date ≤ 10000000 := by
  have hmarch : -1 ≤ marchYear date ∧ marchYear date ≤ 9999 := by
    unfold marchYear
    split <;> omega
  have hday := marchDay_lt h
  have hday0 : 0 ≤ marchDay date := by
    have hbounds := marchMonth_bounds h.1 h.2.1
    have hfirst := h.2.2.1
    unfold marchDay
    omega
  have hbelow : marchDay date < 366 := by
    split at hday <;> omega
  rw [daysFromCivil_eq h.1]
  unfold daysBefore
  omega

/-- Every well-formed instant is read, as the second that it is. -/
theorem checkedEpochFromRfc3339_text (instant : Instant) :
    checkedEpochFromRfc3339 instant.text = some (some instant.epoch) := by
  obtain ⟨hmonth, hmonth', hday, hday'⟩ := instant.date_valid
  obtain ⟨hyear, hlast⟩ := instant.year_digits
  have hdate := epochDate_dateText hyear hmonth hmonth' hday hday'
  rw [if_pos hlast] at hdate
  unfold checkedEpochFromRfc3339
  rw [cut_text]
  dsimp only
  rw [hdate]
  dsimp only
  rw [checkedSplitOffset_text, Option.bind_eq_bind, Option.bind_some]
  dsimp only
  rw [epochTime_time]
  dsimp only
  have hdays := daysFromCivil_bounds instant.date_valid hyear hlast
  have hzone := seconds_bounds instant
  have hhour := instant.hour_lt
  have hminute := instant.minute_lt
  have hsecond := instant.second_le
  rw [checkedI64_of_fits (by unfold FitsI64; omega)]
  rfl

end WellFormed

/-! ## What is read is well formed -/

/-- The zone reads: nothing, or an offset of numbers. -/
def ZoneReads : Option (Bool × Text) → Prop
  | none => True
  | some (_, tz) => ∃ hours minutes, OffsetReads tz hours minutes

/-- Only a well-formed text has parts that all read, and an offset that reads after a date that does is
one whose seconds a word can hold. -/
structure Plain (s : Text) : Prop where
  offset_fits : ∀ date rest d west tz hours minutes, cut s = some (date, rest) → DateReads date d →
    (cutZone rest).2 = some (west, tz) → OffsetReads tz hours minutes →
      FitsI64 (hours * 3600 + minutes * 60)
  shaped : ∀ date rest d seconds, cut s = some (date, rest) → DateReads date d →
    ZoneReads (cutZone rest).2 → TimeReads (cutZone rest).1 seconds → ∃ instant : Instant, instant.text = s

/-- Nothing overflows, and a value is the second of a well-formed instant. -/
def Sound (s : Text) : Prop :=
  ∃ r, checkedEpochFromRfc3339 s = some r ∧
    ∀ t, r = some t → ∃ instant : Instant, instant.text = s ∧ instant.epoch = t

section Reading

variable {s text tz rest : Text}

theorem parseSigned_nonneg {limit : ℕ} {n : ℤ} (hminus : '-' ∉ text) (h : parseSigned limit text = some n) :
    0 ≤ n := by
  have hhead : text.head? ≠ some '-' := fun hhead => hminus (List.mem_of_head? hhead)
  unfold parseSigned at h
  rw [if_neg hhead] at h
  obtain ⟨k, -, rfl⟩ := Option.map_eq_some_iff.mp h
  exact Int.natCast_nonneg k

theorem notMem_cutZone {west : Bool} (h : (cutZone rest).2 = some (west, tz)) : '-' ∉ tz := by
  unfold cutZone at h
  split at h
  · cases h
  · split at h
    · cases h
    · rename_i pos hpos
      cases h
      intro hmem
      exact absurd (rposition_after hpos '-' hmem) (by decide)

theorem offsetReads_nonneg {hours minutes : ℤ} (hminus : '-' ∉ tz) (h : OffsetReads tz hours minutes) :
    0 ≤ hours ∧ 0 ≤ minutes := by
  rcases h with ⟨h, m, hsplit, hhours, hminutes⟩ | ⟨-, -, hhours, hminutes⟩ | ⟨-, -, hhours, rfl⟩
  · unfold splitOnce at hsplit
    split at hsplit
    · cases hsplit
      refine ⟨parseSigned_nonneg (fun hmem => hminus ((List.takeWhile_sublist _).subset hmem)) hhours,
        parseSigned_nonneg (fun hmem => hminus ?_) hminutes⟩
      exact (List.dropWhile_sublist _).subset (List.mem_of_mem_tail hmem)
    · cases hsplit
  · exact ⟨parseSigned_nonneg (fun hmem => hminus (List.mem_of_mem_take hmem)) hhours,
      parseSigned_nonneg (fun hmem => hminus (List.mem_of_mem_drop hmem)) hminutes⟩
  · exact ⟨parseSigned_nonneg hminus hhours, le_refl _⟩

theorem checkedOffset_isSome_iff {hours minutes : ℤ} (west : Bool) (hh : 0 ≤ hours) (hm : 0 ≤ minutes) :
    (∃ offset, checkedOffset west hours minutes = some offset) ↔ FitsI64 (hours * 3600 + minutes * 60) := by
  simp only [checkedOffset_eq_some]
  constructor
  · rintro ⟨_, -, -, hsum, -, -⟩
    exact hsum
  · intro hsum
    refine ⟨_, ?_, ?_, hsum, ?_, rfl⟩
    · unfold FitsI64 at *
      omega
    · unfold FitsI64 at *
      omega
    · unfold FitsI64 at *
      cases west
      · simp only [Bool.false_eq_true, if_false]
        omega
      · simp only [if_true]
        omega

/-- The reader is sound on a text just where the text is plain. -/
theorem sound_iff_plain (s : Text) : Sound s ↔ Plain s := by
  constructor
  · rintro ⟨r, hread, hvalue⟩
    refine ⟨?_, ?_⟩
    · intro date rest d west tz hours minutes hcut hdate hzone hreads
      have hnonneg := offsetReads_nonneg (notMem_cutZone hzone) hreads
      rw [← checkedOffset_isSome_iff west hnonneg.1 hnonneg.2]
      cases hoffset : checkedOffset west hours minutes with
      | some offset => exact ⟨offset, rfl⟩
      | none =>
        have hnone : checkedSplitOffset rest = none := by
          unfold checkedSplitOffset
          rw [hzone]
          dsimp only
          rw [offsetNumbers_eq_some.mpr hreads]
          dsimp only
          rw [hoffset]
          rfl
        unfold checkedEpochFromRfc3339 at hread
        rw [hcut] at hread
        dsimp only at hread
        rw [epochDate_eq_some.mpr hdate] at hread
        dsimp only at hread
        rw [hnone] at hread
        cases hread
    · intro date rest d seconds hcut hdate hzone htime
      have hsome : ∃ t, r = some t := by
        unfold checkedEpochFromRfc3339 at hread
        rw [hcut] at hread
        dsimp only at hread
        rw [epochDate_eq_some.mpr hdate] at hread
        dsimp only at hread
        obtain ⟨zoned, hzoned, hread⟩ := Option.bind_eq_some_iff.mp hread
        have htimes : ∃ offset, zoned = some ((cutZone rest).1, offset) := by
          unfold checkedSplitOffset at hzoned
          cases hz : (cutZone rest).2 with
          | none =>
            rw [hz] at hzoned
            exact ⟨0, (Option.some.inj hzoned).symm⟩
          | some signed =>
            rw [hz] at hzoned hzone
            obtain ⟨hours, minutes, hreads⟩ := hzone
            dsimp only at hzoned
            rw [offsetNumbers_eq_some.mpr hreads] at hzoned
            obtain ⟨offset, -, hzoned⟩ := Option.bind_eq_some_iff.mp hzoned
            exact ⟨offset, (Option.some.inj hzoned).symm⟩
        obtain ⟨offset, rfl⟩ := htimes
        dsimp only at hread
        rw [epochTime_eq_some.mpr htime] at hread
        obtain ⟨epoch, -, hread⟩ := Option.bind_eq_some_iff.mp hread
        exact ⟨epoch, (Option.some.inj hread).symm⟩
      obtain ⟨t, rfl⟩ := hsome
      obtain ⟨instant, htext, -⟩ := hvalue t rfl
      exact ⟨instant, htext⟩
  · intro hplain
    by_cases hshape : ∃ instant : Instant, instant.text = s
    · obtain ⟨instant, rfl⟩ := hshape
      refine ⟨_, checkedEpochFromRfc3339_text instant, ?_⟩
      intro t ht
      cases ht
      exact ⟨instant, rfl, rfl⟩
    · refine ⟨none, ?_, fun t ht => by cases ht⟩
      unfold checkedEpochFromRfc3339
      cases hcut : cut s with
      | none => rfl
      | some parts =>
        obtain ⟨date, rest⟩ := parts
        dsimp only
        cases hdate : epochDate date with
        | none => rfl
        | some d =>
          dsimp only
          have hd := epochDate_eq_some.mp hdate
          have htime : ZoneReads (cutZone rest).2 → epochTime (cutZone rest).1 = none := by
            intro hzone
            cases ht : epochTime (cutZone rest).1 with
            | none => rfl
            | some seconds =>
              exact absurd (hplain.shaped date rest d seconds hcut hd hzone (epochTime_eq_some.mp ht)) hshape
          unfold checkedSplitOffset
          cases hz : (cutZone rest).2 with
          | none =>
            rw [hz] at htime
            dsimp only
            rw [Option.bind_eq_bind, Option.bind_some]
            dsimp only
            rw [htime trivial]
            rfl
          | some signed =>
            obtain ⟨west, tz⟩ := signed
            dsimp only
            cases hnumbers : offsetNumbers tz with
            | none => rfl
            | some numbers =>
              obtain ⟨hours, minutes⟩ := numbers
              have hreads := offsetNumbers_eq_some.mp hnumbers
              have hnonneg := offsetReads_nonneg (notMem_cutZone hz) hreads
              have hfits := hplain.offset_fits date rest d west tz hours minutes hcut hd hz hreads
              obtain ⟨offset, hoffset⟩ :=
                (checkedOffset_isSome_iff west hnonneg.1 hnonneg.2).mpr hfits
              rw [hz] at htime
              dsimp only
              rw [hoffset]
              simp only [Option.bind_eq_bind, Option.bind_some, Option.pure_def, htime ⟨hours, minutes, hreads⟩]

end Reading

end Sessiometer.Log
