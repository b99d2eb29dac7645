import Sessiometer.Store.Rollup
import Sessiometer.Store.Summary

/-! # Tiers folded in batches

The statistics of two batches merge to those of both together. Only the daily p95 does not: the
greater of two is kept, which is never less than the p95 of both. -/

namespace Sessiometer

open Ledger

/-! ## Statistics -/

section Statistics

variable {xs ys : List ℚ}

theorem maxOf_append (hx : xs ≠ []) (hy : ys ≠ []) : maxOf (xs ++ ys) = max (maxOf xs) (maxOf ys) := by
  obtain ⟨x, xs, rfl⟩ := List.exists_cons_of_ne_nil hx
  obtain ⟨y, ys, rfl⟩ := List.exists_cons_of_ne_nil hy
  change (xs ++ y :: ys).foldl max x = max (xs.foldl max x) (ys.foldl max y)
  rw [List.foldl_append, List.foldl_cons, List.foldl_assoc]

theorem meanOf_append (hx : xs ≠ []) (hy : ys ≠ []) :
    weightedMean (meanOf xs) xs.length (meanOf ys) ys.length = meanOf (xs ++ ys) := by
  have hxlen : 0 < xs.length := List.length_pos_iff.mpr hx
  have hylen : 0 < ys.length := List.length_pos_iff.mpr hy
  have hxpos : (0 : ℚ) < xs.length := by exact_mod_cast hxlen
  have hypos : (0 : ℚ) < ys.length := by exact_mod_cast hylen
  have hsum : (xs.length : ℚ) + ys.length ≠ 0 := by linarith
  have hboth : (xs ++ ys).isEmpty = false := by simp [hx]
  unfold weightedMean meanOf
  dsimp only
  rw [if_neg hsum, hboth, List.isEmpty_eq_false_iff.mpr hx, List.isEmpty_eq_false_iff.mpr hy]
  simp only [Bool.false_eq_true, if_false]
  rw [div_mul_cancel₀ _ hxpos.ne', div_mul_cancel₀ _ hypos.ne', List.sum_append, List.length_append,
    Nat.cast_add]

/-- The rank of the p95 among so many values. -/
def p95Rank (n : ℕ) : ℕ := min (max ((95 / 100 : ℚ) * n).ceil.toNat 1) n

theorem p95Rank_pos {n : ℕ} (hn : 0 < n) : 0 < p95Rank n := by
  unfold p95Rank
  omega

theorem p95Rank_le (n : ℕ) : p95Rank n ≤ n := min_le_right _ _

theorem p95Rank_add {n m : ℕ} (hn : 0 < n) (hm : 0 < m) :
    p95Rank (n + m) ≤ p95Rank n + p95Rank m := by
  have hwithin : ∀ {k : ℕ}, 0 < k → p95Rank k = ((95 / 100 : ℚ) * k).ceil.toNat := by
    intro k hk
    have hkpos : (0 : ℚ) < k := by exact_mod_cast hk
    have hpos : 0 < ((95 / 100 : ℚ) * k).ceil := Rat.lt_ceil_iff.mpr (by
      push_cast
      linarith)
    have hle : ((95 / 100 : ℚ) * k).ceil ≤ (k : ℤ) := Rat.ceil_le_iff.mpr (by
      push_cast
      linarith)
    unfold p95Rank
    omega
  have hceil : ((95 / 100 : ℚ) * (n + m : ℕ)).ceil ≤
      ((95 / 100 : ℚ) * n).ceil + ((95 / 100 : ℚ) * m).ceil := by
    refine Rat.ceil_le_iff.mpr ?_
    have hnle : (95 / 100 : ℚ) * n ≤ ((95 / 100 : ℚ) * n).ceil := Rat.le_ceil
    have hmle : (95 / 100 : ℚ) * m ≤ ((95 / 100 : ℚ) * m).ceil := Rat.le_ceil
    push_cast
    linarith
  rw [hwithin hn, hwithin hm, hwithin (Nat.add_pos_left hn m)]
  omega

theorem p95Of_eq (hx : xs ≠ []) : ∃ h : p95Rank xs.length - 1 <
    (xs.mergeSort (fun a b => decide (a ≤ b))).length,
    p95Of xs = (xs.mergeSort (fun a b => decide (a ≤ b)))[p95Rank xs.length - 1] := by
  have hpos := List.length_pos_iff.mpr hx
  have hlen : (xs.mergeSort (fun a b => decide (a ≤ b))).length = xs.length :=
    (List.mergeSort_perm xs _).length_eq
  have hrank := p95Rank_le xs.length
  have hlt : p95Rank xs.length - 1 < (xs.mergeSort (fun a b => decide (a ≤ b))).length := by
    rw [hlen]
    omega
  refine ⟨hlt, ?_⟩
  unfold p95Of percentile
  dsimp only
  rw [List.isEmpty_eq_false_iff.mpr hx, if_neg Bool.false_ne_true, hlen]
  exact (List.getElem_eq_getD 0).symm

theorem p95Of_append_le (hx : xs ≠ []) (hy : ys ≠ []) :
    p95Of (xs ++ ys) ≤ max (p95Of xs) (p95Of ys) := by
  obtain ⟨hxr, hxeq⟩ := p95Of_eq hx
  obtain ⟨hyr, hyeq⟩ := p95Of_eq hy
  obtain ⟨hr, heq⟩ := p95Of_eq (List.append_ne_nil_of_left_ne_nil hx ys)
  have hxpos := p95Rank_pos (List.length_pos_iff.mpr hx)
  have hypos := p95Rank_pos (List.length_pos_iff.mpr hy)
  have hadd := p95Rank_add (List.length_pos_iff.mpr hx) (List.length_pos_iff.mpr hy)
  rw [hxeq, hyeq, heq]
  refine getElem_sort_append_le hxr hyr hr ?_
  rw [List.length_append]
  omega

theorem asU32_of_lt {n : ℕ} (hn : n < 4294967296) : asU32 n = n := Nat.mod_eq_of_lt hn

theorem mergedMean_append (hx : xs ≠ []) (hy : ys ≠ [])
    (hfew : xs.length + ys.length < 4294967296) (a b : ℕ) :
    mergedMean (meanOf xs, some (asU32 xs.length), a) (meanOf ys, some (asU32 ys.length), b) =
      (meanOf (xs ++ ys), some (asU32 (xs ++ ys).length)) := by
  have hxlen : asU32 xs.length = xs.length := asU32_of_lt (by omega)
  have hylen : asU32 ys.length = ys.length := asU32_of_lt (by omega)
  unfold mergedMean
  dsimp only
  rw [hxlen, hylen, meanOf_append hx hy, List.length_append]

theorem mergeHourStat_append (hfew : xs.length + ys.length < 4294967296) (a b : ℕ) :
    mergeHourStat (hourStat xs) a (hourStat ys) b = hourStat (xs ++ ys) := by
  by_cases hx : xs = []
  · subst hx
    rw [List.nil_append]
    cases hourStat ys <;> rfl
  by_cases hy : ys = []
  · subst hy
    rw [List.append_nil]
    cases hourStat xs <;> rfl
  have hstat : ∀ zs : List ℚ, zs ≠ [] → hourStat zs =
      some { max := maxOf zs, mean := meanOf zs, samples := some (asU32 zs.length) } :=
    fun zs hz => if_neg (by simpa using hz)
  rw [hstat xs hx, hstat ys hy, hstat _ (List.append_ne_nil_of_left_ne_nil hx ys),
    maxOf_append hx hy]
  unfold mergeHourStat
  dsimp only
  rw [mergedMean_append hx hy hfew]

/-- The same statistic but for the p95, which is no less. -/
structure DayStat.Agrees (whole stat : DayStat) : Prop where
  max : stat.max = whole.max
  mean : stat.mean = whole.mean
  p95 : whole.p95 ≤ stat.p95
  capHits : stat.capHits = whole.capHits
  samples : stat.samples = whole.samples

theorem DayStat.Agrees.refl (stat : DayStat) : stat.Agrees stat := ⟨rfl, rfl, le_refl _, rfl, rfl⟩

def dayStatOf (xs : List ℚ) : Option DayStat := if xs.isEmpty then none else some (dayStat xs)

theorem dayStatOf_of_ne_nil (hx : xs ≠ []) : dayStatOf xs = some (dayStat xs) :=
  if_neg (by simpa using hx)

theorem agrees_dayStatOf (xs : List ℚ) : Option.Rel DayStat.Agrees (dayStatOf xs) (dayStatOf xs) := by
  cases dayStatOf xs with
  | none => exact .none
  | some stat => exact .some (DayStat.Agrees.refl stat)

theorem mergeDayStat_append {sx sy : Option DayStat} (hfew : xs.length + ys.length < 4294967296)
    (a b : ℕ) (hsx : Option.Rel DayStat.Agrees (dayStatOf xs) sx)
    (hsy : Option.Rel DayStat.Agrees (dayStatOf ys) sy) :
    Option.Rel DayStat.Agrees (dayStatOf (xs ++ ys)) (mergeDayStat sx a sy b) := by
  by_cases hx : xs = []
  · subst hx
    obtain rfl : sx = none := by
      cases hsx
      rfl
    rw [List.nil_append]
    cases sy <;> exact hsy
  by_cases hy : ys = []
  · subst hy
    obtain rfl : sy = none := by
      cases hsy
      rfl
    rw [List.append_nil]
    cases sx <;> exact hsx
  rw [dayStatOf_of_ne_nil hx] at hsx
  rw [dayStatOf_of_ne_nil hy] at hsy
  rw [dayStatOf_of_ne_nil (List.append_ne_nil_of_left_ne_nil hx ys)]
  cases hsx with
  | some hsx =>
    rename_i statx
    cases hsy with
    | some hsy =>
      rename_i staty
      have hmean : mergedMean (statx.mean, statx.samples, a) (staty.mean, staty.samples, b) =
          (meanOf (xs ++ ys), some (asU32 (xs ++ ys).length)) := by
        rw [hsx.mean, hsx.samples, hsy.mean, hsy.samples]
        exact mergedMean_append hx hy hfew a b
      refine .some ⟨?_, congrArg Prod.fst hmean, ?_, ?_, congrArg Prod.snd hmean⟩
      · change max statx.max staty.max = maxOf (xs ++ ys)
        rw [hsx.max, hsy.max, maxOf_append hx hy]
        rfl
      · exact (p95Of_append_le hx hy).trans (max_le_max hsx.p95 hsy.p95)
      · change asU32 (statx.capHits + staty.capHits) = asU32 _
        rw [hsx.capHits, hsy.capHits, List.countP_append]
        exact asU32_asU32_add _ _

end Statistics

/-! ## Buckets -/

section Buckets

variable {xs ys : List Sample} {a b : HourBucket}

/-- The bucket of an hour's samples, unless they are too many for its count. -/
def HourBucket.Describes (xs : List Sample) (b : HourBucket) : Prop :=
  xs.length < 4294967296 → b = hourBucket b.hourStart xs

/-- The same bucket but for the p95s. -/
structure DayBucket.Agrees (whole b : DayBucket) : Prop where
  dayStart : b.dayStart = whole.dayStart
  count : b.count = whole.count
  coverage : b.coverage = whole.coverage
  session : Option.Rel DayStat.Agrees whole.session b.session
  weekly : Option.Rel DayStat.Agrees whole.weekly b.weekly

def DayBucket.Describes (expected : ℚ) (xs : List Sample) (b : DayBucket) : Prop :=
  xs.length < 4294967296 → (dayBucket expected b.dayStart xs).Agrees b

theorem length_filterMap_append_le (read : Sample → Option ℚ)
    (hfew : (xs ++ ys).length < 4294967296) :
    (xs.filterMap read).length + (ys.filterMap read).length < 4294967296 := by
  have hx := List.length_filterMap_le read xs
  have hy := List.length_filterMap_le read ys
  rw [List.length_append] at hfew
  omega

theorem HourBucket.Describes.merge (ha : a.Describes xs) (hb : b.Describes ys) :
    (mergeHour a b).Describes (xs ++ ys) := by
  intro hfew
  have hxlen : xs.length < 4294967296 := by
    rw [List.length_append] at hfew
    omega
  have hylen : ys.length < 4294967296 := by
    rw [List.length_append] at hfew
    omega
  rw [ha hxlen, hb hylen]
  unfold mergeHour hourBucket
  dsimp only
  rw [mergeHourStat_append (length_filterMap_append_le _ hfew),
    mergeHourStat_append (length_filterMap_append_le _ hfew), asU32_asU32_add, List.length_append,
    List.filterMap_append, List.filterMap_append]

theorem dayBucket_describes (expected : ℚ) (day : Int) (xs : List Sample) :
    (dayBucket expected day xs).Describes expected xs :=
  fun _ => ⟨rfl, rfl, rfl, agrees_dayStatOf _, agrees_dayStatOf _⟩

theorem DayBucket.Describes.merge {expected : ℚ} {a b : DayBucket} (ha : a.Describes expected xs)
    (hb : b.Describes expected ys) : (mergeDay expected a b).Describes expected (xs ++ ys) := by
  intro hfew
  have hlen : (xs ++ ys).length = xs.length + ys.length := List.length_append
  have ha := ha (by omega)
  have hb := hb (by omega)
  have hcount : asU32 (a.count + b.count) = asU32 (xs ++ ys).length := by
    rw [ha.count, hb.count, hlen]
    exact asU32_asU32_add _ _
  refine ⟨rfl, hcount, ?_, ?_, ?_⟩
  · change min ((asU32 (a.count + b.count) : ℕ) / expected) 1 = _
    rw [hcount]
    rfl
  · have hsession := mergeDayStat_append (length_filterMap_append_le _ hfew) a.count b.count
      ha.session hb.session
    rw [← List.filterMap_append] at hsession
    exact hsession
  · have hweekly := mergeDayStat_append (length_filterMap_append_le _ hfew) a.count b.count
      ha.weekly hb.weekly
    rw [← List.filterMap_append] at hweekly
    exact hweekly

end Buckets

/-! ## Tiers -/

section Tiers

variable {xs batch : List Sample} {rollup : Rollup} {batches : List (List Sample)}
  {policy : RetentionPolicy}

/-- What the tiers say of all the samples folded into them. -/
structure Rollup.Describes (expected : ℚ) (xs : List Sample) (rollup : Rollup) : Prop where
  hourly : Summarises (fun s => hourStart s.ts) HourBucket.hourStart HourBucket.Describes xs
    rollup.hourly
  daily : Summarises (fun s => dayStart s.ts) DayBucket.dayStart (DayBucket.Describes expected) xs
    rollup.daily

theorem Rollup.describes_nil (expected : ℚ) : Rollup.Describes expected [] {} :=
  ⟨summarises_nil, summarises_nil⟩

theorem dayStart_hourStart (ts : Int) : dayStart (hourStart ts) = dayStart ts := by
  unfold hourStart hourSecs dayStart daySecs
  omega

theorem dayStart_of_hourStart {a b : Int} (h : hourStart a = hourStart b) :
    dayStart a = dayStart b := by
  rw [← dayStart_hourStart a, h, dayStart_hourStart]

theorem hourStart_mergeHour (existing bucket : HourBucket) :
    (mergeHour existing bucket).hourStart = existing.hourStart := rfl

theorem hourStart_hourBucket (hour : Int) (xs : List Sample) :
    (hourBucket hour xs).hourStart = hour := rfl

theorem dayStart_dayBucket (expected : ℚ) (day : Int) (xs : List Sample) :
    (dayBucket expected day xs).dayStart = day := rfl

theorem hourly_foldDay (expected : ℚ) (rollup : Rollup) (day : Int × List Sample) :
    (foldDay expected rollup day).hourly = (groups (fun s => hourStart s.ts) day.2).foldl
      (fun rows g => Ledger.upsert HourBucket.hourStart mergeHour (hourBucket g.1 g.2) rows)
      rollup.hourly := by
  have hhours : ∀ (hours : List (Int × List Sample)) (rollup : Rollup),
      (hours.foldl (fun rollup hour => upsertHour rollup (hourBucket hour.1 hour.2)) rollup).hourly =
        hours.foldl (fun rows g => Ledger.upsert HourBucket.hourStart mergeHour
          (hourBucket g.1 g.2) rows) rollup.hourly := by
    intro hours
    induction hours with
    | nil => exact fun _ => rfl
    | cons hour hours ih => exact fun rollup => ih (upsertHour rollup (hourBucket hour.1 hour.2))
  exact hhours _ rollup

theorem Rollup.Describes.foldDay {expected : ℚ} (h : rollup.Describes expected xs)
    {day : Int × List Sample} (hne : day.2 ≠ []) (hday : ∀ s ∈ day.2, dayStart s.ts = day.1) :
    (Sessiometer.foldDay expected rollup day).Describes expected (xs ++ day.2) := by
  constructor
  · have hfolds := h.hourly.folds hourStart_mergeHour (fun _ _ _ ha hb => ha.merge hb)
      hourStart_hourBucket (fun _ _ _ => rfl) (groups (fun s => hourStart s.ts) day.2)
      (fun _ hg => mem_groups hg)
    rw [← hourly_foldDay expected] at hfolds
    refine hfolds.congr (fun k => ?_)
    rw [entries_append, entries_append, entries_groups (fun _ _ => id)]
  · rw [daily_foldDay]
    exact h.daily.upsert dayStart_mergeDay (fun _ _ _ ha hb => ha.merge hb) hne hday
      (dayBucket_describes expected day.1 day.2)

theorem Rollup.Describes.foldDays {expected : ℚ} (h : rollup.Describes expected xs)
    {days : List (Int × List Sample)}
    (hdays : ∀ g ∈ days, g.2 ≠ [] ∧ ∀ s ∈ g.2, dayStart s.ts = g.1) :
    (days.foldl (Sessiometer.foldDay expected) rollup).Describes expected
      (xs ++ days.flatMap Prod.snd) := by
  induction days generalizing xs rollup with
  | nil =>
    rw [List.flatMap_nil, List.append_nil]
    exact h
  | cons day days ih =>
    obtain ⟨hne, hday⟩ := hdays day List.mem_cons_self
    have hone := h.foldDay hne hday
    rw [List.flatMap_cons, ← List.append_assoc]
    exact ih hone (fun g hg => hdays g (List.mem_cons_of_mem _ hg))

theorem Rollup.Describes.foldIntoTiers (h : rollup.Describes (expectedPerDay policy) xs)
    (batch : List Sample) : (Sessiometer.foldIntoTiers rollup batch policy).Describes
      (expectedPerDay policy) (xs ++ batch) := by
  have hdays : (Sessiometer.foldIntoTiers rollup batch policy).Describes (expectedPerDay policy)
      (xs ++ (groups (fun s => dayStart s.ts) batch).flatMap Prod.snd) :=
    h.foldDays (fun _ hg => mem_groups hg)
  constructor
  · refine hdays.hourly.congr (fun k => ?_)
    rw [entries_append, entries_append, entries_groups (fun _ _ => dayStart_of_hourStart)]
  · refine hdays.daily.congr (fun k => ?_)
    rw [entries_append, entries_append, entries_groups (fun _ _ => id)]

/-- The batches folded one after the other, into no tiers at first. -/
def foldBatches (policy : RetentionPolicy) (batches : List (List Sample)) : Rollup :=
  batches.foldl (fun rollup batch => foldIntoTiers rollup batch policy) {}

theorem describes_foldBatches (policy : RetentionPolicy) (batches : List (List Sample)) :
    (foldBatches policy batches).Describes (expectedPerDay policy) batches.flatten := by
  induction batches using List.reverseRecOn with
  | nil => exact Rollup.describes_nil _
  | append_singleton batches batch ih =>
    unfold foldBatches at ih ⊢
    rw [List.foldl_concat, List.flatten_append, List.flatten_singleton]
    exact ih.foldIntoTiers batch

theorem foldIntoTiers_eq_foldBatches (policy : RetentionPolicy) (xs : List Sample) :
    foldIntoTiers {} xs policy = foldBatches policy [xs] := rfl

theorem daily_foldIntoTiers_nil (policy : RetentionPolicy) (xs : List Sample) :
    (foldIntoTiers {} xs policy).daily = (groups (fun s => dayStart s.ts) xs).map
      (fun g => dayBucket (expectedPerDay policy) g.1 g.2) := by
  have hdays : ∀ (days : List (Int × List Sample)) (rollup : Rollup),
      (days.foldl (foldDay (expectedPerDay policy)) rollup).daily = days.foldl (fun rows g =>
        Ledger.upsert DayBucket.dayStart (mergeDay (expectedPerDay policy))
          (dayBucket (expectedPerDay policy) g.1 g.2) rows) rollup.daily := by
    intro days
    induction days with
    | nil => exact fun _ => rfl
    | cons day days ih =>
      intro rollup
      rw [List.foldl_cons, List.foldl_cons, ih, daily_foldDay]
  have hfresh : (groups (fun s => dayStart s.ts) xs).foldl (fun rows g =>
      Ledger.upsert DayBucket.dayStart (mergeDay (expectedPerDay policy))
        (dayBucket (expectedPerDay policy) g.1 g.2) rows) [] =
      [] ++ (groups (fun s => dayStart s.ts) xs).map
        (fun g => dayBucket (expectedPerDay policy) g.1 g.2) :=
    foldl_upsert_fresh (dayStart_dayBucket (expectedPerDay policy)) _ (nodup_keys_groups _ xs)
  unfold foldIntoTiers
  rw [hdays]
  exact hfresh

theorem length_entries_hour_le (xs : List Sample) (hour : Int) :
    (entries (fun s => hourStart s.ts) hour xs).length ≤
      xs.countP (fun s => decide (dayStart s.ts = dayStart hour)) := by
  unfold entries
  rw [← List.countP_eq_length_filter]
  refine List.countP_mono_left (fun s _ hs => decide_eq_true ?_)
  rw [← of_decide_eq_true hs, dayStart_hourStart]

theorem samples_hourStat_le {xs : List Sample} {read : Sample → Option ℚ} {stat : HourStat}
    (hfew : xs.length < 4294967296) (h : hourStat (xs.filterMap read) = some stat) :
    ∃ n ≤ asU32 xs.length, stat.samples = some n := by
  have hle := List.length_filterMap_le read xs
  unfold hourStat at h
  split at h
  · cases h
  · obtain rfl := Option.some.inj h
    refine ⟨_, ?_, rfl⟩
    rw [asU32_of_lt hfew, asU32_of_lt (by omega)]
    exact hle

theorem samples_dayStatOf_le {xs : List Sample} {read : Sample → Option ℚ} {stat : DayStat}
    (hfew : xs.length < 4294967296)
    (h : Option.Rel DayStat.Agrees (dayStatOf (xs.filterMap read)) (some stat)) :
    ∃ n ≤ asU32 xs.length, stat.samples = some n := by
  have hle := List.length_filterMap_le read xs
  unfold dayStatOf at h
  split at h
  · cases h
  · cases h with
    | some h =>
      refine ⟨_, ?_, h.samples⟩
      rw [asU32_of_lt hfew, asU32_of_lt (by omega)]
      exact hle

/-- The tiers are those of all the samples in one pass, but for the daily p95s. The hourly buckets
add up to the daily ones, and each statistic is over samples of its bucket. -/
structure FoldsAsOne (policy : RetentionPolicy) (xs : List Sample) (tiers : Rollup) : Prop where
  hourly : tiers.hourly.Perm (foldIntoTiers {} xs policy).hourly
  days : (tiers.daily.map DayBucket.dayStart).Perm
    ((foldIntoTiers {} xs policy).daily.map DayBucket.dayStart)
  daily : ∀ b ∈ tiers.daily, ∃ whole ∈ (foldIntoTiers {} xs policy).daily,
    whole = dayBucket (expectedPerDay policy) b.dayStart
      (xs.filter (fun s => decide (dayStart s.ts = b.dayStart))) ∧ whole.Agrees b
  counts : ∀ b ∈ tiers.daily, b.count =
    ((tiers.hourly.filter (fun h => decide (dayStart h.hourStart = b.dayStart))).map
      HourBucket.count).sum
  hourSamples : ∀ b ∈ tiers.hourly, ∀ stat, b.session = some stat ∨ b.weekly = some stat →
    ∃ n ≤ b.count, stat.samples = some n
  daySamples : ∀ b ∈ tiers.daily, ∀ stat, b.session = some stat ∨ b.weekly = some stat →
    ∃ n ≤ b.count, stat.samples = some n

/-- Folding in batches agrees with one pass over all of their samples, however they are split, where
no day has more samples than a count holds. -/
theorem batches_fold_as_one (policy : RetentionPolicy) (batches : List (List Sample))
    (hfew : ∀ day,
      batches.flatten.countP (fun s => decide (dayStart s.ts = day)) < 4294967296) :
    FoldsAsOne policy batches.flatten (foldBatches policy batches) := by
  have h := describes_foldBatches policy batches
  have hone := describes_foldBatches policy [batches.flatten]
  rw [← foldIntoTiers_eq_foldBatches, List.flatten_singleton] at hone
  have hday : ∀ day, (entries (fun s => dayStart s.ts) day batches.flatten).length < 4294967296 := by
    intro day
    have hcount := hfew day
    rwa [List.countP_eq_length_filter] at hcount
  have hhour : ∀ hour,
      (entries (fun s => hourStart s.ts) hour batches.flatten).length < 4294967296 :=
    fun hour => (length_entries_hour_le _ hour).trans_lt (hfew _)
  have hbucket : ∀ b ∈ (foldBatches policy batches).hourly, b = hourBucket b.hourStart
      (entries (fun s => hourStart s.ts) b.hourStart batches.flatten) :=
    fun b hb => h.hourly.rows b hb (hhour _)
  have hagrees : ∀ b ∈ (foldBatches policy batches).daily,
      (dayBucket (expectedPerDay policy) b.dayStart
        (entries (fun s => dayStart s.ts) b.dayStart batches.flatten)).Agrees b :=
    fun b hb => h.daily.rows b hb (hday _)
  refine ⟨?_, ?_, fun b hb => ?_, fun b hb => ?_, fun b hb stat hstat => ?_,
    fun b hb stat hstat => ?_⟩
  · exact h.hourly.perm hone.hourly (fun row hrow => hrow (hhour _))
  · refine (List.perm_ext_iff_of_nodup h.daily.distinct hone.daily.distinct).mpr (fun day => ?_)
    rw [h.daily.keys, hone.daily.keys]
  · have hkey : b.dayStart ∈ (foldIntoTiers {} batches.flatten policy).daily.map
        DayBucket.dayStart := by
      rw [hone.daily.keys, ← h.daily.keys]
      exact List.mem_map_of_mem hb
    rw [daily_foldIntoTiers_nil, List.map_map] at hkey
    obtain ⟨g, hg, hgkey⟩ := List.mem_map.mp hkey
    have hgday : g.1 = b.dayStart := hgkey
    have hwhole := hagrees b hb
    rw [← hgday]
    refine ⟨_, ?_, rfl, ?_⟩
    · rw [daily_foldIntoTiers_nil]
      refine List.mem_map.mpr ⟨g, hg, ?_⟩
      rw [snd_of_mem_groups hg]
      rfl
    · rw [← hgday] at hwhole
      exact hwhole
  · have hcounts := h.hourly.sum_counts (fun hour => decide (dayStart hour = b.dayStart))
    simp only [dayStart_hourStart] at hcounts
    rw [(hagrees b hb).count]
    refine (asU32_of_lt (hday _)).trans (hcounts.symm.trans (congrArg List.sum ?_))
    refine List.map_congr_left (fun row hrow => ?_)
    rw [hbucket row (List.mem_filter.mp hrow).1]
    exact (asU32_of_lt (hhour _)).symm
  · rw [hbucket b hb] at hstat ⊢
    rcases hstat with hstat | hstat
    · exact samples_hourStat_le (hhour _) hstat
    · exact samples_hourStat_le (hhour _) hstat
  · have hwhole := hagrees b hb
    rw [hwhole.count]
    rcases hstat with hstat | hstat
    · exact samples_dayStatOf_le (hday _) (hstat ▸ hwhole.session)
    · exact samples_dayStatOf_le (hday _) (hstat ▸ hwhole.weekly)

theorem batches_fold_as_one_split :
    FoldsAsOne {} [sampleAt 1, sampleAt 2] (foldBatches {} [[sampleAt 1], [sampleAt 2]]) := by
  refine batches_fold_as_one {} [[sampleAt 1], [sampleAt 2]] (fun day => ?_)
  refine lt_of_le_of_lt List.countP_le_length ?_
  decide

/-- Two hours of a day, with as many samples each. -/
def hoursOf (n : ℕ) : List (List Sample) :=
  [List.replicate n (sampleAt 0), List.replicate n (sampleAt 3600)]

theorem dailyTier_foldBatches (policy : RetentionPolicy) (batches : List (List Sample)) :
    DailyTier batches.flatten (foldBatches policy batches).daily := by
  induction batches using List.reverseRecOn with
  | nil => exact dailyTier_nil
  | append_singleton batches batch ih =>
    unfold foldBatches at ih ⊢
    rw [List.foldl_concat, List.flatten_append, List.flatten_singleton]
    exact ih.foldIntoTiers policy batch

/-- The count of a day wraps where those of its hours do not. -/
theorem not_foldsAsOne_hoursOf {n : ℕ} (hpos : 0 < n) (hfew : n < 4294967296)
    (hwraps : asU32 (n + n) = 0) :
    ¬ FoldsAsOne {} (hoursOf n).flatten (foldBatches {} (hoursOf n)) := by
  intro h
  have hall : (hoursOf n).flatten =
      List.replicate n (sampleAt 0) ++ List.replicate n (sampleAt 3600) := by
    simp [hoursOf]
  have hin : sampleAt 0 ∈ (hoursOf n).flatten := by
    rw [hall]
    exact List.mem_append_left _ (List.mem_replicate.mpr ⟨hpos.ne', rfl⟩)
  have hdescribes := describes_foldBatches {} (hoursOf n)
  have htier := dailyTier_foldBatches {} (hoursOf n)
  obtain ⟨day, hday, hdayStart⟩ :=
    List.mem_map.mp ((htier.days 0).mpr (List.mem_map.mpr ⟨_, hin, by decide⟩))
  obtain ⟨hour, hhour, hhourStart⟩ :=
    List.mem_map.mp ((hdescribes.hourly.keys 0).mpr (List.mem_map.mpr ⟨_, hin, by decide⟩))
  have hzero : day.count = 0 := by
    rw [htier.counts day hday, hdayStart, hall, List.countP_append, List.countP_replicate,
      List.countP_replicate, if_pos (by decide), if_pos (by decide)]
    exact hwraps
  have hentries : entries (fun s => hourStart s.ts) hour.hourStart (hoursOf n).flatten =
      List.replicate n (sampleAt 0) := by
    rw [hall, hhourStart, entries_append, entries_self, entries_eq_nil, List.append_nil]
    · intro s hs
      rw [List.eq_of_mem_replicate hs]
      decide
    · intro s hs
      rw [List.eq_of_mem_replicate hs]
      decide
  have hcount : hour.count = n := by
    have hbucket := hdescribes.hourly.rows hour hhour
    rw [hentries] at hbucket
    rw [hbucket (by rwa [List.length_replicate])]
    change asU32 (List.replicate n (sampleAt 0)).length = n
    rw [List.length_replicate, asU32_of_lt hfew]
  have hsum := h.counts day hday
  rw [hzero] at hsum
  have hnone : hour.count = 0 := List.sum_eq_zero_iff_forall_eq_nat.mp hsum.symm _
    (List.mem_map_of_mem (List.mem_filter.mpr ⟨hhour, by simp [hhourStart, hdayStart, dayStart]⟩))
  omega

theorem day_count_wraps :
    ¬ FoldsAsOne {} (hoursOf 2147483648).flatten (foldBatches {} (hoursOf 2147483648)) :=
  not_foldsAsOne_hoursOf (by decide) (by decide) (by decide)

end Tiers

end Sessiometer
