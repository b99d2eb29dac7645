import Mathlib.Algebra.BigOperators.Group.List.Lemmas
import Mathlib.Algebra.Order.Field.Rat
import Mathlib.Data.Rat.Floor
import Sessiometer.Store.Ledger
import Sessiometer.Store.Samples

/-! # Compaction

Whole days that have aged out of the raw window are folded into hourly and daily buckets. The rollup
file is replaced first and the raw file second; the watermark tells what has been folded. -/

namespace Sessiometer

open Ledger

def hourSecs : Int := 3600

def daySecs : Int := 86400

def capFraction : ℚ := 1

structure HourStat where
  max : ℚ
  mean : ℚ
  samples : Option ℕ
deriving DecidableEq

structure HourBucket where
  hourStart : Int
  count : ℕ
  session : Option HourStat
  weekly : Option HourStat
deriving DecidableEq

structure DayStat where
  max : ℚ
  mean : ℚ
  p95 : ℚ
  capHits : ℕ
  samples : Option ℕ
deriving DecidableEq

structure DayBucket where
  dayStart : Int
  count : ℕ
  coverage : ℚ
  session : Option DayStat
  weekly : Option DayStat
deriving DecidableEq

structure Rollup where
  rolledThroughTs : Int := 0
  hourly : List HourBucket := []
  daily : List DayBucket := []
deriving DecidableEq

structure RetentionPolicy where
  rawWindowSecs : Int := 14 * daySecs
  hourlyWindowSecs : Int := 90 * daySecs
  dailyWindowSecs : Int := 0
  pollIntervalSecs : Int := 300
deriving DecidableEq

structure RollSummary where
  rolledThroughTs : Int
  rawLines : ℕ
deriving DecidableEq

/-- `as u32`, and what an addition of two counts wraps to. -/
def asU32 (n : ℕ) : ℕ := n % 4294967296

def dayStart (ts : Int) : Int := ts - ts % daySecs

def hourStart (ts : Int) : Int := ts - ts % hourSecs

def expectedPerDay (policy : RetentionPolicy) : ℚ :=
  ((max (daySecs / max policy.pollIntervalSecs 1) 1 : Int) : ℚ)

def maxOf : List ℚ → ℚ
  | [] => 0
  | x :: xs => xs.foldl max x

def meanOf (xs : List ℚ) : ℚ := if xs.isEmpty then 0 else xs.sum / xs.length

/-- `percentile`, the nearest rank. -/
def percentile (xs : List ℚ) (p : ℚ) : ℚ :=
  if xs.isEmpty then 0
  else
    let sorted := xs.mergeSort (fun a b => decide (a ≤ b))
    let rank := min (max (p * sorted.length).ceil.toNat 1) sorted.length
    sorted.getD (rank - 1) 0

def p95Of (xs : List ℚ) : ℚ := percentile xs (95 / 100)

def hourStat (xs : List ℚ) : Option HourStat :=
  if xs.isEmpty then none
  else some { max := maxOf xs, mean := meanOf xs, samples := some (asU32 xs.length) }

def dayStat (xs : List ℚ) : DayStat where
  max := maxOf xs
  mean := meanOf xs
  p95 := p95Of xs
  capHits := asU32 (xs.countP (fun x => decide (capFraction ≤ x)))
  samples := some (asU32 xs.length)

def weightedMean (aMean : ℚ) (aCount : ℕ) (bMean : ℚ) (bCount : ℕ) : ℚ :=
  let total : ℚ := aCount + bCount
  if total = 0 then 0 else (aMean * aCount + bMean * bCount) / total

/-- The recorded samples weight the mean where both sides have them, else the buckets' counts. -/
def mergedMean (a b : ℚ × Option ℕ × ℕ) : ℚ × Option ℕ :=
  match a.2.1, b.2.1 with
  | some na, some nb => (weightedMean a.1 na b.1 nb, some (asU32 (na + nb)))
  | _, _ => (weightedMean a.1 a.2.2 b.1 b.2.2, none)

def mergeHourStat (a : Option HourStat) (aCount : ℕ) (b : Option HourStat) (bCount : ℕ) :
    Option HourStat :=
  match a, b with
  | none, none => none
  | some only, none => some only
  | none, some only => some only
  | some a, some b =>
    let merged := mergedMean (a.mean, a.samples, aCount) (b.mean, b.samples, bCount)
    some { max := max a.max b.max, mean := merged.1, samples := merged.2 }

def mergeDayStat (a : Option DayStat) (aCount : ℕ) (b : Option DayStat) (bCount : ℕ) :
    Option DayStat :=
  match a, b with
  | none, none => none
  | some only, none => some only
  | none, some only => some only
  | some a, some b =>
    let merged := mergedMean (a.mean, a.samples, aCount) (b.mean, b.samples, bCount)
    some
      { max := max a.max b.max
        mean := merged.1
        p95 := max a.p95 b.p95
        capHits := asU32 (a.capHits + b.capHits)
        samples := merged.2 }

def mergeHour (existing bucket : HourBucket) : HourBucket :=
  { existing with
    session := mergeHourStat existing.session existing.count bucket.session bucket.count
    weekly := mergeHourStat existing.weekly existing.count bucket.weekly bucket.count
    count := asU32 (existing.count + bucket.count) }

def mergeDay (expected : ℚ) (existing bucket : DayBucket) : DayBucket :=
  let count := asU32 (existing.count + bucket.count)
  { existing with
    session := mergeDayStat existing.session existing.count bucket.session bucket.count
    weekly := mergeDayStat existing.weekly existing.count bucket.weekly bucket.count
    count := count
    coverage := min (count / expected) 1 }

def upsertHour (rollup : Rollup) (bucket : HourBucket) : Rollup :=
  { rollup with hourly := upsert HourBucket.hourStart mergeHour bucket rollup.hourly }

def upsertDay (rollup : Rollup) (bucket : DayBucket) (expected : ℚ) : Rollup :=
  { rollup with daily := upsert DayBucket.dayStart (mergeDay expected) bucket rollup.daily }

def hourBucket (hour : Int) (samples : List Sample) : HourBucket where
  hourStart := hour
  count := asU32 samples.length
  session := hourStat (samples.filterMap (·.session))
  weekly := hourStat (samples.filterMap (·.weekly))

def dayBucket (expected : ℚ) (day : Int) (samples : List Sample) : DayBucket :=
  let session := samples.filterMap (·.session)
  let weekly := samples.filterMap (·.weekly)
  { dayStart := day
    count := asU32 samples.length
    coverage := min (asU32 samples.length / expected) 1
    session := if session.isEmpty then none else some (dayStat session)
    weekly := if weekly.isEmpty then none else some (dayStat weekly) }

/-- One day of the batch: its hours, then the day itself. -/
def foldDay (expected : ℚ) (rollup : Rollup) (day : Int × List Sample) : Rollup :=
  let byHour := groups (fun s => hourStart s.ts) day.2
  let hours := byHour.foldl (fun rollup hour => upsertHour rollup (hourBucket hour.1 hour.2)) rollup
  upsertDay hours (dayBucket expected day.1 day.2) expected

def foldIntoTiers (rollup : Rollup) (batch : List Sample) (policy : RetentionPolicy) : Rollup :=
  (groups (fun s => dayStart s.ts) batch).foldl (foldDay (expectedPerDay policy)) rollup

/-- The whole day of the instant is older than the raw window. -/
def dayFullyAged (now : Int) (policy : RetentionPolicy) (ts : Int) : Bool :=
  decide (dayStart ts + daySecs ≤ now - policy.rawWindowSecs)

def pruneTiers (rollup : Rollup) (now : Int) (policy : RetentionPolicy) : Rollup :=
  let hourly := rollup.hourly.filter (fun b => decide (now - policy.hourlyWindowSecs ≤ b.hourStart))
  let daily :=
    if 0 < policy.dailyWindowSecs then
      rollup.daily.filter (fun b => decide (now - policy.dailyWindowSecs ≤ b.dayStart))
    else rollup.daily
  { rollup with
    hourly := hourly.mergeSort (fun a b => decide (a.hourStart ≤ b.hourStart))
    daily := daily.mergeSort (fun a b => decide (a.dayStart ≤ b.dayStart)) }

/-- Folds the samples and moves the watermark to the newest of them. -/
def rollTiers (rollup : Rollup) (toRoll : List Sample) (policy : RetentionPolicy) : Rollup :=
  match (toRoll.map Sample.ts).max? with
  | some newest =>
    { foldIntoTiers rollup toRoll policy with
      rolledThroughTs := max rollup.rolledThroughTs newest }
  | none => rollup

/-- The samples that have aged and are not yet folded. -/
def rolledBatch (samples : List Sample) (rollup : Rollup) (now : Int) (policy : RetentionPolicy) :
    List Sample :=
  batch Sample.ts (dayFullyAged now policy) rollup.rolledThroughTs samples

def planRoll (samples : List Sample) (rollup : Rollup) (now : Int) (policy : RetentionPolicy) :
    List Sample × Rollup × RollSummary :=
  let retained := samples.filter (fun s => !dayFullyAged now policy s.ts)
  let toRoll := rolledBatch samples rollup now policy
  let pruned := pruneTiers (rollTiers rollup toRoll policy) now policy
  (retained.mergeSort (fun a b => decide (a.ts ≤ b.ts)), pruned,
    { rolledThroughTs := pruned.rolledThroughTs, rawLines := asU32 toRoll.length })

/-- The two files of the store: the samples that the raw one reads as, and the rollup. -/
structure UsageStore where
  samples : List Sample := []
  rollup : Rollup := {}
deriving DecidableEq

namespace UsageStore

variable (store : UsageStore)

def append (s : Sample) : UsageStore := { store with samples := store.samples ++ [s] }

/-- A crash between the two writes leaves the new rollup beside the old raw file. -/
def writeRollup (now : Int) (policy : RetentionPolicy) : UsageStore :=
  { store with rollup := (planRoll store.samples store.rollup now policy).2.1 }

def compactAndRoll (now : Int) (policy : RetentionPolicy) : UsageStore × RollSummary :=
  let (retained, rollup, summary) := planRoll store.samples store.rollup now policy
  ({ samples := retained, rollup := rollup }, summary)

end UsageStore

/-! ## The raw file -/

/-- The file holds the samples of the store, on whole lines. -/
def UsageStore.BackedBy (json : SampleJson) (store : UsageStore) (file : Option (List UInt8)) :
    Prop :=
  Lines.Whole newline json.fromSlice (file.getD []) store.samples

section File

variable {json : SampleJson} (hjson : json.Lawful) {store : UsageStore}
  {file : Option (List UInt8)}

theorem UsageStore.BackedBy.readSamples (h : store.BackedBy json file) :
    readSamples json file = store.samples := by
  have hread := Lines.Whole.records h
  cases file with
  | none => exact hread
  | some bytes => exact hread

include hjson

theorem whole_line {s : Sample} {text : List UInt8} {whole : List UInt8} {samples : List Sample}
    (hwhole : Lines.Whole newline json.fromSlice whole samples)
    (ht : json.toVec s = some text) :
    Lines.Whole newline json.fromSlice (whole ++ (text ++ [newline])) (samples ++ [s]) := by
  have hclose := hwhole.close_line (hjson.oneLine ht)
  rwa [Lines.record_of_ne_nil (hjson.nonempty ht), hjson.roundTrip ht] at hclose

theorem UsageStore.BackedBy.append (h : store.BackedBy json file) {c : AppendCall}
    (hok : c.returnsOk json = true) :
    (store.append c.sample).BackedBy json (appendSample json c file).1 := by
  obtain ⟨text, ht, happend⟩ : ∃ text, json.toVec c.sample = some text ∧
      appendSample json c file = (some (file.getD [] ++ (text ++ [newline])), .ok ()) :=
    appendSample_ok hok
  rw [happend]
  exact whole_line hjson h ht

/-- What `write_samples` writes is what the next pass reads. -/
theorem backedBy_samplesText {bytes : List UInt8} (h : samplesText json store.samples = some bytes) :
    store.BackedBy json (some bytes) := by
  have hall : ∀ (samples : List Sample) (bytes whole : List UInt8) (before : List Sample),
      samplesText json samples = some bytes →
      Lines.Whole newline json.fromSlice whole before →
      Lines.Whole newline json.fromSlice (whole ++ bytes) (before ++ samples) := by
    intro samples
    induction samples with
    | nil =>
      intro bytes whole before hbytes hwhole
      obtain rfl := Option.some.inj hbytes
      rwa [List.append_nil, List.append_nil]
    | cons s samples ih =>
      intro bytes whole before hbytes hwhole
      unfold samplesText at hbytes
      cases ht : json.toVec s with
      | none => simp [ht] at hbytes
      | some text =>
        cases hrest : samplesText json samples with
        | none => simp [ht, hrest] at hbytes
        | some rest =>
          rw [ht, hrest] at hbytes
          obtain rfl := Option.some.inj hbytes
          have hnext := ih rest _ _ hrest (whole_line hjson hwhole ht)
          simpa using hnext
  exact hall store.samples bytes [] [] h Lines.whole_nil

end File

/-! ## What a pass folds -/

/-- What a daily tier says of the samples folded into it. -/
structure DailyTier (folded : List Sample) (daily : List DayBucket) : Prop where
  distinct : (daily.map DayBucket.dayStart).Nodup
  days : ∀ day, day ∈ daily.map DayBucket.dayStart ↔ day ∈ folded.map (fun s => dayStart s.ts)
  counts : ∀ b ∈ daily,
    b.count = asU32 (folded.countP (fun s => decide (dayStart s.ts = b.dayStart)))

section Fold

variable {folded folded' xs : List Sample} {daily daily' : List DayBucket} {rollup : Rollup}
  {now : Int} {policy : RetentionPolicy} {expected : ℚ}

theorem asU32_asU32_add (a b : ℕ) : asU32 (asU32 a + asU32 b) = asU32 (a + b) := by
  unfold asU32
  omega

theorem DailyTier.perm (h : DailyTier folded daily) (hfolded : folded.Perm folded')
    (hdaily : daily'.Perm daily) : DailyTier folded' daily' where
  distinct := (hdaily.map _).nodup_iff.mpr h.distinct
  days day := by
    rw [(hdaily.map _).mem_iff, h.days, (hfolded.map _).mem_iff]
  counts b hb := by
    rw [h.counts b (hdaily.mem_iff.mp hb), hfolded.countP_eq]

theorem dailyTier_nil : DailyTier [] [] where
  distinct := List.nodup_nil
  days _ := Iff.rfl
  counts b hb := by cases hb

theorem dayStart_mergeDay (existing bucket : DayBucket) :
    (mergeDay expected existing bucket).dayStart = existing.dayStart := rfl

/-- A day's samples are added to the bucket of the day, if there is one. -/
theorem DailyTier.upsert (h : DailyTier folded daily) {day : Int} {samples : List Sample}
    (hne : samples ≠ []) (hday : ∀ s ∈ samples, dayStart s.ts = day) :
    DailyTier (folded ++ samples) (Ledger.upsert DayBucket.dayStart (mergeDay expected)
      (dayBucket expected day samples) daily) := by
  have hall : samples.countP (fun s => decide (dayStart s.ts = day)) = samples.length :=
    List.countP_eq_length.mpr (fun s hs => decide_eq_true (hday s hs))
  have hother : ∀ d, d ≠ day → samples.countP (fun s => decide (dayStart s.ts = d)) = 0 := by
    intro d hd
    refine List.countP_eq_zero.mpr (fun s hs hs' => hd ?_)
    rw [← of_decide_eq_true hs', hday s hs]
  refine ⟨nodup_upsert dayStart_mergeDay h.distinct, fun d => ?_, fun b hb => ?_⟩
  · rw [mem_keys_upsert dayStart_mergeDay, h.days, List.map_append, List.mem_append]
    refine or_congr Iff.rfl ⟨fun hd => ?_, fun hd => ?_⟩
    · obtain ⟨s, hs⟩ := List.exists_mem_of_ne_nil _ hne
      exact List.mem_map.mpr ⟨s, hs, (hday s hs).trans hd.symm⟩
    · obtain ⟨s, hs, rfl⟩ := List.mem_map.mp hd
      exact hday s hs
  · rw [List.countP_append]
    rcases mem_upsert h.distinct hb with ⟨hin, hd⟩ | ⟨old, hold, hd, rfl⟩ | ⟨hnew, rfl⟩
    · rw [hother b.dayStart hd, Nat.add_zero]
      exact h.counts b hin
    · have hold' : old.dayStart = day := hd
      have hcount : (mergeDay expected old (dayBucket expected day samples)).count =
          asU32 (old.count + asU32 samples.length) := rfl
      rw [hcount, dayStart_mergeDay, h.counts old hold, asU32_asU32_add, hold', hall]
    · have hzero : folded.countP (fun s => decide (dayStart s.ts = day)) = 0 := by
        refine List.countP_eq_zero.mpr (fun s hs hs' => hnew ((h.days day).mpr ?_))
        exact List.mem_map.mpr ⟨s, hs, of_decide_eq_true hs'⟩
      change asU32 samples.length = asU32 (folded.countP (fun s => decide (dayStart s.ts = day)) +
        samples.countP (fun s => decide (dayStart s.ts = day)))
      rw [hzero, hall, Nat.zero_add]

theorem daily_foldDay (expected : ℚ) (rollup : Rollup) (day : Int × List Sample) :
    (foldDay expected rollup day).daily = Ledger.upsert DayBucket.dayStart (mergeDay expected)
      (dayBucket expected day.1 day.2) rollup.daily := by
  have hhours : ∀ (hours : List (Int × List Sample)) (rollup : Rollup),
      (hours.foldl (fun rollup hour => upsertHour rollup (hourBucket hour.1 hour.2)) rollup).daily =
        rollup.daily := by
    intro hours
    induction hours with
    | nil => exact fun _ => rfl
    | cons hour hours ih => exact fun rollup => ih (upsertHour rollup (hourBucket hour.1 hour.2))
  unfold foldDay upsertDay
  dsimp only
  rw [hhours]

theorem DailyTier.foldDays (h : DailyTier folded rollup.daily) (expected : ℚ)
    {days : List (Int × List Sample)}
    (hdays : ∀ g ∈ days, g.2 ≠ [] ∧ ∀ s ∈ g.2, dayStart s.ts = g.1) :
    DailyTier (folded ++ days.flatMap Prod.snd) (days.foldl (foldDay expected) rollup).daily := by
  induction days generalizing folded rollup with
  | nil =>
    rw [List.flatMap_nil, List.append_nil]
    exact h
  | cons day days ih =>
    obtain ⟨hne, hday⟩ := hdays day List.mem_cons_self
    have hone : DailyTier (folded ++ day.2) (foldDay expected rollup day).daily := by
      rw [daily_foldDay]
      exact h.upsert hne hday
    rw [List.flatMap_cons, ← List.append_assoc]
    exact ih hone (fun g hg => hdays g (List.mem_cons_of_mem _ hg))

theorem DailyTier.foldIntoTiers (h : DailyTier folded rollup.daily) (policy : RetentionPolicy)
    (xs : List Sample) :
    DailyTier (folded ++ xs) (Sessiometer.foldIntoTiers rollup xs policy).daily :=
  (h.foldDays (expectedPerDay policy) (fun _ hg => mem_groups hg)).perm
    ((groups_perm (fun s : Sample => dayStart s.ts) xs).append_left folded) (List.Perm.refl _)

/-- The buckets count every folded sample once, unless a day holds too many for its count. -/
theorem DailyTier.sum_counts (h : DailyTier folded daily)
    (hfew : ∀ day, folded.countP (fun s => decide (dayStart s.ts = day)) < 4294967296) :
    (daily.map DayBucket.count).sum = folded.length := by
  have hcount : daily.map DayBucket.count =
      (daily.map DayBucket.dayStart).map (fun d => (folded.map (fun s => dayStart s.ts)).count d) := by
    rw [List.map_map]
    refine List.map_congr_left (fun b hb => ?_)
    rw [h.counts b hb, asU32, Nat.mod_eq_of_lt (hfew _), Function.comp_apply, List.count,
      List.countP_map]
    exact List.countP_congr (fun s _ => by simp)
  have hdays : (daily.map DayBucket.dayStart).Perm (folded.map (fun s => dayStart s.ts)).dedup :=
    (List.perm_ext_iff_of_nodup h.distinct (List.nodup_dedup _)).mpr
      (fun day => (h.days day).trans List.mem_dedup.symm)
  rw [hcount, (hdays.map _).sum_eq, List.sum_map_count_dedup_eq_length, List.length_map]

theorem dayFullyAged_down {ts ts' : Int} (hle : ts ≤ ts') (h : dayFullyAged now policy ts' = true) :
    dayFullyAged now policy ts = true := by
  have haged : dayStart ts' + daySecs ≤ now - policy.rawWindowSecs := of_decide_eq_true h
  refine decide_eq_true ?_
  unfold dayStart daySecs at haged ⊢
  omega

theorem foldIntoTiers_nil (rollup : Rollup) (policy : RetentionPolicy) :
    Sessiometer.foldIntoTiers rollup [] policy = rollup := by
  unfold Sessiometer.foldIntoTiers
  rw [groups_nil]
  rfl

theorem rollTiers_eq (rollup : Rollup) (toRoll : List Sample) (policy : RetentionPolicy) :
    rollTiers rollup toRoll policy =
      { foldIntoTiers rollup toRoll policy with
        rolledThroughTs := advance Sample.ts rollup.rolledThroughTs toRoll } := by
  unfold rollTiers
  cases toRoll with
  | nil =>
    rw [foldIntoTiers_nil]
    rfl
  | cons s rest =>
    rw [List.map_cons, List.max?_cons']
    dsimp only
    rw [foldl_max_map]
    rfl

theorem pruneTiers_pruneTiers (rollup : Rollup) (now : Int) (policy : RetentionPolicy) :
    pruneTiers (pruneTiers rollup now policy) now policy = pruneTiers rollup now policy := by
  unfold pruneTiers
  dsimp only
  rw [sort_filter_sort HourBucket.hourStart]
  by_cases hdaily : 0 < policy.dailyWindowSecs
  · rw [if_pos hdaily, if_pos hdaily, sort_filter_sort DayBucket.dayStart]
  · rw [if_neg hdaily, if_neg hdaily, sort_sort DayBucket.dayStart]

end Fold

/-! ## Runs of the store -/

inductive StoreOp where
  | append (s : Sample)
  | roll (now : Int) (policy : RetentionPolicy)
  | cutRoll (now : Int) (policy : RetentionPolicy)
deriving DecidableEq

/-- The pass keeps the daily tier for the store's lifetime. -/
def StoreOp.Lifetime : StoreOp → Prop
  | .append _ => True
  | .roll _ policy => policy.dailyWindowSecs ≤ 0
  | .cutRoll _ policy => policy.dailyWindowSecs ≤ 0

def UsageStore.step (store : UsageStore) : StoreOp → UsageStore
  | .append s => store.append s
  | .roll now policy => (store.compactAndRoll now policy).1
  | .cutRoll now policy => store.writeRollup now policy

def UsageStore.after (ops : List StoreOp) : UsageStore := ops.foldl UsageStore.step {}

/-- The samples that the rollup does not have yet. -/
def UsageStore.unfolded (store : UsageStore) : List Sample :=
  pending Sample.ts store.rollup.rolledThroughTs store.samples

def appended (ops : List StoreOp) : List Sample :=
  ops.flatMap (fun op => match op with
    | .append s => [s]
    | _ => [])

/-- The store with its history: the samples appended past the watermark, and those folded. -/
structure Books where
  store : UsageStore := {}
  accepted : List Sample := []
  folded : List Sample := []

namespace Books

def step (b : Books) (op : StoreOp) : Books :=
  match op with
  | .append s =>
    { b with
      store := b.store.step op
      accepted :=
        if b.store.rollup.rolledThroughTs < s.ts then b.accepted ++ [s] else b.accepted }
  | .roll now policy =>
    { b with
      store := b.store.step op
      folded := b.folded ++ rolledBatch b.store.samples b.store.rollup now policy }
  | .cutRoll now policy =>
    { b with
      store := b.store.step op
      folded := b.folded ++ rolledBatch b.store.samples b.store.rollup now policy }

def after (ops : List StoreOp) : Books := ops.foldl Books.step {}

/-- Every accepted sample is in the raw file and not yet folded, or folded, and the daily tier tells
of those that are. -/
structure Balanced (b : Books) : Prop where
  accounted : b.accepted.Perm (b.store.unfolded ++ b.folded)
  tier : DailyTier b.folded b.store.rollup.daily

end Books

section Runs

variable {b : Books} {ops : List StoreOp} {store : UsageStore} {now : Int} {policy : RetentionPolicy}

theorem store_step (b : Books) (op : StoreOp) : (b.step op).store = b.store.step op := by
  cases op <;> rfl

theorem store_after (ops : List StoreOp) : (Books.after ops).store = UsageStore.after ops := by
  induction ops using List.reverseRecOn with
  | nil => rfl
  | append_singleton ops op ih =>
    unfold Books.after UsageStore.after at ih ⊢
    rw [List.foldl_concat, List.foldl_concat, store_step, ih]

/-- The rollup that a pass writes, cut short or not. -/
theorem rollup_pass (store : UsageStore) (now : Int) (policy : RetentionPolicy) :
    (store.compactAndRoll now policy).1.rollup = (store.writeRollup now policy).rollup := rfl

theorem rollup_writeRollup (store : UsageStore) (now : Int) (policy : RetentionPolicy) :
    (store.writeRollup now policy).rollup = pruneTiers
      (rollTiers store.rollup (rolledBatch store.samples store.rollup now policy) policy)
      now policy := rfl

theorem rolledThrough_writeRollup (store : UsageStore) (now : Int) (policy : RetentionPolicy) :
    (store.writeRollup now policy).rollup.rolledThroughTs =
      advance Sample.ts store.rollup.rolledThroughTs
        (rolledBatch store.samples store.rollup now policy) := by
  rw [rollup_writeRollup, rollTiers_eq]
  rfl

theorem daily_writeRollup (hlife : policy.dailyWindowSecs ≤ 0) :
    ((store.writeRollup now policy).rollup.daily).Perm
      (foldIntoTiers store.rollup (rolledBatch store.samples store.rollup now policy)
        policy).daily := by
  rw [rollup_writeRollup, rollTiers_eq]
  unfold pruneTiers
  dsimp only
  rw [if_neg (not_lt.mpr hlife)]
  exact List.mergeSort_perm _ _

theorem samples_compactAndRoll (store : UsageStore) (now : Int) (policy : RetentionPolicy) :
    (store.compactAndRoll now policy).1.samples =
      (store.samples.filter (fun s => !dayFullyAged now policy s.ts)).mergeSort
        (fun a b => decide (a.ts ≤ b.ts)) := rfl

/-- A pass moves its batch from the raw file to the tiers. -/
theorem Books.Balanced.pass (h : b.Balanced) {store' : UsageStore}
    (hlife : policy.dailyWindowSecs ≤ 0)
    (hrollup : store'.rollup = (b.store.writeRollup now policy).rollup)
    (hsamples : store'.samples.Perm b.store.samples ∨
      store'.samples.Perm (b.store.samples.filter (fun s => !dayFullyAged now policy s.ts))) :
    Books.Balanced ⟨store', b.accepted,
      b.folded ++ rolledBatch b.store.samples b.store.rollup now policy⟩ := by
  have hdown : ∀ {ts ts' : Int}, ts ≤ ts' → dayFullyAged now policy ts' = true →
      dayFullyAged now policy ts = true := fun hle haged => dayFullyAged_down hle haged
  have hmoved : (pending Sample.ts b.store.rollup.rolledThroughTs b.store.samples).Perm
      (pending Sample.ts (advance Sample.ts b.store.rollup.rolledThroughTs
        (rolledBatch b.store.samples b.store.rollup now policy)) store'.samples ++
          rolledBatch b.store.samples b.store.rollup now policy) :=
    pending_perm hdown hsamples
  constructor
  · refine h.accounted.trans ?_
    unfold UsageStore.unfolded
    rw [hrollup, rolledThrough_writeRollup]
    refine (hmoved.append_right _).trans ?_
    rw [List.append_assoc]
    exact List.perm_append_comm.append_left _
  · have hfold := h.tier.foldIntoTiers policy
      (rolledBatch b.store.samples b.store.rollup now policy)
    refine hfold.perm (List.Perm.refl _) ?_
    rw [hrollup]
    exact daily_writeRollup hlife

theorem Books.Balanced.step (h : b.Balanced) {op : StoreOp} (hlife : op.Lifetime) :
    (b.step op).Balanced := by
  cases op with
  | append s =>
    refine ⟨?_, h.tier⟩
    have hunfolded : (b.store.step (.append s)).unfolded = b.store.unfolded ++
        if b.store.rollup.rolledThroughTs < s.ts then [s] else [] := by
      unfold UsageStore.unfolded pending
      change (b.store.samples ++ [s]).filter _ = _
      rw [List.filter_append]
      congr 1
      by_cases hpast : b.store.rollup.rolledThroughTs < s.ts
      · simp [hpast, UsageStore.step, UsageStore.append]
      · simp [hpast, UsageStore.step, UsageStore.append]
    unfold Books.step
    dsimp only
    rw [hunfolded]
    by_cases hpast : b.store.rollup.rolledThroughTs < s.ts
    · rw [if_pos hpast, if_pos hpast, List.append_assoc]
      refine (h.accounted.append_right [s]).trans ?_
      rw [List.append_assoc]
      exact List.perm_append_comm.append_left _
    · rw [if_neg hpast, if_neg hpast, List.append_nil]
      exact h.accounted
  | roll now policy =>
    refine h.pass hlife (rollup_pass _ _ _) (.inr ?_)
    exact List.mergeSort_perm _ _
  | cutRoll now policy => exact h.pass hlife rfl (.inl (List.Perm.refl _))

theorem balanced_after (hlife : ∀ op ∈ ops, op.Lifetime) : (Books.after ops).Balanced := by
  induction ops using List.reverseRecOn with
  | nil => exact ⟨List.Perm.refl _, dailyTier_nil⟩
  | append_singleton ops op ih =>
    unfold Books.after at ih ⊢
    rw [List.foldl_concat]
    exact (ih (fun o ho => hlife o (List.mem_append_left _ ho))).step
      (hlife op (List.mem_append_right _ (List.mem_singleton_self op)))

/-- A pass behind a rollup that was written for the same time folds nothing more. -/
theorem compactAndRoll_writeRollup (store : UsageStore) (now : Int) (policy : RetentionPolicy)
    (samples : List Sample) (hin : ∀ s ∈ samples, s ∈ store.samples) :
    UsageStore.compactAndRoll ⟨samples, (store.writeRollup now policy).rollup⟩ now policy =
      (⟨(samples.filter (fun s => !dayFullyAged now policy s.ts)).mergeSort
          (fun a b => decide (a.ts ≤ b.ts)), (store.writeRollup now policy).rollup⟩,
        ⟨(store.writeRollup now policy).rollup.rolledThroughTs, 0⟩) := by
  have hnone : rolledBatch samples (store.writeRollup now policy).rollup now policy = [] := by
    unfold rolledBatch
    rw [rolledThrough_writeRollup]
    exact batch_advance hin
  have hsame : pruneTiers (rollTiers (store.writeRollup now policy).rollup [] policy) now policy =
      (store.writeRollup now policy).rollup := pruneTiers_pruneTiers _ now policy
  unfold UsageStore.compactAndRoll planRoll
  rw [hnone]
  dsimp only
  rw [hsame]
  rfl

theorem compactAndRoll_twice (store : UsageStore) (now : Int) (policy : RetentionPolicy) :
    (store.compactAndRoll now policy).1.compactAndRoll now policy =
      ((store.compactAndRoll now policy).1,
        ⟨(store.compactAndRoll now policy).1.rollup.rolledThroughTs, 0⟩) := by
  have hin : ∀ s ∈ (store.compactAndRoll now policy).1.samples, s ∈ store.samples := by
    intro s hs
    rw [samples_compactAndRoll] at hs
    exact (List.mem_filter.mp (List.mem_mergeSort.mp hs)).1
  have htwice := compactAndRoll_writeRollup store now policy _ hin
  rw [samples_compactAndRoll, sort_filter_sort Sample.ts] at htwice
  exact htwice

/-- A pass that is run again behind a crash ends as if it had not been cut. -/
theorem compactAndRoll_of_cut (store : UsageStore) (now : Int) (policy : RetentionPolicy) :
    ((store.writeRollup now policy).compactAndRoll now policy).1 =
      (store.compactAndRoll now policy).1 := by
  have hcut := compactAndRoll_writeRollup store now policy store.samples (fun _ hs => hs)
  exact (congrArg Prod.fst hcut :)

theorem appended_snoc (ops : List StoreOp) (op : StoreOp) : appended (ops ++ [op]) =
    appended ops ++ match op with
      | .append s => [s]
      | _ => [] := by
  unfold appended
  rw [List.flatMap_append, List.flatMap_singleton]

/-- Where every sample is newer than all that has been folded, every sample is accepted. -/
theorem accepted_eq_appended (h : ∀ before s after, ops = before ++ .append s :: after →
    (UsageStore.after before).rollup.rolledThroughTs < s.ts) :
    (Books.after ops).accepted = appended ops := by
  induction ops using List.reverseRecOn with
  | nil => rfl
  | append_singleton ops op ih =>
    have hops := ih (fun before s after hsplit => h before s (after ++ [op]) (by rw [hsplit]; simp))
    have hlast := h ops
    rw [appended_snoc, ← hops]
    unfold Books.after at hops ⊢
    rw [List.foldl_concat]
    cases op with
    | append s =>
      have hpast := hlast s [] rfl
      rw [← store_after] at hpast
      exact if_pos hpast
    | roll now policy => exact (List.append_nil _).symm
    | cutRoll now policy => exact (List.append_nil _).symm

/-- Each sample that is appended past the watermark is in the raw file or folded, once; the daily
buckets count the folded ones, and a pass that is run again changes nothing. -/
structure RolledOnce (ops : List StoreOp) (b : Books) : Prop where
  store : b.store = UsageStore.after ops
  accepted : (∀ before s after, ops = before ++ .append s :: after →
    (UsageStore.after before).rollup.rolledThroughTs < s.ts) → b.accepted = appended ops
  accounted : b.accepted.Perm (b.store.unfolded ++ b.folded)
  tier : DailyTier b.folded b.store.rollup.daily
  counted : (∀ day, b.accepted.countP (fun s => decide (dayStart s.ts = day)) < 4294967296) →
    (b.store.rollup.daily.map DayBucket.count).sum + b.store.unfolded.length = b.accepted.length
  idempotent : ∀ now policy, (b.store.compactAndRoll now policy).1.compactAndRoll now policy =
    ((b.store.compactAndRoll now policy).1,
      ⟨(b.store.compactAndRoll now policy).1.rollup.rolledThroughTs, 0⟩)
  resumed : ∀ now policy, ((b.store.writeRollup now policy).compactAndRoll now policy).1 =
    (b.store.compactAndRoll now policy).1

/-- Under lifetime retention samples are rolled once, whichever passes a crash cuts between their two
writes. -/
theorem rollup_exactly_once (ops : List StoreOp) (hlife : ∀ op ∈ ops, op.Lifetime) :
    RolledOnce ops (Books.after ops) := by
  have hbalanced := balanced_after hlife
  refine ⟨store_after ops, accepted_eq_appended, hbalanced.accounted, hbalanced.tier,
    fun hfew => ?_, compactAndRoll_twice _, compactAndRoll_of_cut _⟩
  have hsum := hbalanced.tier.sum_counts (fun day => by
    refine lt_of_le_of_lt ?_ (hfew day)
    rw [hbalanced.accounted.countP_eq, List.countP_append]
    exact Nat.le_add_left _ _)
  rw [hsum, hbalanced.accounted.length_eq, List.length_append, Nat.add_comm]

end Runs

def sampleAt (ts : Int) : Sample :=
  { ts := ts, provider := "p", acct := "a", session := none, weekly := none }

/-- The second sample has the time of the first, which is folded by then. -/
def opsLate : List StoreOp :=
  [.append (sampleAt 1), .roll 1296000 {}, .append (sampleAt 1), .roll 1296000 {}]

/-- The daily tier is bounded to one day. -/
def opsPruned : List StoreOp :=
  [.append (sampleAt 1), .roll 1296000 { dailyWindowSecs := 86400 }]

/-- One day of as many samples, and the pass that folds it. -/
def opsOfDay (n : ℕ) : List StoreOp :=
  List.replicate n (.append (sampleAt 1)) ++ [.roll 1296000 {}]

theorem rollup_exactly_once_late : RolledOnce opsLate (Books.after opsLate) := by
  refine rollup_exactly_once opsLate (fun op hop => ?_)
  simp only [opsLate, List.mem_cons, List.not_mem_nil, or_false] at hop
  rcases hop with rfl | rfl | rfl | rfl
  · trivial
  · exact le_refl (0 : Int)
  · trivial
  · exact le_refl (0 : Int)

/-- Every appended sample is counted, or in the raw file and not yet folded. -/
def CountedOnce (ops : List StoreOp) : Prop :=
  ((UsageStore.after ops).rollup.daily.map DayBucket.count).sum +
    (UsageStore.after ops).unfolded.length = (appended ops).length

theorem after_replicate (n : ℕ) : Books.after (List.replicate n (.append (sampleAt 1))) =
    ⟨{ samples := List.replicate n (sampleAt 1) }, List.replicate n (sampleAt 1), []⟩ := by
  induction n with
  | zero => rfl
  | succ n ih =>
    rw [List.replicate_succ', List.replicate_succ']
    unfold Books.after at ih ⊢
    rw [List.foldl_concat, ih]
    rfl

theorem after_opsOfDay (n : ℕ) : (Books.after (opsOfDay n)).folded = List.replicate n (sampleAt 1) ∧
    (Books.after (opsOfDay n)).store.samples = [] := by
  have hrun : Books.after (opsOfDay n) = Books.step
      ⟨{ samples := List.replicate n (sampleAt 1) }, List.replicate n (sampleAt 1), []⟩
      (.roll 1296000 {}) := by
    rw [← after_replicate]
    exact List.foldl_concat _ _ _ _
  have haged : dayFullyAged 1296000 {} (sampleAt 1).ts = true := by decide
  rw [hrun]
  constructor
  · change [] ++ rolledBatch (List.replicate n (sampleAt 1)) {} 1296000 {} = _
    unfold rolledBatch batch
    rw [List.nil_append, List.filter_replicate_of_pos (p := fun s : Sample =>
      dayFullyAged 1296000 {} s.ts) haged]
    exact List.filter_replicate_of_pos (by decide)
  · change (UsageStore.compactAndRoll _ _ _).1.samples = []
    rw [samples_compactAndRoll, List.filter_replicate_of_neg (by simp [haged])]
    exact List.mergeSort_nil

theorem length_appended_opsOfDay (n : ℕ) : (appended (opsOfDay n)).length = n := by
  unfold opsOfDay
  rw [appended_snoc, List.append_nil]
  induction n with
  | zero => rfl
  | succ n ih =>
    rw [List.replicate_succ', appended_snoc, List.length_append, ih]
    rfl

/-- The count of a day wraps at the width of a `u32`. -/
theorem not_countedOnce_opsOfDay {n : ℕ} (hwraps : asU32 n = 0) (hpos : n ≠ 0) :
    ¬ CountedOnce (opsOfDay n) := by
  have hlife : ∀ op ∈ opsOfDay n, op.Lifetime := by
    intro op hop
    rcases List.mem_append.mp hop with happend | hroll
    · rw [List.eq_of_mem_replicate happend]
      trivial
    · rw [List.mem_singleton.mp hroll]
      exact le_refl (0 : Int)
  obtain ⟨hfolded, hsamples⟩ := after_opsOfDay n
  have hzero : ((Books.after (opsOfDay n)).store.rollup.daily.map DayBucket.count).sum = 0 := by
    refine List.sum_eq_zero (fun count hcount => ?_)
    obtain ⟨bucket, hbucket, rfl⟩ := List.mem_map.mp hcount
    rw [(balanced_after hlife).tier.counts bucket hbucket, hfolded, List.countP_replicate]
    split
    · exact hwraps
    · rfl
  unfold CountedOnce UsageStore.unfolded pending
  rw [← store_after, hzero, hsamples, length_appended_opsOfDay]
  exact hpos.symm

/-- Late samples, a bounded daily tier and a full day's count lose samples. -/
theorem rollup_overstated :
    ¬ CountedOnce opsLate ∧ ¬ CountedOnce opsPruned ∧ ¬ CountedOnce (opsOfDay 4294967296) := by
  refine ⟨?_, ?_, not_countedOnce_opsOfDay (by decide) (by decide)⟩
  · simp [CountedOnce, appended, opsLate, UsageStore.unfolded, pending, UsageStore.after,
      UsageStore.step, UsageStore.append, UsageStore.compactAndRoll, planRoll, sampleAt,
      dayFullyAged, dayStart, daySecs, rolledBatch, batch, rollTiers, foldIntoTiers, groups,
      pruneTiers, foldDay, upsertHour, upsertDay, upsert, dayBucket, asU32, hourBucket]
  · simp [CountedOnce, appended, opsPruned, UsageStore.unfolded, pending, UsageStore.after,
      UsageStore.step, UsageStore.append, UsageStore.compactAndRoll, planRoll, sampleAt,
      dayFullyAged, dayStart, daySecs, rolledBatch, batch, rollTiers, foldIntoTiers, groups,
      pruneTiers, foldDay, upsertHour, upsertDay, upsert, dayBucket, asU32, hourBucket]

end Sessiometer
