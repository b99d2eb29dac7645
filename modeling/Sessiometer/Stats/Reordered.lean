import Mathlib.Tactic.FieldSimp
import Sessiometer.Stats.Aggregate

/-! # Reports of reordered input

A report is told by the observations and not by the order they come in, as long as the readings of one
account in one second, and the swaps of one second, come in theirs. Its shares are the parts of the
observations that each account was active for. -/

namespace Sessiometer.Stats

open Framing Ledger

/-- The samples in another order, in which the readings of an account in a second of the period keep
theirs. -/
structure Reordered (period : Period) (samples samples' : List Sample) : Prop where
  perm : samples.Perm samples'
  ties : ∀ acct ts, period.contains ts = true →
    samples.filter (fun s => decide (s.acct = acct ∧ s.ts = ts)) =
      samples'.filter fun s => decide (s.acct = acct ∧ s.ts = ts)

/-- The swaps in another order, in which those of a second keep theirs. -/
structure SwapsReordered (swaps swaps' : List SwapEvent) : Prop where
  perm : swaps.Perm swaps'
  ties : ∀ ts, entries SwapEvent.ts ts swaps = entries SwapEvent.ts ts swaps'

/-- The account that an observation falls to: the target of the latest swap, before the first swap
the account that it left, and without any swap the account that was observed. -/
def activeAccount (swaps : List SwapEvent) (s : Sample) : String :=
  match latest SwapEvent.ts s.ts swaps with
  | some e => String.ofList e.target
  | none =>
    match earliest SwapEvent.ts swaps with
    | some first => String.ofList first.source
    | none => s.acct

/-- The shares of a report, told from the observations themselves. -/
structure FairShares (observed : List Sample) (swaps : List SwapEvent) (report : UsageReport) :
    Prop where
  nonneg : ∀ entry ∈ report.perAccount, 0 ≤ entry.2.contributionShare
  total : observed ≠ [] →
    (report.perAccount.map fun entry => entry.2.contributionShare).sum = 1
  fraction : ∀ entry ∈ report.perAccount, entry.2.contributionShare =
    (observed.countP fun s => activeAccount swaps s == entry.1 : ℕ) / observed.length

/-! ## The same report -/

section Congr

variable {period : Period} {samples samples' observed observed' : List Sample}
  {swaps swaps' : List SwapEvent}

theorem inPeriod_perm (h : samples.Perm samples') :
    (inPeriod samples period).Perm (inPeriod samples' period) :=
  h.filter _

theorem entries_inPeriod (acct : String) (ts : ℤ) :
    entries Sample.ts ts (entries Sample.acct acct (inPeriod samples period)) =
      if period.contains ts = true then
        samples.filter fun s => decide (s.acct = acct ∧ s.ts = ts)
      else [] := by
  unfold entries inPeriod
  rw [List.filter_filter, List.filter_filter]
  by_cases hts : period.contains ts = true
  · rw [if_pos hts]
    refine List.filter_congr fun s _ => ?_
    by_cases hs : s.ts = ts
    · simp [hs, hts]
    · simp [hs]
  · rw [if_neg hts, List.filter_eq_nil_iff]
    intro s _
    by_cases hs : s.ts = ts
    · simp [hs, hts]
    · simp [hs]

theorem byAcct_congr (h : Reordered period samples samples') :
    byAcct samples period = byAcct samples' period := by
  unfold byAcct
  refine map_groups_congr (inPeriod_perm h.perm) (fun acct group => (acct, sortByTs group)) ?_
  intro acct
  have hsorted : sortByTs (entries Sample.acct acct (inPeriod samples period)) =
      sortByTs (entries Sample.acct acct (inPeriod samples' period)) := by
    refine sorted_congr fun ts => ?_
    rw [entries_inPeriod, entries_inPeriod]
    by_cases hts : period.contains ts = true
    · rw [if_pos hts, if_pos hts, h.ties acct ts hts]
    · rw [if_neg hts, if_neg hts]
  simp only [hsorted]

theorem sortSwaps_congr (h : SwapsReordered swaps swaps') : sortSwaps swaps = sortSwaps swaps' :=
  sorted_congr h.ties

theorem contributionCounts_congr (hobserved : observed.Perm observed')
    (hswaps : SwapsReordered swaps swaps') :
    contributionCounts observed swaps = contributionCounts observed' swaps' := by
  unfold contributionCounts
  rw [sortSwaps_congr hswaps]
  have hperm := hobserved.map (activeFor (sortSwaps swaps'))
  refine map_groups_congr hperm (fun acct group => (acct, group.length)) fun acct => ?_
  have hlength : (entries id acct (observed.map (activeFor (sortSwaps swaps')))).length =
      (entries id acct (observed'.map (activeFor (sortSwaps swaps')))).length :=
    (hperm.filter _).length_eq
  simp only [hlength]

theorem swapBreakdown_congr (h : swaps.Perm swaps') :
    swapBreakdown swaps period = swapBreakdown swaps' period := by
  have hperm := h.filter fun e => period.contains e.ts
  have hcount : ∀ p, (swaps.filter fun e => period.contains e.ts).countP p =
      (swaps'.filter fun e => period.contains e.ts).countP p := fun p => hperm.countP_eq p
  unfold swapBreakdown
  simp only [hcount]

end Congr

/-! ## The shares -/

section Shares

variable {sortedSwaps swaps : List SwapEvent} {observed : List Sample} {active : Log.Text} {ts : ℤ}
  {s : Sample} {acct : String}

theorem lastTarget_eq (hsorted : sortedSwaps.Pairwise fun e f => e.ts ≤ f.ts) :
    lastTarget active ts sortedSwaps =
      ((latest SwapEvent.ts ts sortedSwaps).map SwapEvent.target).getD active := by
  induction sortedSwaps generalizing active with
  | nil => rfl
  | cons e rest ih =>
    obtain ⟨hfirst, hrest⟩ := List.pairwise_cons.mp hsorted
    unfold lastTarget
    by_cases he : e.ts ≤ ts
    · rw [if_pos he, ih hrest, latest_cons]
      cases hlatest : latest SwapEvent.ts ts rest with
      | none => simp [he]
      | some f =>
        have hnot : ¬f.ts < e.ts := not_lt.mpr (hfirst f (latest_spec hlatest).1)
        simp [hnot]
    · rw [if_neg he, latest_of_gt]
      · rfl
      · intro f hf
        obtain rfl | hf := List.mem_cons.mp hf
        · exact not_le.mp he
        · exact (not_le.mp he).trans_le (hfirst f hf)

theorem activeFor_sortSwaps : activeFor (sortSwaps swaps) s = activeAccount swaps s := by
  unfold activeAccount sortSwaps
  have hlatest : latest SwapEvent.ts s.ts swaps =
      latest SwapEvent.ts s.ts (sorted SwapEvent.ts swaps) := latest_sorted.symm
  have hsorted : (sorted SwapEvent.ts swaps).Pairwise fun e f => e.ts ≤ f.ts := pairwise_sorted
  rw [hlatest, ← head?_sorted]
  cases hlist : sorted SwapEvent.ts swaps with
  | nil => rfl
  | cons first rest =>
    rw [hlist] at hsorted
    obtain ⟨hfirst, -⟩ := List.pairwise_cons.mp hsorted
    unfold activeFor activeAt
    by_cases hbefore : s.ts < first.ts
    · have hnone : latest SwapEvent.ts s.ts (first :: rest) = none := by
        refine latest_of_gt fun f hf => ?_
        obtain rfl | hf := List.mem_cons.mp hf
        · exact hbefore
        · exact hbefore.trans_le (hfirst f hf)
      simp [hbefore, hnone]
    · have hsome : (latest SwapEvent.ts s.ts (first :: rest)).isSome :=
        latest_isSome (by simp : first ∈ first :: rest) (not_lt.mp hbefore)
      obtain ⟨e, he⟩ := Option.isSome_iff_exists.mp hsome
      simp [hbefore, lastTarget_eq hsorted, he]

theorem lookup_contributionCounts : ((contributionCounts observed swaps).lookup acct).getD 0 =
    observed.countP fun s => activeAccount swaps s == acct := by
  have hcount : (entries id acct (observed.map (activeFor (sortSwaps swaps)))).length =
      observed.countP fun s => activeAccount swaps s == acct := by
    unfold entries
    rw [← List.countP_eq_length_filter, List.countP_map]
    refine List.countP_congr fun s _ => ?_
    simp [activeFor_sortSwaps]
  unfold contributionCounts
  rw [lookup_groups fun _ group => group.length, hcount]
  by_cases hmem : acct ∈ (observed.map (activeFor (sortSwaps swaps))).map id
  · rw [if_pos hmem]
    rfl
  · rw [if_neg hmem]
    simp only [List.map_id, List.mem_map, activeFor_sortSwaps, not_exists, not_and] at hmem
    exact (List.countP_eq_zero.mpr fun s hs => by simpa using hmem s hs).symm

theorem shareOf_contributionCounts :
    shareOf (contributionCounts observed swaps) acct observed.length =
      (observed.countP fun s => activeAccount swaps s == acct : ℕ) / observed.length := by
  unfold shareOf
  rw [lookup_contributionCounts]
  by_cases hempty : observed.length = 0
  · simp [hempty]
  · rw [if_neg hempty]

variable {samples : List Sample} {period : Period} {params : AggregateParams}
  {groups' : List (String × List Sample)} {contribution : List (String × ℕ)} {n : ℕ}

theorem share_perAccount {entry : String × AccountStats}
    (h : entry ∈ perAccount groups' contribution n period params) :
    entry.2.contributionShare = shareOf contribution entry.1 n := by
  obtain ⟨g, -, rfl⟩ := List.mem_map.mp h
  cases hlookup : groups'.lookup g.1 with
  | none => simp [unsampledStats]
  | some group => simp [accountStats]

theorem keys_perAccount : (perAccount groups' contribution n period params).map Prod.fst =
    (groups id (groups'.map Prod.fst ++ contribution.map Prod.fst)).map Prod.fst := by
  unfold perAccount
  rw [List.map_map]
  rfl

theorem mem_keys_perAccount (hs : s ∈ observed) : activeAccount swaps s ∈
    (perAccount groups' (contributionCounts observed swaps) n period params).map Prod.fst := by
  rw [keys_perAccount, mem_keys_groups, List.map_id, List.mem_append]
  right
  unfold contributionCounts
  rw [List.map_map]
  change _ ∈ (groups id (observed.map (activeFor (sortSwaps swaps)))).map Prod.fst
  rw [mem_keys_groups, List.map_id]
  exact List.mem_map.mpr ⟨s, hs, activeFor_sortSwaps⟩

/-- Every observation falls to one account of the report. -/
theorem sum_countP_perAccount :
    (((perAccount groups' (contributionCounts observed swaps) n period params).map Prod.fst).map
      fun acct => observed.countP fun s => activeAccount swaps s == acct).sum = observed.length := by
  have hnodup : ((perAccount groups' (contributionCounts observed swaps) n period params).map
      Prod.fst).Nodup := by
    rw [keys_perAccount]
    exact nodup_keys_groups _ _
  rw [← sum_length_entries hnodup fun s hs => mem_keys_perAccount hs]
  congr 1
  refine List.map_congr_left fun acct _ => ?_
  rw [List.countP_eq_length_filter]
  rfl

theorem sum_map_div (ks : List String) (f : String → ℕ) (d : ℚ) :
    (ks.map fun k => (f k : ℚ) / d).sum = ((ks.map f).sum : ℕ) / d := by
  induction ks with
  | nil => simp
  | cons k ks ih =>
    rw [List.map_cons, List.sum_cons, ih, List.map_cons, List.sum_cons]
    push_cast
    ring

theorem fairShares (roster : Option (List String)) : FairShares (inPeriod samples period) swaps
    (aggregateWithRoster samples swaps period params roster) := by
  have hshare : ∀ entry ∈ (aggregateWithRoster samples swaps period params roster).perAccount,
      entry.2.contributionShare =
        ((inPeriod samples period).countP fun s => activeAccount swaps s == entry.1 : ℕ) /
          (inPeriod samples period).length := by
    intro entry hentry
    rw [share_perAccount hentry, shareOf_contributionCounts]
  constructor
  · intro entry hentry
    rw [hshare entry hentry]
    positivity
  · intro hne
    have hpos : ((inPeriod samples period).length : ℚ) ≠ 0 := by simpa using hne
    rw [List.map_congr_left hshare]
    have hkeys : (((perAccount (byAcct samples period)
        (contributionCounts (inPeriod samples period) swaps) (inPeriod samples period).length period
          params).map Prod.fst).map fun acct =>
            (inPeriod samples period).countP fun s => activeAccount swaps s == acct).sum =
        (inPeriod samples period).length := sum_countP_perAccount
    rw [List.map_map] at hkeys
    have hsum := sum_map_div
      ((aggregateWithRoster samples swaps period params roster).perAccount.map Prod.fst)
      (fun acct => (inPeriod samples period).countP fun s => activeAccount swaps s == acct)
      (inPeriod samples period).length
    rw [List.map_map, List.map_map] at hsum
    refine hsum.trans ?_
    change ((((perAccount (byAcct samples period) _ _ period params).map _).sum : ℕ) : ℚ) / _ = 1
    rw [hkeys, div_self hpos]
  · exact hshare

end Shares

/-- The report is that of the observations in any order that keeps each account's and the swaps'
within a second, and the shares are the parts of the observations that each account was active for.
-/
theorem report_of_observations (period : Period) (params : AggregateParams)
    (roster : Option (List String)) :
    (∀ samples samples' swaps swaps', Reordered period samples samples' → SwapsReordered swaps swaps' →
      aggregateWithRoster samples swaps period params roster =
        aggregateWithRoster samples' swaps' period params roster) ∧
      ∀ samples swaps, FairShares (inPeriod samples period) swaps
        (aggregateWithRoster samples swaps period params roster) := by
  constructor
  · intro samples samples' swaps swaps' hsamples hswaps
    have hobserved : (inPeriod samples period).Perm (inPeriod samples' period) :=
      inPeriod_perm hsamples.perm
    have hcount : (swaps.countP fun e => period.contains e.ts && e.kind != .preempt) =
        swaps'.countP fun e => period.contains e.ts && e.kind != .preempt := hswaps.perm.countP_eq _
    unfold aggregateWithRoster rosterStats
    simp only [byAcct_congr hsamples, contributionCounts_congr hobserved hswaps,
      hobserved.length_eq, swapBreakdown_congr hswaps.perm, hcount]
  · intro samples swaps
    exact fairShares roster

def reading (ts : ℤ) (session : ℚ) : Sample where
  ts
  provider := "claude"
  acct := "a"
  session := some session
  weekly := none

def fiveMinutes : Period := ⟨0, 300⟩

def plainParams : AggregateParams where
  pollIntervalSecs := 300
  sessionCap := 1
  highThreshold := 1
  staleAfterSecs := 300
  viability := none

def laterSwap : SwapEvent where
  ts := 10
  source := ['a']
  target := ['b']
  kind := .session

/-- Of two readings in one second the last one stands. And what is observed before the first swap
falls to the account that it leaves. -/
theorem tied_readings_and_first_origin :
    [reading 0 1, reading 0 0].Perm [reading 0 0, reading 0 1] ∧
    aggregateWithRoster [reading 0 1, reading 0 0] [] fiveMinutes plainParams none ≠
      aggregateWithRoster [reading 0 0, reading 0 1] [] fiveMinutes plainParams none ∧
    ∃ entry ∈ (aggregateWithRoster [reading 0 0] [laterSwap] fiveMinutes plainParams none).perAccount,
      entry.2.contributionShare ≠ ([reading 0 0].countP (fun s =>
        (latest SwapEvent.ts s.ts [laterSwap]).map (String.ofList ∘ SwapEvent.target) ==
          some entry.1) : ℕ) / [reading 0 0].length := by
  refine ⟨List.Perm.swap _ _ _, ?_, ?_⟩
  · intro h
    have hcap := congrArg (fun r => r.perAccount.map fun e => e.2.timeAtCapSecs) h
    have hlow : ¬(1 : ℚ) ≤ 0 := by norm_num
    simp [aggregateWithRoster, perAccount, byAcct, groups, inPeriod, reading, fiveMinutes,
      Period.contains, contributionCounts, activeFor, activeAt, sortSwaps, accountStats, timeAtCap,
      validityWindows, nextTs, sortByTs, atCap, atLeast, plainParams, List.filter_cons, hlow] at hcap
  · simp [aggregateWithRoster, perAccount, byAcct, groups, inPeriod, reading, fiveMinutes,
      Period.contains, contributionCounts, activeFor, activeAt, sortSwaps, laterSwap,
      accountStats, shareOf, latest]

end Sessiometer.Stats
