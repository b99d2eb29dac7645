import Mathlib.Data.String.Basic
import Sessiometer.Daemon.Decision
import Sessiometer.Spans.Meet
import Sessiometer.Stats.SwapHistory
import Sessiometer.Store.Ordered
import Sessiometer.Store.Rollup

/-! # The usage report

Samples and swaps are aggregated over a period: statistics for each account, each account's share of
the observations, and two censuses of the roster, one of the accounts that run hot and one of those that
cannot be swapped to. A reading stands for the time up to the next one, and no longer than it can be
trusted. -/

namespace Sessiometer.Stats

open Framing Ledger Spans

/-- The instants from `start` on, up to and not at `stop`. -/
structure Period where
  start : ℤ
  stop : ℤ
deriving DecidableEq

def Period.contains (period : Period) (ts : ℤ) : Bool :=
  decide (period.start ≤ ts) && decide (ts < period.stop)

def Period.duration (period : Period) : ℤ := max (period.stop - period.start) 0

structure AggregateParams where
  pollIntervalSecs : ℤ
  sessionCap : ℚ
  highThreshold : ℚ
  staleAfterSecs : ℤ
  viability : Option ViabilityBoundary

structure DimStats where
  mean : ℚ
  peak : ℚ
  p95 : ℚ
deriving DecidableEq

structure AccountStats where
  seen : ℕ
  expected : ℚ
  coverage : ℚ
  session : DimStats
  weekly : DimStats
  capHits : ℕ
  timeAtCapSecs : ℤ
  contributionShare : ℚ
deriving DecidableEq

structure SwapBreakdown where
  session : ℕ
  weekly : ℕ
  manual : ℕ
  forced : ℕ
  emergency : ℕ
deriving DecidableEq

structure RosterStats where
  swapCount : ℕ
  swaps : SwapBreakdown
  allHighEpisodes : ℕ
  allHighSecs : ℤ
  allHighCoveredSecs : ℤ
  highThreshold : ℚ
  capacityHolds : ℕ
  capacityHoldsSession : ℕ
  capacityHoldsWeekly : ℕ
  capacityHoldSecsLowerBound : ℤ
  capacityHoldCoveredSecs : ℤ
  capacitySessionLine : ℚ
  capacityWeeklyLine : ℚ
deriving DecidableEq

structure UsageReport where
  period : Period
  perAccount : List (String × AccountStats)
  roster : RosterStats
deriving DecidableEq

/-! ## The samples -/

def inPeriod (samples : List Sample) (period : Period) : List Sample :=
  samples.filter fun s => period.contains s.ts

def sortByTs (group : List Sample) : List Sample := sorted Sample.ts group

/-- The samples of the period by account, each account's in the order of their times. -/
def byAcct (samples : List Sample) (period : Period) : List (String × List Sample) :=
  (groups Sample.acct (inPeriod samples period)).map fun g => (g.1, sortByTs g.2)

/-- The time of the reading that follows, or the end of the period. -/
def nextTs (period : Period) (rest : List Sample) : ℤ := (rest.head?.map Sample.ts).getD period.stop

def validityWindows (period : Period) (staleAfter : ℤ) : List Sample → List (ℤ × ℤ)
  | [] => []
  | s :: rest =>
    let hi := min (min (nextTs period rest) (s.ts + max staleAfter 0)) period.stop
    (s.ts, max hi s.ts) :: validityWindows period staleAfter rest

/-! ## Statistics -/

def maxOf (xs : List ℚ) : ℚ := xs.foldl max 0

def DimStats.zero : DimStats := ⟨0, 0, 0⟩

def dimStats (xs : List ℚ) : DimStats where
  mean := meanOf xs
  peak := maxOf xs
  p95 := p95Of xs

def atCap (params : AggregateParams) (s : Sample) : Bool := atLeast s.session params.sessionCap

def timeAtCap (group : List Sample) (period : Period) (params : AggregateParams) : ℤ :=
  ((((validityWindows period params.staleAfterSecs group).zip group).filter
    fun w => atCap params w.2).map fun w => w.1.2 - w.1.1).sum

/-! ## The active account -/

/-- The target of the last swap at or before the instant, else the account that was active before.
-/
def lastTarget (active : Log.Text) (ts : ℤ) : List SwapEvent → Log.Text
  | [] => active
  | e :: rest => if e.ts ≤ ts then lastTarget e.target ts rest else active

def activeAt (sorted : List SwapEvent) (ts : ℤ) : Option Log.Text :=
  match sorted with
  | [] => none
  | first :: rest =>
    if ts < first.ts then some first.source
    else some (lastTarget first.target ts (first :: rest))

def activeFor (sorted : List SwapEvent) (s : Sample) : String :=
  ((activeAt sorted s.ts).map String.ofList).getD s.acct

def sortSwaps (swaps : List SwapEvent) : List SwapEvent := sorted SwapEvent.ts swaps

/-- How many observations were made while each account was the active one. -/
def contributionCounts (observed : List Sample) (swaps : List SwapEvent) : List (String × ℕ) :=
  (groups id (observed.map (activeFor (sortSwaps swaps)))).map fun g => (g.1, g.2.length)

def shareOf (contribution : List (String × ℕ)) (acct : String) (totalObs : ℕ) : ℚ :=
  if totalObs = 0 then 0 else ((contribution.lookup acct).getD 0 : ℕ) / totalObs

def swapBreakdown (swaps : List SwapEvent) (period : Period) : SwapBreakdown :=
  let count kind := (swaps.filter fun e => period.contains e.ts).countP fun e => e.kind == kind
  { session := count .session
    weekly := count .weekly
    manual := count .manual
    forced := count .forced
    emergency := count .emergency }

/-! ## The censuses -/

/-- What a sample says of its account on one axis: how long it can be trusted, and the tag of what
is held by it, if anything is. -/
structure Reading (τ : Type) where
  horizon : ℤ
  held : Option τ

/-- The stretches that the samples of an account stand for, of the held ones and of all. -/
def windowsOf {τ : Type} (reading : Sample → Option (Reading τ)) (period : Period) :
    List Sample → List (Span τ) × List (Span Unit)
  | [] => ([], [])
  | s :: rest =>
    let more := windowsOf reading period rest
    match reading s with
    | none => more
    | some r =>
      let hi := max (min (min (nextTs period rest) r.horizon) period.stop) s.ts
      (match r.held with
        | none => more.1
        | some tag => ⟨s.ts, hi, tag⟩ :: more.1,
       ⟨s.ts, hi, ()⟩ :: more.2)

def mergeIntervals (ivs : List (Span Unit)) : List (Span Unit) := merge (fun _ _ => ()) ivs

/-- A high reading is trusted up to its session's reset. -/
def highReading (staleAfter : ℤ) (highThreshold : ℚ) (s : Sample) : Option (Reading Unit) :=
  s.session.map fun session =>
    let cadenceHi := s.ts + max staleAfter 0
    if highThreshold ≤ session then
      { horizon := (s.sessionResetsAt.map (max cadenceHi)).getD cadenceHi, held := some () }
    else { horizon := cadenceHi, held := none }

def highWindows (group : List Sample) (period : Period) (staleAfter : ℤ) (highThreshold : ℚ) :
    List (Span Unit) × List (Span Unit) :=
  let windows := windowsOf (highReading staleAfter highThreshold) period group
  (mergeIntervals windows.1, mergeIntervals windows.2)

inductive HoldCause where
  | session
  | weekly
deriving DecidableEq

/-- A reading that is blocked on both axes is relieved by the later reset. -/
def reliefOf (s : Sample) (sessionBlocked weeklyBlocked : Bool) : Option (ℤ × HoldCause) :=
  match sessionBlocked, weeklyBlocked with
  | true, true =>
    s.sessionResetsAt.bind fun session =>
      s.weeklyResetsAt.map fun weekly =>
        if session ≤ weekly then (weekly, .weekly) else (session, .session)
  | true, false => s.sessionResetsAt.map fun session => (session, .session)
  | false, true => s.weeklyResetsAt.map fun weekly => (weekly, .weekly)
  | false, false => none

def tieCause (a b : HoldCause) : HoldCause :=
  if a = .weekly ∨ b = .weekly then .weekly else .session

def mergeTagged (ivs : List (Span HoldCause)) : List (Span HoldCause) := merge tieCause ivs

/-- A blocked reading is trusted up to its relief. -/
def blockedReading (staleAfter : ℤ) (boundary : ViabilityBoundary) (s : Sample) :
    Option (Reading HoldCause) :=
  let sessionBlocked := atLeast s.session boundary.session
  let weeklyBlocked := atLeast s.weekly boundary.weekly
  let relief := reliefOf s sessionBlocked weeklyBlocked
  let cadenceHi := s.ts + max staleAfter 0
  some
    { horizon := (relief.map fun r => max cadenceHi r.1).getD cadenceHi
      held :=
        if sessionBlocked || weeklyBlocked then
          some ((relief.map Prod.snd).getD (if weeklyBlocked then .weekly else .session))
        else none }

def blockedWindows (group : List Sample) (period : Period) (staleAfter : ℤ)
    (boundary : ViabilityBoundary) : List (Span HoldCause) × List (Span Unit) :=
  let windows := windowsOf (blockedReading staleAfter boundary) period group
  (mergeTagged windows.1, mergeIntervals windows.2)

/-- The roster, where there is one, else the accounts that have samples in the period. -/
def censusSet (byAcct : List (String × List Sample)) (roster : Option (List String)) : List String :=
  roster.getD (byAcct.map Prod.fst)

def groupOf (byAcct : List (String × List Sample)) (handle : String) : List Sample :=
  (byAcct.lookup handle).getD []

def totalSecs {τ : Type} (spans : List (Span τ)) : ℤ := (spans.map fun s => s.hi - s.lo).sum

/-- An account whose samples have no session window at all is left out of the census. -/
def highCensus (byAcct : List (String × List Sample)) (roster : Option (List String)) :
    List String :=
  (censusSet byAcct roster).filter fun handle =>
    (byAcct.lookup handle).all fun group => group.any fun s => s.session.isSome

/-- How often all the accounts ran hot, for how long, and how long all of them were known. -/
def allHigh (byAcct : List (String × List Sample)) (roster : Option (List String)) (period : Period)
    (params : AggregateParams) : ℕ × ℤ × ℤ :=
  let census := highCensus byAcct roster
  if census.isEmpty then (0, 0, 0)
  else
    let acc := joint (fun _ _ => ()) (fun handle =>
      highWindows (groupOf byAcct handle) period params.staleAfterSecs params.highThreshold) none census
    let episodes := mergeIntervals acc.1
    let covered := mergeIntervals acc.2
    (episodes.length, totalSecs episodes, totalSecs covered)

structure CapacityHoldCensus where
  count : ℕ
  session : ℕ
  weekly : ℕ
  secs : ℤ
  coveredSecs : ℤ
deriving DecidableEq

def CapacityHoldCensus.none : CapacityHoldCensus := ⟨0, 0, 0, 0, 0⟩

def causeCount (episodes : List (Span HoldCause)) (cause : HoldCause) : ℕ :=
  episodes.countP fun e => e.tag == cause

def capacityHolds (byAcct : List (String × List Sample)) (roster : Option (List String))
    (period : Period) (params : AggregateParams) : CapacityHoldCensus :=
  match params.viability with
  | .none => .none
  | some boundary =>
    let census := censusSet byAcct roster
    if census.isEmpty then .none
    else
      let acc := joint tieCause (fun handle =>
        blockedWindows (groupOf byAcct handle) period params.staleAfterSecs boundary) .none census
      { count := acc.1.length
        session := causeCount acc.1 .session
        weekly := causeCount acc.1 .weekly
        secs := totalSecs acc.1
        coveredSecs := totalSecs acc.2 }

/-! ## The report -/

def expectedSamples (period : Period) (params : AggregateParams) : ℚ :=
  max ((period.duration : ℚ) / (max params.pollIntervalSecs 1 : ℤ)) 1

def accountStats (group : List Sample) (share : ℚ) (period : Period) (params : AggregateParams) :
    AccountStats :=
  let session := group.filterMap Sample.session
  let expected := expectedSamples period params
  { seen := group.length
    expected
    coverage := min (group.length / expected) 1
    session := dimStats session
    weekly := dimStats (group.filterMap Sample.weekly)
    capHits := session.countP fun v => decide (params.sessionCap ≤ v)
    timeAtCapSecs := timeAtCap group period params
    contributionShare := share }

/-- An account that was active and has no samples of its own. -/
def unsampledStats (share : ℚ) (period : Period) (params : AggregateParams) : AccountStats where
  seen := 0
  expected := expectedSamples period params
  coverage := 0
  session := .zero
  weekly := .zero
  capHits := 0
  timeAtCapSecs := 0
  contributionShare := share

/-- The accounts with samples and those that were active, in their order. -/
def perAccount (byAcct : List (String × List Sample)) (contribution : List (String × ℕ))
    (totalObs : ℕ) (period : Period) (params : AggregateParams) : List (String × AccountStats) :=
  (groups id (byAcct.map Prod.fst ++ contribution.map Prod.fst)).map fun entry =>
    let share := shareOf contribution entry.1 totalObs
    (entry.1, ((byAcct.lookup entry.1).map fun group => accountStats group share period params).getD
      (unsampledStats share period params))

def rosterStats (byAcct : List (String × List Sample)) (swaps : List SwapEvent) (period : Period)
    (params : AggregateParams) (roster : Option (List String)) : RosterStats :=
  let high := allHigh byAcct roster period params
  let holds := capacityHolds byAcct roster period params
  { swapCount := swaps.countP fun e => period.contains e.ts && e.kind != .preempt
    swaps := swapBreakdown swaps period
    allHighEpisodes := high.1
    allHighSecs := high.2.1
    allHighCoveredSecs := high.2.2
    highThreshold := params.highThreshold
    capacityHolds := holds.count
    capacityHoldsSession := holds.session
    capacityHoldsWeekly := holds.weekly
    capacityHoldSecsLowerBound := holds.secs
    capacityHoldCoveredSecs := holds.coveredSecs
    capacitySessionLine := (params.viability.map ViabilityBoundary.session).getD 0
    capacityWeeklyLine := (params.viability.map ViabilityBoundary.weekly).getD 0 }

def aggregateWithRoster (samples : List Sample) (swaps : List SwapEvent) (period : Period)
    (params : AggregateParams) (roster : Option (List String)) : UsageReport :=
  let groups := byAcct samples period
  let observed := inPeriod samples period
  { period
    perAccount :=
      perAccount groups (contributionCounts observed swaps) observed.length period params
    roster := rosterStats groups swaps period params roster }

end Sessiometer.Stats
