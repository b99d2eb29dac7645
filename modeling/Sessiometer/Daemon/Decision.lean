import Sessiometer.Daemon.State
import Mathlib.Algebra.Order.Field.Rat
import Mathlib.Data.Rat.Floor

/-! # The swap decision

When an account is to be left, and what a reading is worth when it contradicts the window's own
high-water mark. -/

namespace Sessiometer

open Effects

inductive SwapDecision where
  | hold
  | swap
deriving DecidableEq

/-- `is_some_and(|x| x >= line)`. -/
def atLeast (x : Option ℚ) (line : ℚ) : Bool := x.any (fun v => decide (line ≤ v))

/-- `is_none_or(|x| x < line)`, where no line stands for an infinite one. -/
def isBelow (x : Option ℚ) (line : Option ℚ) : Bool :=
  x.all (fun v => line.all (fun l => decide (v < l)))

def Usage.decide (usage : Usage) (sessionThreshold weeklyThreshold : ℚ) : SwapDecision :=
  if atLeast usage.session sessionThreshold || atLeast usage.weekly weeklyThreshold then .swap
  else .hold

def tailMargin : ℚ := 6 / 100

def effectiveCeiling (ceiling : ℚ) : ℚ := max (ceiling - tailMargin) 0

def weeklyTailMargin : ℚ := 1 / 100

def weeklyEffectiveCeiling (ceiling : ℚ) : ℚ := max (ceiling - weeklyTailMargin) 0

structure ViabilityBoundary where
  session : ℚ
  weekly : ℚ
deriving DecidableEq

def viabilityBoundary (sessionCeiling targetMaxSessionUsage weeklyCeiling : ℚ) :
    ViabilityBoundary where
  session := min sessionCeiling targetMaxSessionUsage
  weekly := weeklyEffectiveCeiling weeklyCeiling

def reactiveReobservationGapSecs : ℚ := 313

def reactivePollGapSecs (nearLimitPollSecs : ℕ) : ℚ :=
  if nearLimitPollSecs = 0 then 0 else max (2 * nearLimitPollSecs) reactiveReobservationGapSecs

def reactiveSessionThreshold (effective velocity pollGapSecs : ℚ) : ℚ :=
  effective - velocity * pollGapSecs

def vPeakSessionFracPerSec : ℚ := 695 / 100 / 100 / 60

def composedSwapLookaheadSecs (nearLimitPollSecs horizonSecs : ℕ) : ℚ :=
  max (reactivePollGapSecs nearLimitPollSecs) horizonSecs

def peakRunwayReserveBound (ceiling : ℚ) (nearLimitPollSecs horizonSecs : ℕ) : ℚ :=
  effectiveCeiling ceiling -
    vPeakSessionFracPerSec * composedSwapLookaheadSecs nearLimitPollSecs horizonSecs

def sessionWindowMatchSecs : ℕ := 60

namespace SessionHighWater

def matchesWindow (mark : SessionHighWater) (stamp : Int) : Bool :=
  decide ((mark.window - stamp).natAbs ≤ sessionWindowMatchSecs)

/-- The mark keeps the stamp it was opened with, not the latest one. -/
def fold (mark : Option SessionHighWater) (usage : Usage) : Option SessionHighWater :=
  match usage.sessionResetsAt, usage.session with
  | some window, some session =>
    match mark with
    | some prev =>
      if prev.matchesWindow window then some ⟨prev.window, max prev.session session⟩
      else some ⟨window, session⟩
    | none => some ⟨window, session⟩
  | _, _ => none

def appliesTo (mark : SessionHighWater) (usage : Usage) : Option ℚ :=
  match usage.sessionResetsAt with
  | some stamp => if mark.matchesWindow stamp then some mark.session else none
  | none => none

end SessionHighWater

def isStaleLow (mark : Option SessionHighWater) (usage : Usage) : Bool :=
  match mark.bind (·.appliesTo usage) with
  | some highWater => usage.session.any (fun s => decide (s < highWater))
  | none => false

def plausibleSession (mark : Option SessionHighWater) (usage : Usage) : Usage :=
  match mark.bind (·.appliesTo usage), usage.session with
  | some highWater, some session =>
    if session < highWater then { usage with session := some highWater } else usage
  | _, _ => usage

def plausibleAnchorSession (mark : Option SessionHighWater) (anchorSession : Option ℚ) :
    Option ℚ :=
  anchorSession.map (fun s =>
    match mark with
    | some m => if s < m.session then m.session else s
    | none => s)

def minVelocitySamples : ℕ := 2

def AccountRuntime.sustainedSessionVelocity (a : AccountRuntime) : Option VelocityEma :=
  a.sessionVelocity.filter (fun v => minVelocitySamples ≤ v.samples)

def blindGateSecs : ℕ := 300

def blindGateRiskBand : ℚ := 60 / 100

def blindGateArmed (blindSecs : ℕ) (anchorSession : Option ℚ) : Bool :=
  decide (blindGateSecs < blindSecs) && atLeast anchorSession blindGateRiskBand

/-- The back-off the server itself asked for, while it lasts. -/
def serverRetryAfterHolding (health : AccountHealth) (at' : Nanos) : Option Nanos :=
  match health.pollBackoffRetryAfter, health.pollBackoffUntil with
  | some retryAfter, some until' => if at' < until' then some retryAfter else none
  | _, _ => none

/-! ## Jittered draws -/

def nextUnit : DaemonM ℚ := StateT.lift (Prog.call (S := Seams) .nextUnit)

/-- `standard_normal`: the Box–Muller transform of two samples. -/
def standardNormal : DaemonM ℚ := StateT.lift (Prog.call (S := Seams) .nextNormal)

def clamp (raw lo hi : ℚ) : ℚ := min (max raw lo) hi

namespace Strategy

def draw (s : Strategy) (lo hi : ℚ) : DaemonM ℚ := do
  match s.jitter with
  | .none => pure (clamp s.base lo hi)
  | .uniform spread => do
    let u ← nextUnit
    pure (clamp (s.base + (2 * u - 1) * spread) lo hi)
  | .normal stddev => do
    let z ← standardNormal
    pure (clamp (s.base + z * stddev) lo hi)

def drawDownward (s : Strategy) (lo hi : ℚ) : DaemonM ℚ := do
  match s.jitter with
  | .none => pure (clamp s.base lo hi)
  | .uniform spread => do
    let u ← nextUnit
    pure (clamp (s.base - u * spread) lo hi)
  | .normal stddev => do
    let z ← standardNormal
    pure (clamp (s.base - |z| * stddev) lo hi)

end Strategy

def sessionCeilingPctLo : ℚ := 50
def sessionCeilingPctHi : ℚ := 99
def weeklyCeilingPctLo : ℚ := 50
def weeklyCeilingPctHi : ℚ := 99
def cooldownSecsLo : ℚ := 5
def cooldownSecsHi : ℚ := 3600
def pollSecsLo : ℚ := 5
def pollSecsHi : ℚ := 3600

/-- `Duration::from_secs_f64`, to the nearest nanosecond. -/
def fromSecs (s : ℚ) : Nanos := (s * 1000000000 + 1 / 2).floor.toNat

end Sessiometer
