import Sessiometer.Swap.Engine

/-! # The daemon's carried state

What the daemon remembers from tick to tick, the settings it runs under, and the events it logs. -/

namespace Sessiometer

open Effects

inductive SwapReason where
  | session
  | weekly
  | manual
  | forced
  | blindPreempt
  | velocityPreempt
deriving DecidableEq

inductive BackoffClass where
  | rateLimited
  | transient
deriving DecidableEq

inductive PollRefreshTrigger where
  | poll401
  | recovery
deriving DecidableEq

inductive KeepWarmTrigger where
  | proactive
  | reactive
  | recovery
deriving DecidableEq

inductive RefreshEventOutcome where
  | refreshed (rotated : Bool)
  | refreshedNotReStashed (rotated : Bool)
  | noChange
  | dead
  | error
deriving DecidableEq

inductive RefreshEventReason where
  | spawnFailed
  | readbackUnreadable
  | malformed
  | timeout
  | unresolved
deriving DecidableEq

inductive ExpiryHorizon where
  | unknown
  | beyond
  | within
  | lapsed
deriving DecidableEq

inductive ExpiryProvenance where
  | firstObservation
  | myRefresh
  | externalChange
  | readSourceSwitched
  | canonicalRestash
deriving DecidableEq

inductive CredentialReadSource where
  | canonical
  | stash
deriving DecidableEq

def CredentialReadSource.forPoll (active : Bool) : CredentialReadSource :=
  if active then .canonical else .stash

/-- The extrapolation behind a projected swap. -/
structure SwapProjection where
  projectedPct : ℚ
  ratePctPerSec : ℚ
  horizonSecs : ℕ
  ceilingPct : ℚ
deriving DecidableEq

structure BlindVelocity where
  ratePctPerSec : ℚ
  inflation : ℚ
  ceilingPct : ℚ
deriving DecidableEq

inductive Event where
  | swap (source target : String) (reason : SwapReason) (sessionPct : Option ℕ)
      (projection : Option SwapProjection)
  | reStash (account : String)
  | allExhausted (hold : String) (cause : SwapReason) (resetsAt : Option Int)
  | allExhaustedCleared
  | activeDeadNoTarget (hold : String) (cause : SwapReason) (resetsAt : Option Int)
  | activeDeadNoTargetCleared
  | monitor401 (account : String) (consecutive : ℕ)
  | credentialDead (account : String)
  | emergencySwap (source target : String)
  | credentialRestored (account : String)
  | credentialUnrecoverable (account : String)
  | canonicalScrubbed (account : Option String)
  | canonicalRestored (account : Option String)
  | canonicalRecovered (account : String)
  | canonicalRecoveryExhausted (account : Option String)
  | canaryDrift (displayed matched : String) (overridden : Bool)
  | canaryUnparseableCanonical (overridden : Bool)
  | canaryOnlineProbe (verdict : String) (refused : Bool)
  | canaryAmbiguous (count : ℕ)
  | canaryCleared
  | keychainLockedWait
  | usageScopeFail (account : String)
  | pollRefresh (account : String) (trigger : PollRefreshTrigger) (outcome : RefreshEventOutcome)
  | keepWarm (account : String) (trigger : KeepWarmTrigger) (outcome : RefreshEventOutcome)
  | uncapturedLogin (accountUuid : Option String)
  | usageBackoff (account : String) (kind : BackoffClass) (consecutive : ℕ)
      (retryAfterSecs : Option ℕ) (backoffSecs : ℕ)
  | usageBackoffCleared (account : String)
  | exhaustedSlowPoll (account : String) (windowSecs : ℕ)
  | exhaustedSlowPollCleared (account : String)
  | nearLimitPollCoverage (account : String) (subIntervalSecs : ℚ) (capSecs : ℕ)
  | usageVelocity (account : String) (sessionDeltaPct weeklyDeltaPct : Option Int)
      (elapsedSecs : ℕ)
  | blindWindow (account : String) (durationSecs : ℕ) (sessionPct sessionAtRecovery : Option ℕ)
      (nearLimit : Bool) (velocity : Option BlindVelocity) (sessionHighWaterPct : Option ℕ)
  | blindEnter (account : String) (sessionPct weeklyPct : Option ℕ) (wasActive nearLimit : Bool)
  | blindExit (account : String) (durationSecs : ℕ) (sessionPct sessionAtRecovery : Option ℕ)
      (weeklyPct weeklyAtRecovery : Option ℕ) (wasActive swappedAway nearLimit : Bool)
  | blindGateEligible (account : String) (viableTarget : Bool) (blindSecs sessionPct : ℕ)
  | blindPreemptReserveHold (account : String) (retryAfterSecs blindSecs : ℕ)
  | retryAfterWalk (account : String) (swaps windowSecs retryAfterSecs : ℕ)
  | credentialExpiryHorizon (account : String) (state : ExpiryHorizon) (expiresAt : Int)
      (horizonSecs : ℕ)
  | credentialExpiryObserved (account : String) (provenance : ExpiryProvenance)
      (before : Option Int) (after : Int) (grantReplaced : Option Bool)
  | observationGapEnter (account : String) (elapsedSecs thresholdSecs : ℕ) (wasActive : Bool)
  | observationGapExit (account : String) (elapsedSecs : ℕ) (wasActive swappedAway : Bool)
  | refresh (account : String) (outcome : RefreshEventOutcome) (expiresBefore expiresAfter : Option Int)
      (reason : Option RefreshEventReason) (backoffSecs : Option ℕ)
  | refreshBinaryResolved (path : String)
  | refreshSystemicFailure (consecutive : ℕ)
  | refreshPreflightUnresolved
  | refreshSystemicRecovered
deriving DecidableEq

inductive TickAction where
  | held
  | swapped (source target : ℕ)
  | emergencySwapped (source target : ℕ)
  | preemptivelySwapped (source target : ℕ)
  | velocityPreemptivelySwapped (source target : ℕ)
  | activeDeadNoTarget
  | canonicalAdopted (target : ℕ)
  | noViableTarget
  | skippedActiveUnknown
  | skippedActiveUnavailable
  | skippedCooldown
  | swapFailed
  | keychainLocked
deriving DecidableEq

inductive CanaryStatus where
  | ok
  | inconclusive
  | notFound
  | ambiguous (count : ℕ)
  | drift (displayed matched : String) (overridden : Bool)
  | refusedUnparseableCanonical
deriving DecidableEq

structure VelocityEma where
  rate : ℚ
  samples : ℕ
deriving DecidableEq

/-- The highest session reading seen in one session window. -/
structure SessionHighWater where
  window : Int
  session : ℚ
deriving DecidableEq

structure ParkedLanding where
  armedAt : Nanos
  decisionPct : ℕ
deriving DecidableEq

structure BlindAnchor where
  session : Option ℚ
  weekly : Option ℚ
  at' : Nanos
  wasActive : Bool
  nearLimit : Bool
deriving DecidableEq

structure ObservationGapAnchor where
  at' : Nanos
  wasActive : Bool
deriving DecidableEq

structure LastGood where
  session : Option ℚ
  weekly : Option ℚ
  at' : Nanos
deriving DecidableEq

structure ActiveDesignation where
  accountUuid : String
  at' : Nanos
deriving DecidableEq

structure BlindPreemptSwapRecord where
  source : String
  target : String
  lastKnownSessionPct : ℕ
  at' : Nanos
deriving DecidableEq

structure LandingOvershootRecord where
  fromLabel : String
  decisionPct : ℕ
  landingPct : ℕ
  at' : Nanos
deriving DecidableEq

structure AccountHealth where
  consec401 : ℕ := 0
  quarantined : Bool := false
  recoverySuccesses : ℕ := 0
  unrecoverableSignaled : Bool := false
  accessExpiresAt : Option Int := none
  pollExpiresAt : Option Int := none
  refreshTokenExpiresAt : Option Int := none
  refreshTokenExpiresAtBaseline : Option Int := none
  refreshTokenExpiresAtBaselineSource : Option CredentialReadSource := none
  ownRefreshSinceExpiryObservation : Bool := false
  signaledExpiryHorizon : Option ExpiryHorizon := none
  lastRefreshOutcome : Option RefreshEventOutcome := none
  consecutiveRefreshFailures : ℕ := 0
  lastKeepWarmAttempt : Option Nanos := none
  pollBackoffStreak : ℕ := 0
  pollBackoffUntil : Option Nanos := none
  pollBackoffRetryAfter : Option Nanos := none
  exhaustedPollUntil : Option Nanos := none
deriving DecidableEq

structure AccountRuntime where
  health : AccountHealth := {}
  lastReading : Option Usage := none
  lastReadingAt : Option Nanos := none
  sessionVelocity : Option VelocityEma := none
  parkedLanding : Option ParkedLanding := none
  sessionHighWater : Option SessionHighWater := none
  blindAnchor : Option BlindAnchor := none
  observationGap : Option ObservationGapAnchor := none
  polledOnce : Bool := false
deriving DecidableEq

inductive Jitter where
  | none
  | uniform (spread : ℚ)
  | normal (stddev : ℚ)
deriving DecidableEq

structure Strategy where
  base : ℚ
  jitter : Jitter
deriving DecidableEq

/-- What the daemon is configured with; nothing in a tick writes it. -/
structure Settings where
  sessionCeilingStrategy : Strategy
  weeklyCeilingStrategy : Strategy
  weeklyCeilingBase : ℚ
  sessionCeilingBase : ℚ
  targetMaxSessionUsage : ℚ
  sessionBlindSwapSecs : ℕ
  sessionBlindRiskBand : ℚ
  exhaustedPollSecs : ℕ
  nearLimitPollSecs : ℕ
  sessionVelocityHorizonSecs : ℕ
  sessionVelocityMinProjectAbove : ℚ
  sessionVelocityEmaAlpha : ℚ
  cooldownStrategy : Strategy
  cooldownBase : Nanos
  pollStrategy : Strategy
  tiebreakSeed : Option UInt64
  monitor401N : ℕ
  monitorRecoveryM : ℕ
  canaryDriftOverride : Bool
  canaryNostashmatchOverride : Bool
  canaryOnlineProbe : Bool
  canaryOnlineProbeStrict : Bool
  pollRefresh : Bool
  refreshEnabled : Bool
  keepWarm : Bool
  keepWarmCadence : Nanos
  proactiveKeepWarm : Bool
  credentialExpiryHorizonSecs : ℕ

/-- The daemon: its roster, its settings, and the state it carries between ticks. `events` is the
vector that the methods of one tick push to. -/
structure Daemon where
  roster : List Account
  settings : Settings
  events : List Event := []
  ticks : ℕ := 0
  active : Option ℕ := none
  lastSwap : Option Nanos := none
  activeDesignation : Option ActiveDesignation := none
  lastBlindPreemptSwap : Option BlindPreemptSwapRecord := none
  lastLandingOvershoot : Option LandingOvershootRecord := none
  retryAfterSwaps : List Nanos := []
  signaledRetryAfterReserve : Bool := false
  signaledRetryAfterWalk : Bool := false
  accounts : ℕ → AccountRuntime := fun _ => {}
  signaledAllExhausted : Bool := false
  signaledActiveDeadNoTarget : Bool := false
  canonicalWatch : CanonicalWatch := .new
  lockBackoff : Option Nanos := none
  signaledKeychainLocked : Bool := false
  signaledCanonicalScrubbed : Bool := false
  scrubAdoptCount : ℕ := 0
  scrubAdoptWindowStart : Option Nanos := none
  signaledScrubAdoptExhausted : Bool := false
  lastGood : Option LastGood := none
  blindGateSignaled : Bool := false
  nearLimitFastPoll : Bool := false
  pollSchedule : List ℕ := []
  pollPos : ℕ := 0
  warmedUp : Bool := false
  canary : Option CanaryStatus := none

/-- A method of the daemon. -/
abbrev DaemonM := StateT Daemon Seam

namespace Daemon

def setAccount (d : Daemon) (i : ℕ) (f : AccountRuntime → AccountRuntime) : Daemon :=
  { d with accounts := Function.update d.accounts i (f (d.accounts i)) }

def setHealth (d : Daemon) (i : ℕ) (f : AccountHealth → AccountHealth) : Daemon :=
  d.setAccount i (fun a => { a with health := f a.health })

def emit (d : Daemon) (e : Event) : Daemon := { d with events := d.events ++ [e] }

def emitIf (d : Daemon) (c : Bool) (e : Event) : Daemon := if c then d.emit e else d

/-- The roster entry under an index. -/
def account (d : Daemon) (i : ℕ) : Account := d.roster.getD i ⟨"", "", false⟩

def enabledMask (d : Daemon) (i : ℕ) : Bool := (d.account i).enabled

end Daemon

/-- Runs a fallible operation of the seams for its outcome. -/
def attempt {α : Type} (p : Attempt α) : DaemonM (Except Error α) := StateT.lift p.run

def clockNow : DaemonM Nanos := StateT.lift (Prog.call (S := Seams) .now)

def wallClockNowMs : DaemonM Int := StateT.lift (Prog.call (S := Seams) .epochNow)

/-- `millis_to_secs`: the division truncates toward zero. -/
def millisToSecs (ms : Int) : Int := ms.tdiv 1000

def wallClockNowSecs : DaemonM Int := do
  let ms ← wallClockNowMs
  pure (millisToSecs ms)

def emit (e : Event) : DaemonM Unit := modify (·.emit e)

def u32Max : ℕ := 4294967295

/-- `u32::saturating_add`. -/
def saturatingAdd32 (a b : ℕ) : ℕ := min (a + b) u32Max

/-- `saturating_duration_since`. -/
def saturatingDurationSince (later earlier : Nanos) : Nanos := later - earlier

/-- `Duration::as_secs`. -/
def asSecs (d : Nanos) : ℕ := d / 1000000000

/-- `to_pct`: the nearest whole percent, half away from zero, clamped to `0..=100`. -/
def toPct (fraction : ℚ) : ℕ :=
  min 100 (if fraction < 0 then 0 else (fraction * 100 + 1 / 2).floor.toNat)

def toPctExact (fraction : ℚ) : ℚ := fraction * 100

end Sessiometer
