import Sessiometer.Daemon.State
import Sessiometer.Framing.Utf8
import Sessiometer.Log.Rfc3339

/-! # The records of the event log

An event as its line, the line appended to the file, and the two readers of the file: when the daemon last
swapped, and what the last refresh of each account came to. -/

namespace Sessiometer.Log

open Framing

/-! ## The writer -/

/-- The control characters of Unicode. -/
def isControl (c : Char) : Bool := c.toNat < 32 || 127 ≤ c.toNat && c.toNat < 160

def hexDigit (n : ℕ) : Char := "0123456789ABCDEF".toList.getD n '0'

def percentEncode (raw : Text) (needsEncoding : Char → Bool) : Text :=
  raw.flatMap fun c =>
    if needsEncoding c then
      (String.utf8EncodeChar c).flatMap fun byte => ['%', hexDigit (byte.toNat / 16), hexDigit (byte.toNat % 16)]
    else [c]

def singleLine (line : Text) : Text :=
  if line.any isControl then percentEncode line isControl else line

/-- A fraction with a fixed number of decimals, a tie to the even digit. -/
def fixed (decimals : ℕ) (q : ℚ) : Text :=
  let scaled := |q| * 10 ^ decimals
  let down := scaled.floor.toNat
  let n :=
    if scaled - down < 1 / 2 then down
    else if 1 / 2 < scaled - down then down + 1
    else if down % 2 = 0 then down
    else down + 1
  (if q < 0 then ['-'] else []) ++ Nat.toDigits 10 (n / 10 ^ decimals) ++ '.' :: padded decimals (n % 10 ^ decimals)

def decimal (n : ℤ) : Text := (if n < 0 then ['-'] else []) ++ Nat.toDigits 10 n.natAbs

/-- A name and its value. -/
abbrev Field := Text × Text

def fieldText (field : Field) : Text := ' ' :: field.1 ++ '=' :: field.2

def field (name : String) (value : Text) : Field := (name.toList, value)

def SwapReason.asStr : SwapReason → String
  | .session => "session"
  | .weekly => "weekly"
  | .manual => "manual"
  | .forced => "forced"
  | .blindPreempt => "blind_preempt"
  | .velocityPreempt => "velocity_preempt"

inductive RefreshEventOutcomeKind where
  | refreshed
  | refreshedNotReStashed
  | noChange
  | dead
  | error
deriving DecidableEq, Repr

def RefreshEventOutcomeKind.asStr : RefreshEventOutcomeKind → String
  | .refreshed => "refreshed"
  | .refreshedNotReStashed => "refreshed_not_restashed"
  | .noChange => "no_change"
  | .dead => "dead"
  | .error => "error"

def RefreshEventOutcomeKind.fromToken (token : Text) : Option RefreshEventOutcomeKind :=
  if token = "refreshed".toList then some .refreshed
  else if token = "refreshed_not_restashed".toList then some .refreshedNotReStashed
  else if token = "no_change".toList then some .noChange
  else if token = "dead".toList then some .dead
  else if token = "error".toList then some .error
  else none

def kind : RefreshEventOutcome → RefreshEventOutcomeKind
  | .refreshed _ => .refreshed
  | .refreshedNotReStashed _ => .refreshedNotReStashed
  | .noChange => .noChange
  | .dead => .dead
  | .error => .error

def rotated : RefreshEventOutcome → Option Bool
  | .refreshed rotated => some rotated
  | .refreshedNotReStashed rotated => some rotated
  | .noChange => none
  | .dead => none
  | .error => none

def RefreshEventReason.asStr : RefreshEventReason → String
  | .spawnFailed => "spawn_failed"
  | .readbackUnreadable => "readback_unreadable"
  | .malformed => "malformed"
  | .timeout => "timeout"
  | .unresolved => "unresolved"

def boolText (b : Bool) : Text := (if b then "true" else "false").toList

def systemTimeFromEpoch (secs : ℤ) : SystemTime := secs * 1000000000

/-- The events that neither reader looks into. -/
inductive OtherEvent where
  | reStash
  | allExhausted
  | allExhaustedCleared
  | activeDeadNoTarget
  | activeDeadNoTargetCleared
  | fleetRunwayLow
  | fleetRunwayRecovered
  | monitor401
  | credentialDead
  | credentialRestored
  | canonicalScrubbed
  | canonicalRestored
  | canonicalRecovered
  | canonicalRecoveryExhausted
  | canaryDrift
  | canaryUnparseableCanonical
  | canaryOnlineProbe
  | canaryAmbiguous
  | canaryCleared
  | credentialUnrecoverable
  | keychainLockedWait
  | usageScopeFail
  | pollRefresh
  | keepWarm
  | refreshSystemicFailure
  | refreshSystemicRecovered
  | refreshPreflightUnresolved
  | refreshBinaryResolved
  | credentialHealth
  | login
  | capture
  | plaintextFallback
  | usageRollup
  | usageGap
  | uncapturedLogin
  | exported
  | imported
  | usageBackoff
  | usageBackoffCleared
  | exhaustedSlowPoll
  | exhaustedSlowPollCleared
  | nearLimitPollCoverage
  | usageVelocity
  | blindWindow
  | blindEnter
  | blindExit
  | blindGateEligible
  | blindPreemptReserveHold
  | retryAfterWalk
  | credentialExpiryHorizon
  | credentialExpiryObserved
  | observationGapEnter
  | observationGapExit
  | rosterReload
  | daemonBuild
deriving DecidableEq, Repr

def OtherEvent.token : OtherEvent → String
  | .reStash => "restash"
  | .allExhausted => "all_exhausted"
  | .allExhaustedCleared => "all_exhausted_cleared"
  | .activeDeadNoTarget => "active_dead_no_target"
  | .activeDeadNoTargetCleared => "active_dead_no_target_cleared"
  | .fleetRunwayLow => "fleet_runway_low"
  | .fleetRunwayRecovered => "fleet_runway_recovered"
  | .monitor401 => "monitor_401"
  | .credentialDead => "credential_dead"
  | .credentialRestored => "credential_restored"
  | .canonicalScrubbed => "canonical_scrubbed"
  | .canonicalRestored => "canonical_restored"
  | .canonicalRecovered => "canonical_recovered"
  | .canonicalRecoveryExhausted => "canonical_recovery_exhausted"
  | .canaryDrift => "canary_drift"
  | .canaryUnparseableCanonical => "canary_unparseable_canonical"
  | .canaryOnlineProbe => "canary_online_probe"
  | .canaryAmbiguous => "canary_ambiguous"
  | .canaryCleared => "canary_cleared"
  | .credentialUnrecoverable => "credential_unrecoverable"
  | .keychainLockedWait => "keychain_locked_wait"
  | .usageScopeFail => "usage_scope_fail"
  | .pollRefresh => "poll_refresh"
  | .keepWarm => "keep_warm"
  | .refreshSystemicFailure => "refresh_systemic_failure"
  | .refreshSystemicRecovered => "refresh_systemic_recovered"
  | .refreshPreflightUnresolved => "refresh_preflight_unresolved"
  | .refreshBinaryResolved => "refresh_binary_resolved"
  | .credentialHealth => "credential_health"
  | .login => "login"
  | .capture => "capture"
  | .plaintextFallback => "plaintext_fallback"
  | .usageRollup => "usage_rollup"
  | .usageGap => "usage_gap"
  | .uncapturedLogin => "uncaptured_login"
  | .exported => "export"
  | .imported => "import"
  | .usageBackoff => "usage_backoff"
  | .usageBackoffCleared => "usage_backoff_cleared"
  | .exhaustedSlowPoll => "exhausted_slow_poll"
  | .exhaustedSlowPollCleared => "exhausted_slow_poll_cleared"
  | .nearLimitPollCoverage => "near_limit_poll_coverage"
  | .usageVelocity => "usage_velocity"
  | .blindWindow => "blind_window"
  | .blindEnter => "blind_enter"
  | .blindExit => "blind_exit"
  | .blindGateEligible => "blind_gate_eligible"
  | .blindPreemptReserveHold => "blind_preempt_reserve_hold"
  | .retryAfterWalk => "retry_after_walk"
  | .credentialExpiryHorizon => "credential_expiry_horizon"
  | .credentialExpiryObserved => "credential_expiry_observed"
  | .observationGapEnter => "observation_gap_enter"
  | .observationGapExit => "observation_gap_exit"
  | .rosterReload => "roster_reload"
  | .daemonBuild => "daemon_build"

/-- An event to be logged. The fields of an event that neither reader looks into may be any names and texts. -/
inductive Event where
  | swap (source target : Text) (reason : SwapReason) (sessionPct : Option ℕ) (projection : Option SwapProjection)
  | emergencySwap (source target : Text)
  | refresh (account : Text) (outcome : RefreshEventOutcome) (expiresBefore expiresAfter : Option ℤ)
      (reason : Option RefreshEventReason) (backoffSecs : Option ℕ)
  | other (event : OtherEvent) (fields : List Field)

def Event.token : Event → String
  | .swap .. => "swap"
  | .emergencySwap .. => "emergency_swap"
  | .refresh .. => "refresh"
  | .other event _ => event.token

def projectionFields (p : SwapProjection) : List Field :=
  [field "projected" (fixed 2 p.projectedPct), field "rate" (fixed 6 p.ratePctPerSec),
    field "horizon" (Nat.toDigits 10 p.horizonSecs), field "ceiling" (fixed 2 p.ceilingPct)]

/-- What follows the outcome on the line of a refresh. -/
def refreshTrail (outcome : RefreshEventOutcome) (expiresBefore expiresAfter : Option ℤ)
    (reason : Option RefreshEventReason) (backoffSecs : Option ℕ) : List Field :=
  (expiresBefore.map fun ms => field "expires_before" (rfc3339 (systemTimeFromEpoch (ms.tdiv 1000)))).toList ++
  (expiresAfter.map fun ms => field "expires_after" (rfc3339 (systemTimeFromEpoch (ms.tdiv 1000)))).toList ++
  ((rotated outcome).map fun b => field "rotated" (boolText b)).toList ++
  (reason.map fun r => field "reason" (RefreshEventReason.asStr r).toList).toList ++
  (backoffSecs.map fun secs => field "backoff_secs" (Nat.toDigits 10 secs)).toList ++
  match expiresBefore, expiresAfter with
  | some before, some after => [field "window_secs" (decimal ((after - before).tdiv 1000))]
  | _, _ => []

def Event.fields : Event → List Field
  | .swap source target reason sessionPct projection =>
    [field "from" source, field "to" target, field "reason" (SwapReason.asStr reason).toList] ++
    (sessionPct.map fun pct => field "session_pct" (Nat.toDigits 10 pct)).toList ++
    (if sessionPct.any (100 ≤ ·) then [field "late" "true".toList] else []) ++
    projection.elim [] projectionFields
  | .emergencySwap source target => [field "from" source, field "to" target]
  | .refresh account outcome expiresBefore expiresAfter reason backoffSecs =>
    field "account" account :: field "outcome" (kind outcome).asStr.toList ::
      refreshTrail outcome expiresBefore expiresAfter reason backoffSecs
  | .other _ fields => fields

def Event.toLogLine (event : Event) (ts : SystemTime) : Text :=
  singleLine ("ts=".toList ++ rfc3339 ts ++ " event=".toList ++ event.token.toList ++ event.fields.flatMap fieldText)

/-- The bytes of a text. -/
def encode (text : Text) : List UInt8 := text.flatMap String.utf8EncodeChar

/-- The file once an event is appended. -/
def emit (file : List UInt8) (record : SystemTime × Event) : List UInt8 :=
  file ++ encode (record.2.toLogLine record.1 ++ ['\n'])

def emitAll (file : List UInt8) (records : List (SystemTime × Event)) : List UInt8 := records.foldl emit file

/-! ## The readers -/

def readToString (file : List UInt8) : Option Text := (fromUtf8 file).map String.toList

def splitInclusive : Text → List Text
  | [] => []
  | c :: rest =>
    if c = '\n' then [c] :: splitInclusive rest
    else
      match splitInclusive rest with
      | [] => [[c]]
      | line :: more => (c :: line) :: more

def stripEnd (line : Text) : Text :=
  if line.getLast? = some '\n' then
    if line.dropLast.getLast? = some '\r' then line.dropLast.dropLast else line.dropLast
  else line

def lines (text : Text) : List Text := (splitInclusive text).map stripEnd

/-- What stands before the last occurrence of the pattern, and after it. -/
def rsplitOnce (pat : Text) : Text → Option (Text × Text)
  | [] => if pat = [] then some ([], []) else none
  | c :: rest =>
    match rsplitOnce pat rest with
    | some (before, after) => some (c :: before, after)
    | none => if pat.isPrefixOf (c :: rest) then some ([], (c :: rest).drop pat.length) else none

def isSwapKey (key : Text) : Bool := key = "event=swap".toList || key = "event=emergency_swap".toList

def isSwapLine (line : Text) : Bool := (line.splitOn ' ')[1]?.any isSwapKey

/-- The second that the stamp at the front of a line says. -/
def lineInstant (line : Text) : Option SystemTime := do
  let rest ← line.dropPrefix? "ts=".toList
  let epoch ← epochFromRfc3339 (rest.takeWhile (· ≠ ' '))
  if 0 ≤ epoch then some (systemTimeFromEpoch epoch) else none

def swapIn (lines : List Text) : Option SystemTime := lines.reverse.find? isSwapLine >>= lineInstant

def lastSwapAt (file : List UInt8) : Option SystemTime := do
  let text ← readToString file
  swapIn (lines text)

/-- The handle and the outcome on the line of a refresh. -/
def refreshOf (line : Text) : Option (Text × RefreshEventOutcomeKind) := do
  let (_, rest) ← splitOnce ' ' line
  let (key, rest) ← splitOnce ' ' rest
  if key = "event=refresh".toList then
    let rest ← rest.dropPrefix? "account=".toList
    let (handle, after) ← rsplitOnce " outcome=".toList rest
    let outcome ← RefreshEventOutcomeKind.fromToken (after.takeWhile (· ≠ ' '))
    pure (handle, outcome)
  else none

/-- Each handle with its outcome, none for a handle without one. -/
abbrev Outcomes := Text → Option RefreshEventOutcomeKind

def insertLine (outcomes : Outcomes) (line : Text) : Outcomes :=
  match refreshOf line with
  | some (handle, outcome) => Function.update outcomes handle (some outcome)
  | none => outcomes

def lastRefreshOutcomes (file : List UInt8) : Outcomes :=
  match readToString file with
  | none => fun _ => none
  | some text => (lines text).foldl insertLine (fun _ => none)

end Sessiometer.Log
