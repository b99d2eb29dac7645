import Sessiometer.Daemon.Refresh
import Sessiometer.Daemon.Roster

/-! # The refresh sweep

The periodic refresh of the parked accounts: which of them a sweep refreshes, how long one that failed
is left alone, and when the next sweep is due. -/

namespace Sessiometer

open Effects

structure RefreshConfig where
  enabled : Bool
  accounts : List String
  cadenceSecs : ℕ
  idleAfterSecs : ℕ
  timeoutSecs : ℕ

namespace RefreshConfig

variable (config : RefreshConfig)

def cadence : Nanos := secs config.cadenceSecs

def idleAfter : Nanos := secs config.idleAfterSecs

end RefreshConfig

/-! ## The back-off of one account -/

def refreshBackoffMinBase : Nanos := secs 60

def refreshBackoffMaxShift : ℕ := 6

def refreshBackoffCap : Nanos := secs 3600

/-- The streak of errors, and the instant before which the account is left alone. -/
structure RefreshBackoff where
  streak : ℕ
  until' : Nanos
deriving DecidableEq

/-- The greatest `Duration`: 64-bit seconds and the nanoseconds below the next one. -/
def durationMax : Nanos := secs (2 ^ 64) - 1

def checkedMul (d : Nanos) (k : ℕ) : Option Nanos := if d * k ≤ durationMax then some (d * k) else none

def refreshBackoffDelay (streak : ℕ) (base : Nanos) : Nanos :=
  let shift := min streak refreshBackoffMaxShift
  let cap := max refreshBackoffCap base
  min ((checkedMul base (2 ^ shift)).getD cap) cap

/-! ## One account of a sweep -/

def i64Max : Int := 2 ^ 63 - 1

def i64Min : Int := -2 ^ 63

/-- `i64::saturating_add` and `i64::saturating_mul`, by their exact result. -/
def saturating64 (x : Int) : Int := max i64Min (min x i64Max)

def isNearExpiry (expiresAtMs : Option Int) (nowMs horizonMs : Int) : Bool :=
  match expiresAtMs with
  | some expiresAt => decide (expiresAt ≤ saturating64 (nowMs + horizonMs))
  | none => false

def refreshEventReason (report : RefreshReport) : Option RefreshEventReason :=
  match report.outcome with
  | .error .spawnFailed => some .spawnFailed
  | .error .readbackUnreadable => some .readbackUnreadable
  | .error .malformed => some .malformed
  | _ => none

def engineErrorReason (error : Error) : Option RefreshEventReason :=
  if error = .claudeBinaryNotFound then some .unresolved else none

/-- Only a re-stash moves the stored expiry. -/
def expiresAfter (beforeMs : Option Int) (report : RefreshReport) : Option Int :=
  match report.expiresAtDeltaSecs with
  | some deltaSecs =>
    if report.reStashed then
      beforeMs.map (fun before => saturating64 (before + saturating64 (deltaSecs * 1000)))
    else beforeMs
  | none => beforeMs

/-- How the cycle of one account ends: with a report, with a hard error, or at the time limit. -/
inductive Cycle where
  | completed (report : RefreshReport)
  | failed (error : Error)
  | timedOut

namespace Cycle

def outcome : Cycle → RefreshEventOutcome
  | .completed report => refreshEventOutcome report
  | .failed _ => .error
  | .timedOut => .error

/-- A live cycle whose token was stored again. -/
def restores : Cycle → Bool
  | .completed report =>
    match report.outcome with
    | .refreshed _ => report.reStashed
    | _ => false
  | _ => false

def event (label : String) (beforeMs : Option Int) (backoffSecs : Option ℕ) : Cycle → Event
  | .completed report =>
    .refresh label (refreshEventOutcome report) beforeMs (expiresAfter beforeMs report)
      (refreshEventReason report) backoffSecs
  | .failed error => .refresh label .error beforeMs beforeMs (engineErrorReason error) backoffSecs
  | .timedOut => .refresh label .error beforeMs beforeMs (some .timeout) backoffSecs

def observation (accountUuid : String) (beforeMs : Option Int) : Cycle → RefreshObservation
  | .completed report =>
    ⟨accountUuid, expiresAfter beforeMs report, some (refreshEventOutcome report)⟩
  | .failed _ => ⟨accountUuid, beforeMs, some .error⟩
  | .timedOut => ⟨accountUuid, beforeMs, some .error⟩

end Cycle

/-- What the engine and the clock answer while a sweep is at one account. -/
structure Answers where
  checkedAt : Nanos
  expiresAtMs : Option Int
  cycle : Cycle
  resolved : Option String
  foldedAt : Nanos

/-- What a sweep does with one account: it passes it by, it reads its expiry, or it runs a cycle, which
may change its entry in the ledger. -/
inductive Visit where
  | passed
  | peeked (observation : RefreshObservation)
  | cycled (outcome : RefreshEventOutcome) (restored : Bool) (events : List Event)
      (observation : RefreshObservation) (update : Option (Option RefreshBackoff))

/-- The refresh tick: its own roster, when it last swept, when the current idle window started, and the
ledger of the accounts that are left alone. -/
structure RefreshTick where
  roster : List Account
  config : RefreshConfig
  enabled : Bool
  lastRefresh : Option Nanos := none
  idleAnchor : Option Nanos := none
  refreshBackoff : ℕ → Option RefreshBackoff := fun _ => none

def accountListedIn (allowlist : List String) (account : Account) : Bool :=
  allowlist.any (fun entry => entry == account.label || entry == account.accountUuid)

namespace RefreshTick

variable (t : RefreshTick)

/-- Neither excluded nor left out of the allowlist. -/
def admits (excluded : List String) (account : Account) : Bool :=
  !excluded.any (· == account.accountUuid) &&
    (t.config.accounts.isEmpty || accountListedIn t.config.accounts account)

/-- The base of the back-off: the idle floor of the sweep, itself floored. -/
def backoffBase : Nanos := max t.config.idleAfter refreshBackoffMinBase

/-- The entry that an error arms. -/
def widened (entry : Option RefreshBackoff) (now : Nanos) : RefreshBackoff :=
  let streak := saturatingAdd32 (entry.elim 0 (·.streak)) 1
  ⟨streak, (checkedAdd now (refreshBackoffDelay streak t.backoffBase)).getD now⟩

/-- The body of the loop of `run_sweep`. -/
def visit (excluded quarantined : List String) (nowMs : Int) (i : ℕ) (account : Account)
    (a : Answers) : Visit :=
  let horizonMs := saturating64 (t.config.cadenceSecs * 1000)
  if ¬ t.admits excluded account then .passed
  else if (t.refreshBackoff i).any (fun backoff => decide (a.checkedAt < backoff.until')) then .passed
  else
    let isQuarantined := quarantined.any (· == account.accountUuid)
    if !isQuarantined && !isNearExpiry a.expiresAtMs nowMs horizonMs then
      .peeked ⟨account.accountUuid, a.expiresAtMs, none⟩
    else
      let resolved := a.resolved.toList.map Event.refreshBinaryResolved
      let restored := isQuarantined && a.cycle.restores
      if a.cycle.outcome = .error then
        let backoff := t.widened (t.refreshBackoff i) a.foldedAt
        .cycled .error restored
          (resolved ++ [a.cycle.event account.label a.expiresAtMs
            (some (asSecs (refreshBackoffDelay backoff.streak t.backoffBase)))])
          (a.cycle.observation account.accountUuid a.expiresAtMs) (some (some backoff))
      else
        .cycled a.cycle.outcome restored
          (resolved ++ [a.cycle.event account.label a.expiresAtMs none])
          (a.cycle.observation account.accountUuid a.expiresAtMs)
          (if (t.refreshBackoff i).isSome then some none else none)

end RefreshTick

/-! ## A sweep -/

structure SweepOutcome where
  restored : List String := []
  events : List Event := []
  observations : List RefreshObservation := []

namespace Visit

def addTo (account : Account) (outcome : SweepOutcome) : Visit → SweepOutcome
  | .passed => outcome
  | .peeked observation => { outcome with observations := outcome.observations ++ [observation] }
  | .cycled _ restored events observation _ =>
    { restored := outcome.restored ++ if restored then [account.accountUuid] else []
      events := outcome.events ++ events
      observations := outcome.observations ++ [observation] }

/-- The cycle that was run, if one was. -/
def attempted : Visit → Option RefreshEventOutcome
  | .cycled outcome .. => some outcome
  | _ => none

/-- What is left of an entry of the ledger. -/
def entryAfter (entry : Option RefreshBackoff) : Visit → Option RefreshBackoff
  | .cycled _ _ _ _ (some update) => update
  | _ => entry

end Visit

/-- What a sweep is given and what it meets. -/
structure SweepInput where
  excluded : List String
  quarantined : List String
  nowMs : Int
  answers : ℕ → Answers
  endedAt : Nanos

namespace RefreshTick

variable (t : RefreshTick)

/-- The visit of an account; there is none beyond the roster. -/
def visitAt (sweep : SweepInput) (i : ℕ) : Visit :=
  match t.roster[i]? with
  | none => .passed
  | some account =>
    t.visit sweep.excluded sweep.quarantined sweep.nowMs i account (sweep.answers i)

/-- The outcome of a sweep, collected in the order of the roster. -/
def runSweep (sweep : SweepInput) : SweepOutcome :=
  t.roster.zipIdx.foldl (fun outcome x => (t.visitAt sweep x.2).addTo x.1 outcome) {}

def sweep (input : SweepInput) : SweepOutcome × RefreshTick :=
  if ¬ t.enabled then ({}, t)
  else
    (t.runSweep input,
      { t with
        refreshBackoff := fun i => (t.visitAt input i).entryAfter (t.refreshBackoff i)
        lastRefresh := some input.endedAt
        idleAnchor := none })

/-! ## When a sweep is due -/

def delayUntilDue (now idleAnchor : Nanos) (hasRecoveryWork : Bool) : Nanos :=
  let idleRemaining := t.config.idleAfter - saturatingDurationSince now idleAnchor
  if hasRecoveryWork then idleRemaining
  else
    let cadenceRemaining := match t.lastRefresh with
      | some last => t.config.cadence - saturatingDurationSince now last
      | none => 0
    max idleRemaining cadenceRemaining

/-- `until_due`, up to its wait: a tick that is off never becomes due. -/
def untilDue (now : Nanos) (hasRecoveryWork : Bool) : Option Nanos × RefreshTick :=
  if ¬ t.enabled then (none, t)
  else
    let anchor := t.idleAnchor.getD now
    (some (t.delayUntilDue now anchor hasRecoveryWork), { t with idleAnchor := some anchor })

def recoveryPending (excluded quarantined : List String) : Bool :=
  t.enabled && t.roster.any (fun account =>
    quarantined.any (· == account.accountUuid) && t.admits excluded account)

end RefreshTick

def maxSweepExclusions : ℕ := 2

def mechanismIsObservable (roster : List Account) (config : RefreshConfig) : Bool :=
  config.enabled && decide (maxSweepExclusions < (roster.filter (fun account =>
    config.accounts.isEmpty || accountListedIn config.accounts account)).length)

/-- `refresh_exclusions`: the active account and the one a swap would make active. -/
def Daemon.refreshExclusions (d : Daemon) : List String :=
  match d.active with
  | none => []
  | some active =>
    let target := d.pickRanked active (d.decisionReadings (some active))
      (some d.settings.targetMaxSessionUsage) (some d.settings.sessionCeilingBase) d.weeklyRotationLine
    (d.account active).accountUuid :: (target.map (fun i => (d.account i).accountUuid)).toList

end Sessiometer
