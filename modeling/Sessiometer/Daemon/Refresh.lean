import Sessiometer.Daemon.Canonical

/-! # Poll outcomes, token refreshes and keep-warm mints -/

namespace Sessiometer

open Effects

inductive PollOutcome where
  | live
  | unauthorized
  | scopeMissing
  | transient
deriving DecidableEq

def classifyPoll : Except Error Usage → PollOutcome
  | .ok _ => .live
  | .error .usageUnauthorized => .unauthorized
  | .error .usageScopeMissing => .scopeMissing
  | .error _ => .transient

structure BackoffSignal where
  kind : BackoffClass
  retryAfter : Option Nanos
deriving DecidableEq

def backoffSignal : Except Error Usage → Option BackoffSignal
  | .error (.usageRateLimited retryAfter) => some ⟨.rateLimited, retryAfter⟩
  | .error (.usageTransient retryAfter) => some ⟨.transient, retryAfter⟩
  | _ => none

def refreshEventOutcome (report : RefreshReport) : RefreshEventOutcome :=
  match report.outcome with
  | .refreshed rotated =>
    if report.reStashed then .refreshed rotated else .refreshedNotReStashed rotated
  | .noChange => .noChange
  | .dead => .dead
  | .error _ => .error

namespace Daemon

variable (d : Daemon)

/-- One more 401; the `n`-th in a row quarantines the account. -/
def noteUnauthorized (i : ℕ) : Daemon :=
  let consecutive := saturatingAdd32 (d.accounts i).health.consec401 1
  let counted := d.setHealth i (fun h => { h with consec401 := consecutive, recoverySuccesses := 0 })
  if (d.accounts i).health.quarantined then counted
  else
    let noted := counted.emit (.monitor401 (d.account i).label consecutive)
    if d.settings.monitor401N ≤ consecutive then
      (noted.setHealth i (fun h => { h with quarantined := true, unrecoverableSignaled := false })).emit
        (.credentialDead (d.account i).label)
    else noted

/-- One more success; the `m`-th in a row lifts the quarantine. -/
def noteLive (i : ℕ) : Daemon :=
  let cleared := d.setHealth i (fun h => { h with consec401 := 0 })
  if (d.accounts i).health.quarantined then
    let m := saturatingAdd32 (d.accounts i).health.recoverySuccesses 1
    let counted := cleared.setHealth i (fun h => { h with recoverySuccesses := m })
    if d.settings.monitorRecoveryM ≤ m then counted.liftQuarantine i else counted
  else cleared

def notePollOutcome (i : ℕ) (result : Except Error Usage) : Daemon :=
  match classifyPoll result with
  | .unauthorized => d.noteUnauthorized i
  | .live => d.noteLive i
  | .scopeMissing =>
    (d.setHealth i (fun h => { h with consec401 := 0, recoverySuccesses := 0 })).emit
      (.usageScopeFail (d.account i).label)
  | .transient => d.setHealth i (fun h => { h with consec401 := 0, recoverySuccesses := 0 })

/-- A first 401 of a live account, which one refresh may cure. -/
def firstUnauthorized (i : ℕ) (result : Except Error Usage) : Bool :=
  decide (classifyPoll result = .unauthorized) && !(d.accounts i).health.quarantined &&
    decide ((d.accounts i).health.consec401 = 0)

def shouldRefreshRetry (i : ℕ) (result : Except Error Usage) : Bool :=
  d.settings.pollRefresh && d.firstUnauthorized i result && decide (d.active ≠ some i)

def shouldKeepWarmRetry (i : ℕ) (result : Except Error Usage) : Bool :=
  d.settings.keepWarm && d.firstUnauthorized i result && decide (d.active = some i)

end Daemon

def poll (account : Account) (active : Bool) : DaemonM (Except Error Usage) := do
  let polled ← StateT.lift (Prog.call (S := Seams) (.poll account active))
  pure (Except.map (·.usage) polled)

def refresh (account : Account) : DaemonM (Except Error RefreshReport) :=
  StateT.lift (Prog.call (S := Seams) (.refresh account))

def eventOutcome : Except Error RefreshReport → RefreshEventOutcome
  | .ok report => refreshEventOutcome report
  | .error _ => .error

def refreshRetry (i : ℕ) : DaemonM (Except Error Usage) := do
  let d ← get
  let refreshed ← refresh (d.account i)
  emit (.pollRefresh (d.account i).label .poll401 (eventOutcome refreshed))
  match refreshed with
  | .ok report =>
    if report.outcome = .dead then pure (.error .usageUnauthorized)
    else poll (d.account i) false
  | .error _ => pure (.error .usageUnauthorized)

/-! ## Keep-warm -/

structure KeepWarmPromote where
  promoted : Bool
  outcome : RefreshEventOutcome

/-- Installs a minted credential, under the swap lock and only while the account is active. -/
def promoteStores (roster : List Account) (i : ℕ) (cred : Credential) : Attempt Bool :=
  withSwapLock do
    let current ← ExceptT.lift CredentialStore.read.run
    let stillActive ← match current with
      | .ok current => do
        let resolved ← ExceptT.lift (Active.resolveAccountFor roster current)
        pure (decide (resolved = some i))
      | .error _ => pure false
    if stillActive then do
      CredentialStore.write cred
      pure true
    else pure false

/-- The minted credential becomes the baseline, and its expiry the account's. -/
def Daemon.promoted [SerdeJson] (d : Daemon) (i : ℕ) (cred : Credential) : Daemon :=
  (d.commitCanonical cred).setHealth i
    (fun h => { h with accessExpiresAt := (expiresAt cred.blob).map millisToSecs })

def promoteCanonical [SerdeJson] (i : ℕ) (cred : Credential) : DaemonM (Except Error Bool) := do
  let d ← get
  match ← attempt (promoteStores d.roster i cred) with
  | .ok true => do
    modify (·.promoted i cred)
    pure (.ok true)
  | .ok false => pure (.ok false)
  | .error e => pure (.error e)

def keepWarmAndPromote [SerdeJson] (i : ℕ) (canonical : Credential) (trigger : KeepWarmTrigger) :
    DaemonM KeepWarmPromote := do
  if ¬ hasLiveRefreshToken canonical then pure ⟨false, .dead⟩
  else do
    let now ← clockNow
    modify (·.setHealth i (fun h => { h with lastKeepWarmAttempt := some now }))
    let d ← get
    if ¬ d.settings.keepWarm then pure ⟨false, .error⟩
    else do
      let minted ← StateT.lift (Prog.call (S := Seams) (.keepWarm (d.account i) canonical))
      modify (·.noteOwnCredentialRefresh i)
      let outcome := eventOutcome (Except.map Prod.fst minted)
      emit (.keepWarm (d.account i).label trigger outcome)
      match minted with
      | .ok (_, some cred) => do
        let promoted ← promoteCanonical i cred
        pure ⟨isOkAnd id promoted, outcome⟩
      | _ => pure ⟨false, outcome⟩

def keepWarmRetry [SerdeJson] (i : ℕ) (canonical : Option Credential) :
    DaemonM (Except Error Usage) := do
  match canonical with
  | none => pure (.error .usageUnauthorized)
  | some canonical => do
    let d ← get
    let r ← keepWarmAndPromote i canonical .reactive
    if r.promoted then poll (d.account i) true else pure (.error .usageUnauthorized)

/-- `sha256_hex`, from which the keep-warm stagger takes its first 64 bits. -/
class Sha256 where
  seed : String → UInt64

/-- `next_unit`: the upper 53 bits of a `SplitMix64` output. -/
def unitOf (seed : UInt64) : ℚ := ((splitMix64 seed >>> 11).toNat : ℚ) / 9007199254740992

def keepWarmStaggerSecs [Sha256] (accountUuid : String) (cadence : Nanos) : ℕ :=
  if asSecs cadence = 0 then 0
  else (unitOf (Sha256.seed accountUuid) * asSecs cadence).floor.toNat

/-- The access token expires within the cadence and the account's own stagger. -/
def Daemon.nearExpiry [SerdeJson] [Sha256] (d : Daemon) (i : ℕ) (canonical : Credential)
    (nowMs : Int) : Bool :=
  match expiresAt canonical.blob with
  | none => false
  | some expiresAtMs =>
    decide (expiresAtMs - nowMs ≤
      (asSecs d.settings.keepWarmCadence +
        keepWarmStaggerSecs (d.account i).accountUuid d.settings.keepWarmCadence : ℕ) * 1000)

def keepActiveWarm [SerdeJson] [Sha256] (active : Option ℕ) (canonical : Option Credential)
    (nowMs : Int) : DaemonM Unit := do
  let d ← get
  match active, canonical with
  | some i, some canonical => do
    if d.settings.proactiveKeepWarm && d.settings.keepWarm && !(d.accounts i).health.quarantined &&
        d.nearExpiry i canonical nowMs then
      let now ← clockNow
      if (d.accounts i).health.lastKeepWarmAttempt.any
          (fun last => decide (saturatingDurationSince now last < d.settings.keepWarmCadence)) then
        pure ()
      else do
        let _ ← keepWarmAndPromote i canonical .proactive
        pure ()
  | _, _ => pure ()

/-! ## What the loop folds in between ticks -/

namespace Daemon

variable (d : Daemon)

def failedRefresh : RefreshEventOutcome → Bool
  | .dead => true
  | .error => true
  | _ => false

def noteRefreshOutcome (i : ℕ) (outcome : RefreshEventOutcome) : Daemon :=
  let noted := (d.noteOwnCredentialRefresh i).setHealth i (fun h =>
    { h with
      lastRefreshOutcome := some outcome
      consecutiveRefreshFailures :=
        if failedRefresh outcome then saturatingAdd32 h.consecutiveRefreshFailures 1 else 0 })
  let health := (d.accounts i).health
  if outcome = .dead ∧ health.quarantined ∧ ¬ health.unrecoverableSignaled then
    (noted.setHealth i (fun h => { h with unrecoverableSignaled := true })).emit
      (.credentialUnrecoverable (d.account i).label)
  else noted

def applyRefreshRestore (accountUuid : String) : Daemon :=
  match rosterPosition d.roster accountUuid with
  | none => d
  | some i => d.liftQuarantine i

def foldRecoveryOutcome (i : ℕ) (outcome : RefreshEventOutcome) (expiresAtMs : Option Int) :
    Daemon :=
  let noted := d.noteRefreshOutcome i outcome
  let folded := match expiresAtMs with
    | some ms => noted.setHealth i (fun h => { h with accessExpiresAt := some (millisToSecs ms) })
    | none => noted
  if outcome = .dead then folded else folded.applyRefreshRestore (d.account i).accountUuid

end Daemon

structure RefreshObservation where
  accountUuid : String
  expiresAtMs : Option Int
  refresh : Option RefreshEventOutcome

def Daemon.applyRefreshObservation (d : Daemon) (observation : RefreshObservation) : Daemon :=
  match rosterPosition d.roster observation.accountUuid with
  | none => d
  | some i =>
    let folded := d.setHealth i
      (fun h => { h with accessExpiresAt := observation.expiresAtMs.map millisToSecs })
    match observation.refresh with
    | none => folded
    | some outcome => folded.noteRefreshOutcome i outcome

def reprobeDeadParkedCredential [SerdeJson] (i : ℕ) : DaemonM Unit := do
  let d ← get
  let refreshed ← refresh (d.account i)
  let outcome := eventOutcome refreshed
  emit (.pollRefresh (d.account i).label .recovery outcome)
  let expiresAtMs ← StateT.lift (storedExpiresAt (d.account i).stash)
  modify (·.foldRecoveryOutcome i outcome expiresAtMs)

def reconcileRestored [SerdeJson] (accountUuid : String) : DaemonM Unit := do
  let d ← get
  match rosterPosition d.roster accountUuid with
  | none => pure ()
  | some i =>
    if (d.accounts i).health.lastRefreshOutcome = some .dead ∧ d.settings.pollRefresh ∧
        d.active ≠ some i then
      reprobeDeadParkedCredential i
    else modify (·.applyRefreshRestore accountUuid)

def reprobeActiveIfDead [SerdeJson] : DaemonM Unit := do
  let d ← get
  match d.active with
  | none => pure ()
  | some i =>
    if (d.accounts i).health.lastRefreshOutcome ≠ some .dead ∨ ¬ d.settings.keepWarm then pure ()
    else do
      match ← attempt CredentialStore.read with
      | .error _ => pure ()
      | .ok canonical => do
        let r ← keepWarmAndPromote i canonical .recovery
        modify (·.foldRecoveryOutcome i r.outcome none)

end Sessiometer
