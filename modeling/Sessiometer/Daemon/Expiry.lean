import Sessiometer.Daemon.Decision

/-! # The clocks of a credential

What the daemon records of the expiry of the credential it reads for an account, and the horizon
edge it signals. -/

namespace Sessiometer

open Effects

/-- The access and the refresh expiry of a credential, in milliseconds. -/
structure CredentialClocks where
  accessExpiresAt : Option Int := none
  refreshTokenExpiresAt : Option Int := none
deriving DecidableEq

def credentialClocks [SerdeJson] (blob : List UInt8) : CredentialClocks :=
  ⟨expiresAt blob, Sessiometer.refreshTokenExpiresAt blob⟩

/-- `stored_credential_clocks`: those of a stash, none when it does not read. -/
def storedCredentialClocks [SerdeJson] (service : String) : Seam CredentialClocks := do
  match ← (AccountStash.read service).run with
  | .ok stashed => pure (credentialClocks stashed.credential.blob)
  | .error _ => pure {}

def storedExpiresAt [SerdeJson] (service : String) : Seam (Option Int) := do
  match ← (AccountStash.read service).run with
  | .ok stashed => pure (expiresAt stashed.credential.blob)
  | .error _ => pure none

def readPollClocks [SerdeJson] (account : Account) (active : Bool) :
    DaemonM (CredentialClocks × CredentialReadSource) := do
  let source := CredentialReadSource.forPoll active
  let ms ← match source with
    | .canonical => do
      match ← attempt CredentialStore.read with
      | .ok credential => pure (credentialClocks credential.blob)
      | .error _ => pure {}
    | .stash => StateT.lift (storedCredentialClocks account.stash)
  pure (⟨ms.accessExpiresAt.map millisToSecs, ms.refreshTokenExpiresAt.map millisToSecs⟩, source)

/-- `account_expiry`: where a deadline stands against the horizon. -/
def horizonState (refreshExpiresAt : Option Int) (horizonSecs : ℕ) (nowSecs : Int) :
    ExpiryHorizon :=
  match refreshExpiresAt with
  | none => .unknown
  | some deadline =>
    if deadline ≤ nowSecs then .lapsed
    else if deadline ≤ nowSecs + horizonSecs then .within
    else .beyond

structure ExpiryAttribution where
  source : CredentialReadSource
  provenance : ExpiryProvenance
  grantReplaced : Option Bool

namespace Daemon

variable (d : Daemon)

def noteOwnCredentialRefresh (i : ℕ) : Daemon :=
  d.setHealth i (fun h => { h with ownRefreshSinceExpiryObservation := true })

def noteExpiryHorizonEdge (i : ℕ) (deadline nowSecs : Int) : Daemon :=
  let horizonSecs := d.settings.credentialExpiryHorizonSecs
  let state := horizonState (some deadline) horizonSecs nowSecs
  match state with
  | .within | .lapsed =>
    if (d.accounts i).health.signaledExpiryHorizon = some state then d
    else (d.setHealth i (fun h => { h with signaledExpiryHorizon := some state })).emit
      (.credentialExpiryHorizon (d.account i).accountUuid state deadline horizonSecs)
  | .beyond => d.setHealth i (fun h => { h with signaledExpiryHorizon := none })
  | .unknown => d

def foldExpiryObservation (i : ℕ) (observed : Option Int) (attribution : ExpiryAttribution)
    (nowSecs : Int) : Daemon :=
  match observed with
  | none => d
  | some deadline =>
    let before := (d.accounts i).health.refreshTokenExpiresAtBaseline
    let recordUnchanged := decide (attribution.provenance = .canonicalRestash)
    let folded := d.setHealth i (fun h =>
      { h with
        refreshTokenExpiresAtBaseline := some deadline
        refreshTokenExpiresAtBaselineSource := some attribution.source
        ownRefreshSinceExpiryObservation := false })
    (folded.emitIf (decide (before ≠ some deadline) || recordUnchanged)
      (.credentialExpiryObserved (d.account i).accountUuid attribution.provenance before deadline
        attribution.grantReplaced)).noteExpiryHorizonEdge i deadline nowSecs

def polledProvenance (i : ℕ) (source : CredentialReadSource) : ExpiryProvenance :=
  let health := (d.accounts i).health
  if health.refreshTokenExpiresAtBaseline = none then .firstObservation
  else if health.ownRefreshSinceExpiryObservation then .myRefresh
  else if health.refreshTokenExpiresAtBaselineSource ≠ some source then .readSourceSwitched
  else .externalChange

def notePolledExpiry (i : ℕ) (observed : Option Int) (source : CredentialReadSource)
    (nowSecs : Int) : Daemon :=
  d.foldExpiryObservation i observed ⟨source, d.polledProvenance i source, none⟩ nowSecs

def noteRestashExpiry (i : ℕ) (observed : Option Int) (grantReplaced : Option Bool)
    (nowSecs : Int) : Daemon :=
  d.foldExpiryObservation i observed ⟨.canonical, .canonicalRestash, grantReplaced⟩ nowSecs

end Daemon

end Sessiometer
