import Sessiometer.Daemon.Expiry
import Sessiometer.Daemon.Swaps

/-! # The canonical item, as a tick finds it

A canonical credential that changed out of band is re-stashed for the account it resolves to, a
cleared one is recovered from. -/

namespace Sessiometer

open Effects

def hasLiveRefreshToken [SerdeJson] (c : Credential) : Bool :=
  (refreshToken c.blob).any (fun rt => !rt.isEmpty)

def resolveAccountFor (canonical : Credential) : DaemonM (Option ℕ) := do
  let d ← get
  StateT.lift (Active.resolveAccountFor d.roster canonical)

def resolveActive : DaemonM (Option ℕ) := do
  let d ← get
  match ← attempt CredentialStore.read with
  | .ok canonical => resolveAccountFor canonical
  | .error _ => StateT.lift (Active.resolveViaDisplay d.roster)

/-- The identity half that a re-stash pairs the credential with: the stash's own, or the displayed
one when that names the account. -/
def restashIdentity (account : Account) : Seam (Option OauthAccount) := do
  match ← (AccountStash.read account.stash).run with
  | .ok existing => pure (some existing.oauthAccount)
  | .error _ => do
    match ← ClaudeState.readOauthAccount.run with
    | .ok displayed =>
      pure (if account.accountUuid = displayed.accountUuid then some displayed else none)
    | .error _ => pure none

def restashAccount (account : Account) (canonical : Credential) : Seam Bool := do
  match ← restashIdentity account with
  | some oauth => isOk <$> (AccountStash.write account.stash ⟨canonical, oauth⟩).run
  | none => pure false

namespace Daemon

variable (d : Daemon)

/-- Whether the re-stashed credential replaces another live grant. -/
def grantReplaced [SerdeJson] (canonical : Credential) : Option Bool :=
  let liveRt : Credential → Option String := fun c =>
    (refreshToken c.blob).filter (fun rt => !rt.isEmpty)
  match d.canonicalWatch.baseline with
  | none => none
  | some prev =>
    match liveRt prev, liveRt canonical with
    | some before, some after => some (decide (before ≠ after))
    | _, _ => none

/-- A fresh credential lifts the quarantine. -/
def liftQuarantine (i : ℕ) : Daemon :=
  if (d.accounts i).health.quarantined then
    (d.setHealth i (fun h => { h with quarantined := false, recoverySuccesses := 0 })).emit
      (.credentialRestored (d.account i).label)
  else d

/-- The cached active account is to be resolved anew. -/
def dropActive : Daemon := { d with active := none, lastGood := none }

/-- What a re-stash that succeeded changes in the state. -/
def restashed [SerdeJson] (i : ℕ) (canonical : Credential) (nowSecs : Int) : Daemon :=
  let noted := (d.emit (.reStash (d.account i).label)).noteRestashExpiry i
    ((refreshTokenExpiresAt canonical.blob).map millisToSecs) (d.grantReplaced canonical) nowSecs
  let lifted := noted.liftQuarantine i
  ((lifted.deactivateRecoveryProbe lifted.active (some i)).commitCanonical canonical).dropActive

/-- What a login that resolves to no roster account changes in the state. -/
def uncaptured (accountUuid : Option String) (canonical : Credential) : Daemon :=
  ((d.emit (.uncapturedLogin accountUuid)).commitCanonical canonical).dropActive

end Daemon

/-- What a change leads to, by the account it resolves to: a re-stash that fails leaves the change to
be found again. -/
def healChange [SerdeJson] (canonical : Credential) : Option ℕ → DaemonM Unit
  | some i => do
    let d ← get
    if ← StateT.lift (restashAccount (d.account i) canonical) then
      let nowSecs ← wallClockNowSecs
      modify (·.restashed i canonical nowSecs)
  | none => do
    let displayed ← attempt ClaudeState.readOauthAccount
    let accountUuid := match displayed with
      | .ok oauth => some oauth.accountUuid
      | .error _ => none
    modify (·.uncaptured accountUuid canonical)

def reconcileCanonicalChange [SerdeJson] (canonical : Credential) : DaemonM Unit := do
  let d ← get
  match d.canonicalWatch.classify canonical with
  | .primed => modify (·.commitCanonical canonical)
  | .unchanged => pure ()
  | .changed => healChange canonical (← resolveAccountFor canonical)

/-! ## A cleared canonical item -/

inductive CanonicalLiveness where
  | present
  | scrubbed
  | unknown
deriving DecidableEq

def canonicalLiveness [SerdeJson] (canonical : Option Credential) (absent : Bool) :
    CanonicalLiveness :=
  match canonical with
  | some c =>
    match refreshToken c.blob with
    | some rt => if rt.isEmpty then .scrubbed else .present
    | none => .unknown
  | none => if absent then .scrubbed else .unknown

/-- The edges of `note_canonical_liveness`: once per clearing, once per return. -/
def Daemon.noteCanonicalLiveness (d : Daemon) (state : CanonicalLiveness) (active : Option ℕ) :
    Daemon :=
  let handle := active.map (fun i => (d.account i).label)
  match state with
  | .scrubbed =>
    if d.signaledCanonicalScrubbed then d
    else { d.emit (.canonicalScrubbed handle) with signaledCanonicalScrubbed := true }
  | .present =>
    if d.signaledCanonicalScrubbed then
      { d.emit (.canonicalRestored handle) with signaledCanonicalScrubbed := false }
    else d
  | .unknown => d

def scrubAdoptMax : ℕ := 3

def scrubAdoptWindow : Nanos := secs 3600

namespace Daemon

variable (d : Daemon)

/-- A window that has passed opens the adopt budget again. -/
def rollScrubAdoptWindow (at' : Nanos) : Daemon :=
  match d.scrubAdoptWindowStart with
  | some start =>
    if scrubAdoptWindow ≤ saturatingDurationSince at' start then
      { d with
        scrubAdoptCount := 0
        scrubAdoptWindowStart := none
        signaledScrubAdoptExhausted := false }
    else d
  | none => d

def noteScrubAdoptExhausted (active : Option ℕ) : Daemon :=
  if d.signaledScrubAdoptExhausted then d
  else { d.emit (.canonicalRecoveryExhausted (active.map (fun i => (d.account i).label))) with
    signaledScrubAdoptExhausted := true }

def scrubAdopted (target : ℕ) (at' : Nanos) : Daemon :=
  ({ d with
    scrubAdoptWindowStart := some (d.scrubAdoptWindowStart.getD at')
    scrubAdoptCount := d.scrubAdoptCount + 1 }).emit (.canonicalRecovered (d.account target).label)

end Daemon

/-- `recover_scrubbed_canonical`; without an active account no account is skipped. -/
def recoverScrubbedCanonical (active : Option ℕ) (readings : ℕ → Option Usage) (at' : Nanos) :
    DaemonM (Option TickAction) := do
  modify (·.rollScrubAdoptWindow at')
  let d ← get
  if scrubAdoptMax ≤ d.scrubAdoptCount then do
    modify (·.noteScrubAdoptExhausted active)
    pure none
  else do
    let drawn ← d.settings.weeklyCeilingStrategy.draw weeklyCeilingPctLo weeklyCeilingPctHi
    match d.pickRanked (active.getD d.roster.length) readings none none (drawn / 100) with
    | none => pure none
    | some target => do
      match ← lockedAdopt (d.account target).stash with
      | .ok _ => do
        recordSwap target (d.account target).stash at'
        modify (·.scrubAdopted target at')
        pure (some (.canonicalAdopted target))
      | .error _ => pure none

end Sessiometer
