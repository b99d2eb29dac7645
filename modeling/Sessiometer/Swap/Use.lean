import Sessiometer.Daemon.Config
import Sessiometer.Swap.Canary

/-! # The `use` command

A swap that the operator asks for. A forced one recovers from a canonical item that is gone, or that
no account is known for, by adopting the target: nothing is re-stashed then. -/

namespace Sessiometer

open Effects

inductive Viability where
  | viable
  | quarantined
  | weeklyExhausted
deriving DecidableEq

inductive GateOutcome where
  | proceed (incomingStash : String)
  | alreadyActive
  | refusedWeeklyExhausted
  | refusedCooldown
  | refusedQuarantined

/-- What a `use` ends in: the label of the account that was left, if it is known, after a swap. -/
inductive UseOutcome where
  | alreadyActive
  | swapped (from' : Option String) (adopted : Bool)

/-- `cached` is what the daemon answers of the target, if one does. -/
structure UseRequest where
  roster : List Account
  tunables : Tunables
  query : String
  force : Bool
  inCooldown : Bool
  cached : Option Viability

namespace UseRequest

variable (u : UseRequest)

def resolveTarget : Except Error Account :=
  match u.roster.filter (fun a => a.label = u.query || a.accountUuid = u.query) with
  | [] => .error (.useTargetNotFound u.query)
  | [target] => .ok target
  | many => .error (.useTargetAmbiguous u.query many.length)

def weeklyCeiling : ℚ := weeklyEffectiveCeiling (u.tunables.weeklyCeiling / 100)

def pollViability (target : Account) : Attempt Viability := do
  match ← ExceptT.lift (Prog.call (S := Seams) (.poll target false)) with
  | .ok reading =>
    if reading.usage.weekly.any (fun w => decide (u.weeklyCeiling ≤ w)) then
      pure .weeklyExhausted
    else pure .viable
  | .error .usageUnauthorized => pure .quarantined
  | .error .usageScopeMissing => pure .quarantined
  | .error other => throw other

def gateViability (target : Account) : Attempt Viability := do
  match u.cached with
  | some cached => pure cached
  | none =>
    match ← ExceptT.lift (u.pollViability target).run with
    | .ok viability => pure viability
    | .error (.usageRateLimited _) => throw (.useViabilityUnverifiable target.label)
    | .error other => throw other

/-- `SwapTarget::resolve`, the gate of a swap that is not forced. -/
def gate (target : Account) (activeStash : String) : Attempt GateOutcome := do
  if target.stash = activeStash then pure .alreadyActive
  else if u.inCooldown then pure .refusedCooldown
  else
    match ← u.gateViability target with
    | .viable => pure (.proceed target.stash)
    | .weeklyExhausted => pure .refusedWeeklyExhausted
    | .quarantined => pure .refusedQuarantined

/-- A locked keychain stops a forced swap too; any other failure costs only the warning. -/
def warnIfForcingOntoNonViable (target : Account) : Attempt Unit := do
  match u.cached with
  | some _ => pure ()
  | none =>
    match ← ExceptT.lift (u.pollViability target).run with
    | .error (.keychainLocked op) => throw (.keychainLocked op)
    | _ => pure ()

/-- The canonical item as `run_use` reads it: gone only where that is confirmed. -/
def readCanonical : Attempt (Option Credential) := do
  match ← ExceptT.lift CredentialStore.read.run with
  | .ok canonical => pure (some canonical)
  | .error .credentialNotFound => pure none
  | .error err => throw err

def resolveActive (canonical : Option Credential) : Seam (Option ℕ) :=
  match canonical with
  | some canonical => Active.resolveAccountFor u.roster canonical
  | none => Active.resolveViaDisplay u.roster

/-- Steps 1 and 2: the target, the canonical item and the account that is active. -/
def route : Attempt (Account × Option Credential × Option Account) := do
  let target ← ExceptT.mk (pure u.resolveTarget)
  let canonical ← readCanonical
  let active ← ExceptT.lift (u.resolveActive canonical)
  pure (target, canonical, active.map (fun i => u.roster.getD i ⟨"", "", false⟩))

/-- The offline canary and the online probe, before a swap that re-stashes. -/
def canaryGate [SerdeJson] (active : Account) : Attempt Unit := do
  match ← Canary.run u.roster with
  | .notFound => throw .credentialNotFound
  | .ambiguous count => throw (.credentialAmbiguous count)
  | .drift displayed matched =>
    if u.tunables.canaryDriftOverride then pure ()
    else throw (.canaryDrift (u.roster.getD displayed ⟨"", "", false⟩).label
      (u.roster.getD matched ⟨"", "", false⟩).label)
  | .inconclusive (.noStashMatch false) =>
    if u.tunables.canaryNostashmatchOverride then pure () else throw .canaryUnparseableCanonical
  | .ok => pure ()
  | .inconclusive _ => pure ()
  let gate : ProbeGate :=
    if u.tunables.canaryOnlineProbe then if u.force then .overridden else .armed else .disarmed
  let liveness ← ExceptT.lift (Canary.probeLiveness active gate)
  if Canary.probeRefuses liveness u.tunables.canaryOnlineProbeStrict then
    throw (.canaryProbeNotLive liveness.asStr)
  else pure ()

/-- A forced `use` recovers; nothing is known to re-stash. -/
def adopt (target : Account) (active : Option Account) : Attempt UseOutcome := do
  u.warnIfForcingOntoNonViable target
  let _ ← adoptTargetLocked target.stash
  pure (.swapped (active.map (·.label)) true)

def rotate [SerdeJson] (active : Account) (incomingStash : String) : Attempt UseOutcome := do
  u.canaryGate active
  let _ ← swapLocked active.stash incomingStash
  pure (.swapped (some active.label) false)

def swapFrom [SerdeJson] (target active : Account) : Attempt UseOutcome := do
  if u.force then do
    u.warnIfForcingOntoNonViable target
    u.rotate active target.stash
  else
    match ← u.gate target active.stash with
    | .proceed incomingStash => u.rotate active incomingStash
    | .alreadyActive => pure .alreadyActive
    | .refusedWeeklyExhausted => throw (.useTargetWeeklyExhausted target.label)
    | .refusedCooldown => throw .useCooldownActive
    | .refusedQuarantined => throw (.useTargetQuarantined target.label)

/-- Step 3: adopt, or swap from an account that is known. -/
def swapMode [SerdeJson] (routed : Account × Option Credential × Option Account) :
    Attempt UseOutcome :=
  let (target, canonical, active) := routed
  if u.force && (canonical.isNone || active.isNone) then u.adopt target active
  else
    match active with
    | none => throw .activeAccountUnresolved
    | some active => u.swapFrom target active

end UseRequest

def runUse [SerdeJson] (u : UseRequest) : Attempt UseOutcome := do
  let routed ← u.route
  u.swapMode routed

end Sessiometer
