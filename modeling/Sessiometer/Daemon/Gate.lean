import Sessiometer.Daemon.Selection
import Sessiometer.Swap.Canary

/-! # The daemon's locked swap

Every swap the daemon performs passes the canary and runs under the swap lock; every swap it has
performed is recorded. -/

namespace Sessiometer

open Effects

namespace Daemon

variable (d : Daemon)

def canaryStatusOf (outcome : CanaryOutcome) : CanaryStatus :=
  match outcome with
  | .ok => .ok
  | .notFound => .notFound
  | .ambiguous count => .ambiguous count
  | .drift displayed matched =>
    .drift (d.account displayed).label (d.account matched).label d.settings.canaryDriftOverride
  | .inconclusive (.noStashMatch false) =>
    if d.settings.canaryNostashmatchOverride then .inconclusive else .refusedUnparseableCanonical
  | .inconclusive _ => .inconclusive

/-- The alarm that the replaced verdict had open is closed. -/
def closeCanaryAlarmBracket (replacing : Option CanaryStatus) : Daemon :=
  match replacing with
  | some (.drift ..) => d.emit .canaryCleared
  | some (.ambiguous _) => d.emit .canaryCleared
  | _ => d

/-- The verdict's edge, once per change of verdict. -/
def noteCanary (outcome : CanaryOutcome) : Daemon :=
  let status := d.canaryStatusOf outcome
  if d.canary = some status then d
  else
    let noted :=
      match status with
      | .drift displayed matched overridden =>
        d.emit (.canaryDrift displayed matched overridden)
      | .ambiguous count => d.emit (.canaryAmbiguous count)
      | .refusedUnparseableCanonical => d.closeCanaryAlarmBracket d.canary
      | .ok => d.closeCanaryAlarmBracket d.canary
      | .inconclusive => d.closeCanaryAlarmBracket d.canary
      | .notFound => d.closeCanaryAlarmBracket d.canary
    { noted with canary := some status }

def invalidatePollSchedule : Daemon := { d with pollSchedule := [], pollPos := 0 }

/-- Leaving a quarantined account abandons its recovery count. -/
def deactivateRecoveryProbe (prev next : Option ℕ) : Daemon :=
  match prev with
  | none => d
  | some i =>
    if next = some i then d
    else if (d.accounts i).health.quarantined ∧ 0 < (d.accounts i).health.recoverySuccesses then
      d.setHealth i (fun h => { h with recoverySuccesses := 0 })
    else d

end Daemon

def refreshCanary [SerdeJson] : DaemonM (Except Error CanaryOutcome) := do
  let d ← get
  match ← attempt (Canary.run d.roster) with
  | .error e => pure (.error e)
  | .ok outcome => do
    modify (·.noteCanary outcome)
    pure (.ok outcome)

/-- What the offline verdict refuses a swap with. -/
def Daemon.refusal (d : Daemon) : CanaryOutcome → Option Error
  | .notFound => some .credentialNotFound
  | .ambiguous count => some (.credentialAmbiguous count)
  | .drift displayed matched =>
    if d.settings.canaryDriftOverride then none
    else some (.canaryDrift (d.account displayed).label (d.account matched).label)
  | .inconclusive (.noStashMatch false) =>
    if d.settings.canaryNostashmatchOverride then none else some .canaryUnparseableCanonical
  | _ => none

def accountBackingOff (i : ℕ) : DaemonM Bool := do
  let d ← get
  match (d.accounts i).health.pollBackoffUntil with
  | some until' => do
    let now ← clockNow
    pure (decide (now < until'))
  | none => pure false

def exhaustedSlowPolling (i : ℕ) (active : Option ℕ) : DaemonM Bool := do
  let d ← get
  if active = some i then pure false
  else
    match (d.accounts i).health.exhaustedPollUntil with
    | some until' => do
      let now ← clockNow
      pure (decide (now < until'))
    | none => pure false

def probeGate (i : ℕ) (force : Bool) : DaemonM ProbeGate := do
  let d ← get
  if d.settings.canaryOnlineProbe = false then pure .disarmed
  else if force then pure .overridden
  else if (d.accounts i).lastReading.isNone then pure .uninformative
  else do
    let backingOff ← accountBackingOff i
    pure (if backingOff then .uninformative else .armed)

/-- The online probe of the outgoing account, or why none was made. -/
def outgoingLiveness (outgoing : String) (force : Bool) : DaemonM Liveness := do
  let d ← get
  match d.roster.findIdx? (fun a => a.stash == outgoing) with
  | some i => do
    let gate ← probeGate i force
    StateT.lift (Canary.probeLiveness (d.account i) gate)
  | none =>
    pure (if d.settings.canaryOnlineProbe = false then .skipped
      else if force then .overridden
      else .inconclusive)

/-- The canary and the online probe: all that stands between a caller and the swap lock. -/
def swapGate [SerdeJson] (outgoing : String) (force : Bool) : DaemonM (Except Error Unit) := do
  match ← refreshCanary with
  | .error e => pure (.error e)
  | .ok outcome => do
    modify (fun d => d.emitIf (outcome = .inconclusive (.noStashMatch false))
      (.canaryUnparseableCanonical d.settings.canaryNostashmatchOverride))
    let d ← get
    match d.refusal outcome with
    | some e => pure (.error e)
    | none => do
      let liveness ← outgoingLiveness outgoing force
      let refused := Canary.probeRefuses liveness d.settings.canaryOnlineProbeStrict
      modify (·.emitIf (Canary.probeAlarms liveness) (.canaryOnlineProbe liveness.asStr refused))
      pure (if refused then .error (.canaryProbeNotLive liveness.asStr) else .ok ())

def lockedSwap [SerdeJson] (outgoing incoming : String) (force : Bool) :
    DaemonM (Except Error SwapReport) := do
  match ← swapGate outgoing force with
  | .error e => pure (.error e)
  | .ok () => attempt (swapLocked outgoing incoming)

def lockedAdopt (incoming : String) : DaemonM (Except Error SwapReport) :=
  attempt (adoptTargetLocked incoming)

/-- What a swap changes in the state, before the watch is brought up to date. -/
def Daemon.swapRecorded (d : Daemon) (target : ℕ) (at' : Nanos) : Daemon :=
  { (({ d with active := some target } : Daemon).invalidatePollSchedule.setAccount target
      (fun a => { a with parkedLanding := none })) with
    lastGood := none
    lastSwap := some at'
    lastBlindPreemptSwap := none
    signaledRetryAfterReserve := false
    signaledRetryAfterWalk := false }

def Daemon.commitCanonical (d : Daemon) (c : Credential) : Daemon :=
  { d with canonicalWatch := d.canonicalWatch.commit c }

/-- The baseline follows the incoming stash, when that can be read again. -/
def recordSwap (target : ℕ) (incoming : String) (at' : Nanos) : DaemonM Unit := do
  modify (·.swapRecorded target at')
  match ← attempt (AccountStash.read incoming) with
  | .ok stashed => modify (·.commitCanonical stashed.credential)
  | .error _ => pure ()

end Sessiometer
