import Sessiometer.Daemon.Polling

/-! # The tick

One tick observes (the canonical item, the active account, one poll), decides, and settles the
edges of its decision. -/

namespace Sessiometer

open Effects

variable [SerdeJson] [Sha256]

/-! ## Observing -/

def Daemon.beginTick (d : Daemon) : Daemon := { d with ticks := d.ticks + 1, events := [] }

def Daemon.clearLockBackoff (d : Daemon) : Daemon :=
  { d with lockBackoff := none, signaledKeychainLocked := false }

def reconcileIfRead (canonical : Option Credential) : DaemonM Unit :=
  match canonical with
  | some canonical => reconcileCanonicalChange canonical
  | none => pure ()

/-- An active account that is not known is resolved: by the canonical credential where there is
one, and otherwise from scratch. -/
def resolveUnknownActive (canonical : Option Credential) : DaemonM Unit := do
  let d ← get
  match d.active with
  | some _ => pure ()
  | none => do
    let active ← match canonical with
      | some canonical => resolveAccountFor canonical
      | none => resolveActive
    modify (fun d => { d with active := active })

/-- A new active account restarts the poll schedule. -/
def Daemon.settleActive (d : Daemon) (activeBefore : Option ℕ) : Daemon :=
  if d.active ≠ activeBefore then d.invalidatePollSchedule else d

/-- The poll's result, after the one refresh that a first 401 is worth. -/
def pollResult (i : ℕ) (canonical : Option Credential) (polled : Except Error Usage) :
    DaemonM (Except Error Usage) := do
  let d ← get
  if d.shouldRefreshRetry i polled then do
    let result ← refreshRetry i
    modify (·.noteOwnCredentialRefresh i)
    pure result
  else if d.shouldKeepWarmRetry i polled then keepWarmRetry i canonical
  else pure polled

def pollAccount (i : ℕ) (active : Option ℕ) (canonical : Option Credential) : DaemonM Unit := do
  let d ← get
  let polled ← poll (d.account i) (decide (active = some i))
  let result ← pollResult i canonical polled
  modify (·.notePollOutcome i result)
  noteAccountBackoff i (decide (active = some i)) result
  let now ← clockNow
  modify (·.noteReading i active result now)
  let nowSecs ← wallClockNowSecs
  modify (·.noteExhaustedPoll i active now nowSecs)
  let (clocks, source) ← readPollClocks (d.account i) (decide (active = some i))
  modify (·.setClocks i clocks)
  let nowSecs ← wallClockNowSecs
  modify (·.notePolledExpiry i clocks.refreshTokenExpiresAt source nowSecs)
  modify (·.notePolled i)

/-- The next account of the schedule, unless it is backing off or slow-polled. -/
def pollNext (active : Option ℕ) (canonical : Option Credential) : DaemonM Unit := do
  let d ← get
  modify (fun d => (d.nextPollIndex active).2)
  match (d.nextPollIndex active).1 with
  | none => pure ()
  | some i => do
    if ← accountBackingOff i then pure ()
    else do
      if ← exhaustedSlowPolling i active then pure ()
      else pollAccount i active canonical

/-- What a tick has observed by the time it decides. -/
structure TickView where
  at' : Nanos
  active : Option ℕ
  liveness : CanonicalLiveness
  readings : ℕ → Option Usage

/-- What a tick observes once the canonical item is reconciled. -/
def observeReconciled (at' : Nanos) (activeBefore : Option ℕ) (canonical : Option Credential)
    (absent : Bool) : DaemonM TickView := do
  resolveUnknownActive canonical
  modify (·.settleActive activeBefore)
  let d ← get
  noteActiveDesignation d.active
  let liveness := canonicalLiveness canonical absent
  modify (·.noteCanonicalLiveness liveness d.active)
  pollNext d.active canonical
  let observationNow ← clockNow
  modify (·.noteObservationGap d.active observationNow)
  let nowMs ← wallClockNowMs
  keepActiveWarm d.active canonical nowMs
  let observed ← get
  let readings := observed.decisionReadings d.active
  modify (·.noteBlindGateEligibility d.active readings at')
  pure ⟨at', d.active, liveness, readings⟩

/-- The part of a tick between the canonical read and the decision. -/
def observe (at' : Nanos) (activeBefore : Option ℕ) (canonical : Option Credential)
    (absent : Bool) : DaemonM TickView := do
  modify (·.clearLockBackoff)
  reconcileIfRead canonical
  observeReconciled at' activeBefore canonical absent

def lockBackoffBase : Nanos := secs 1

def lockBackoffCap : Nanos := secs 60

def nextLockBackoff : Option Nanos → Nanos
  | none => lockBackoffBase
  | some prev => min (prev * 2) lockBackoffCap

/-- A tick under a locked keychain only waits longer. -/
def Daemon.lockedTick (d : Daemon) : Daemon :=
  let noted := d.emitIf (!d.signaledKeychainLocked) .keychainLockedWait
  { noted with
    signaledKeychainLocked := true
    lockBackoff := some (nextLockBackoff d.lockBackoff) }

/-- What the read of the canonical item lets a tick observe: nothing under a locked keychain. -/
def observeRead (at' : Nanos) (activeBefore : Option ℕ) :
    Except Error Credential → DaemonM (Option TickView)
  | .error (.keychainLocked _) => do
    modify (·.lockedTick)
    pure none
  | .ok canonical => some <$> observe at' activeBefore (some canonical) false
  | .error .credentialNotFound => some <$> observe at' activeBefore none true
  | .error _ => some <$> observe at' activeBefore none false

/-- A tick up to its decision. -/
def observeTick : DaemonM (Option TickView) := do
  modify (·.beginTick)
  let at' ← clockNow
  let d ← get
  let canonical ← attempt CredentialStore.read
  observeRead at' d.active canonical

/-! ## Deciding and settling -/

/-- A cleared canonical item is recovered from before anything else is decided. -/
def recoverIfScrubbed (view : TickView) : DaemonM (Option TickAction) :=
  if view.liveness = .scrubbed then
    recoverScrubbedCanonical view.active view.readings view.at'
  else pure none

def decideTick (view : TickView) : DaemonM TickAction := do
  match ← recoverIfScrubbed view with
  | some recovered => pure recovered
  | none => decideAction view.at' view.active view.readings

/-- The terminal edges that another decision closes. -/
def Daemon.settle (d : Daemon) (action : TickAction) : Daemon :=
  let exhausted :=
    if action = .noViableTarget then d
    else { d.emitIf d.signaledAllExhausted .allExhaustedCleared with signaledAllExhausted := false }
  let dead :=
    if action = .activeDeadNoTarget then exhausted
    else
      { exhausted.emitIf exhausted.signaledActiveDeadNoTarget .activeDeadNoTargetCleared with
        signaledActiveDeadNoTarget := false }
  dead.noteNearLimit

/-- What is left of a tick once it has observed. -/
def finishTick : Option TickView → DaemonM TickAction
  | none => pure .keychainLocked
  | some view => do
    let action ← decideTick view
    modify (·.settle action)
    pure action

def tick : DaemonM TickAction := do
  finishTick (← observeTick)

/-- A tick begins, reads the canonical item, and goes on with what that gave. -/
theorem tick_eq : tick = (do
    modify (·.beginTick)
    let at' ← clockNow
    let d ← get
    let canonical ← attempt CredentialStore.read
    finishTick (← observeRead at' d.active canonical)) := by
  unfold tick observeTick
  simp only [bind_assoc]

end Sessiometer
