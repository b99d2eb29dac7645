import Sessiometer.Daemon.Tick

/-! # Commands between ticks

What the loop does for a caller while it waits: a manual swap it is told of, a swap it is asked
for, a new roster. -/

namespace Sessiometer

open Effects

/-- `resolve_target`: the one account with this label or uuid. -/
def resolveTarget (roster : List Account) (query : String) : Except Error ℕ :=
  match (List.range roster.length).filter
      (fun i => roster[i]?.any (fun a => a.label == query || a.accountUuid == query)) with
  | [] => .error (.useTargetNotFound query)
  | [i] => .ok i
  | many => .error (.useTargetAmbiguous query many.length)

/-- The cached active account follows the canonical credential. -/
def followCanonical (canonical : Credential) : DaemonM Unit := do
  let d ← get
  let next ← resolveAccountFor canonical
  modify (fun d => ({ d with active := next } : Daemon))
  modify (·.deactivateRecoveryProbe d.active next)
  modify (fun s => if next ≠ d.active then
    ({ s with lastGood := none } : Daemon).invalidatePollSchedule else s)
  modify (·.commitCanonical canonical)

/-- The manual swap's signal: the daemon follows what canonical now holds, and starts a cooldown. -/
def adoptManualSwap : DaemonM Unit := do
  let at' ← clockNow
  match ← attempt CredentialStore.read with
  | .ok canonical => followCanonical canonical
  | .error _ => pure ()
  modify (fun d => { d with lastSwap := some at' })

inductive SwapRejection where
  | unknownTarget
  | ambiguousTarget
  | quarantined
  | weeklyExhausted
  | cooldown
  | noActiveAccount
  | swapLockBusy
  | keychainLocked
  | failed
deriving DecidableEq

inductive SwapVerdict where
  | swap
  | alreadyActive
  | reject (reason : SwapRejection)
deriving DecidableEq

inductive SwapAck where
  | accepted (source target : String)
  | alreadyActive (target : String)
  | rejected (reason : SwapRejection)
deriving DecidableEq

def swapCommandVerdict (target : ℕ) (active : Option ℕ)
    (quarantined weeklyExhausted inCooldown force : Bool) : SwapVerdict :=
  if !force && decide (active = some target) then .alreadyActive
  else if active.isNone then .reject .noActiveAccount
  else if force then .swap
  else if quarantined then .reject .quarantined
  else if weeklyExhausted then .reject .weeklyExhausted
  else if inCooldown then .reject .cooldown
  else .swap

def classifySwapFailure : Error → SwapRejection
  | .keychainLocked _ => .keychainLocked
  | .swapLockBusy => .swapLockBusy
  | .credentialNotFound => .noActiveAccount
  | _ => .failed

/-- The verdict on a swap command, from the daemon's own state. -/
def Daemon.socketVerdict (d : Daemon) (target : ℕ) (now : Nanos) (force : Bool) : SwapVerdict :=
  swapCommandVerdict target d.active (d.accounts target).health.quarantined
    ((d.accounts target).lastReading.any (fun u => atLeast u.weekly d.weeklyRotationLine))
    (d.withinCooldown now d.settings.cooldownBase) force

/-- The swap that an admitted command makes. -/
def commandedSwap [SerdeJson] (source target : ℕ) (now : Nanos) (force : Bool) :
    DaemonM SwapAck := do
  let d ← get
  match ← lockedSwap (d.account source).stash (d.account target).stash force with
  | .ok _ => do
    let after ← get
    recordSwap target (d.account target).stash now
    modify (·.deactivateRecoveryProbe after.active (some target))
    emit (.swap (d.account source).label (d.account target).label
      (if force then .forced else .manual) (some 0) none)
    pure (.accepted (d.account source).label (d.account target).label)
  | .error e => pure (.rejected (classifySwapFailure e))

def performSocketSwap [SerdeJson] (query : String) (force : Bool) : DaemonM SwapAck := do
  let d ← get
  match resolveTarget d.roster query with
  | .error (.useTargetAmbiguous _ _) => pure (.rejected .ambiguousTarget)
  | .error _ => pure (.rejected .unknownTarget)
  | .ok target => do
    let now ← clockNow
    match d.socketVerdict target now force with
    | .alreadyActive => pure (.alreadyActive (d.account target).label)
    | .reject reason => pure (.rejected reason)
    | .swap =>
      match d.active with
      | none => pure (.rejected .noActiveAccount)
      | some source => commandedSwap source target now force

inductive ReloadIntent where
  | appendOnly
  | mutating
deriving DecidableEq

/-- The state of each account of the new roster: its own, or a fresh one. -/
def Daemon.carryOver (d : Daemon) (newRoster : List Account) (i : ℕ) : AccountRuntime :=
  match newRoster[i]? with
  | some account =>
    match rosterPosition d.roster account.accountUuid with
    | some old => d.accounts old
    | none => {}
  | none => {}

/-- Adopts a new roster, unless it is shorter and only an append was meant. -/
def Daemon.reconcileRoster (d : Daemon) (newRoster : List Account) (intent : ReloadIntent) :
    Daemon :=
  if intent = .appendOnly ∧ newRoster.length < d.roster.length then d
  else
    let active := ((d.active.bind (fun i => d.roster[i]?)).map (·.accountUuid)).bind
      (rosterPosition newRoster)
    let adopted : Daemon :=
      { d with roster := newRoster, accounts := d.carryOver newRoster, active := active }
    let dropped := if active = none then { adopted with lastGood := none } else adopted
    dropped.invalidatePollSchedule

end Sessiometer
