import Sessiometer.Daemon.Gate

/-! # The swap arms of a tick

What one tick does about the active account: hold, or leave it for a viable target. -/

namespace Sessiometer

open Effects

namespace Daemon

variable (d : Daemon)

def selectionTiebreak : SelectionTiebreak := ⟨d.accounts, d.settings.tiebreakSeed⟩

def weeklyRotationLine : ℚ := weeklyEffectiveCeiling d.settings.weeklyCeilingBase

def plausibleActiveUsage (i : ℕ) (usage : Usage) : Usage :=
  plausibleSession (d.accounts i).sessionHighWater usage

/-- `pick_target_ranked` over the daemon's own roster, mask and tie-break. -/
def pickRanked (i : ℕ) (readings : ℕ → Option Usage) (floor sessionCeiling : Option ℚ)
    (weeklyCeiling : ℚ) : Option ℕ :=
  pickTargetRanked d.roster.length i readings d.enabledMask floor sessionCeiling weeklyCeiling
    d.selectionTiebreak

end Daemon

/-! ## Leaving a dead account -/

def emergencySwap [SerdeJson] (at' : Nanos) (i : ℕ) (readings : ℕ → Option Usage) :
    DaemonM TickAction := do
  let d ← get
  let drawn ← d.settings.weeklyCeilingStrategy.draw weeklyCeilingPctLo weeklyCeilingPctHi
  let weeklyCeiling := drawn / 100
  match d.pickRanked i readings none none weeklyCeiling with
  | none => do
    if ¬ d.signaledActiveDeadNoTarget then
      let relief := allExhaustedRelief d.roster.length i readings d.enabledMask none weeklyCeiling
      emit (.activeDeadNoTarget (d.account i).label relief.1 relief.2.2)
      modify (fun d => { d with signaledActiveDeadNoTarget := true })
    pure .activeDeadNoTarget
  | some target => do
    match ← lockedSwap (d.account i).stash (d.account target).stash false with
    | .ok _ => do
      recordSwap target (d.account target).stash at'
      emit (.emergencySwap (d.account i).label (d.account target).label)
      pure (.emergencySwapped i target)
    | .error _ => pure .swapFailed

/-! ## Leaving an account that cannot be read -/

def retryAfterWalkWindow : Nanos := secs 3600

def retryAfterWalkMax : ℕ := 2

namespace Daemon

variable (d : Daemon)

/-- The record with what has left the window forgotten. -/
def pruneRetryAfterSwaps (at' : Nanos) : Daemon :=
  { d with
    retryAfterSwaps := d.retryAfterSwaps.filter
      (fun s => decide (saturatingDurationSince at' s < retryAfterWalkWindow)) }

/-- The retained session figure alone carries the blind swap. -/
def anchorArmed (i : ℕ) (anchor : LastGood) : Bool :=
  atLeast (plausibleAnchorSession (d.accounts i).sessionHighWater anchor.session)
    d.settings.sessionBlindRiskBand

def retryAfter (i : ℕ) (at' : Nanos) : Option Nanos :=
  serverRetryAfterHolding (d.accounts i).health at'

/-- The server's back-off, where nothing else carries the blind swap. -/
def speculative (i : ℕ) (at' : Nanos) (anchor : LastGood) : Option Nanos :=
  if d.anchorArmed i anchor then none else d.retryAfter i at'

/-- The wait and one of the two authorities of the blind swap. -/
def blindSwapArmed (i : ℕ) (at' : Nanos) (anchor : LastGood) : Bool :=
  decide (d.settings.sessionBlindSwapSecs < asSecs (saturatingDurationSince at' anchor.at')) &&
    (d.anchorArmed i anchor || (d.retryAfter i at').isSome)

def pickBlind (i : ℕ) (readings : ℕ → Option Usage) : Option (ℕ × NextSwapReason) :=
  pickTargetWithReasonRanked d.roster.length i readings d.enabledMask
    (some d.settings.targetMaxSessionUsage) (some d.settings.sessionCeilingBase)
    d.weeklyRotationLine d.selectionTiebreak

def withinCooldown (at' cooldown : Nanos) : Bool :=
  d.lastSwap.any (fun last => decide (saturatingDurationSince at' last < cooldown))

end Daemon

def retryAfterWalkCount (at' : Nanos) : DaemonM ℕ := do
  modify (·.pruneRetryAfterSwaps at')
  let d ← get
  pure d.retryAfterSwaps.length

def drawCooldown : DaemonM Nanos := do
  let d ← get
  let drawn ← d.settings.cooldownStrategy.draw cooldownSecsLo cooldownSecsHi
  pure (fromSecs drawn)

/-- The walk breaker: a swap on the server's word alone, with enough of them in the window. -/
def walkBreaker (at' : Nanos) (i : ℕ) (speculative : Option Nanos) : DaemonM Bool := do
  let swaps ← retryAfterWalkCount at'
  match speculative with
  | none => pure false
  | some ra => do
    if retryAfterWalkMax ≤ swaps then
      let d ← get
      if ¬ d.signaledRetryAfterWalk then
        emit (.retryAfterWalk (d.account i).accountUuid swaps (asSecs retryAfterWalkWindow)
          (asSecs ra))
        modify (fun d => { d with signaledRetryAfterWalk := true })
      pure true
    else pure false

/-- The reserve breaker: a swap on the server's word alone, onto the only viable target. -/
def reserveBreaker (i : ℕ) (speculative : Option Nanos) (reason : NextSwapReason)
    (blindElapsed : ℕ) : DaemonM Bool := do
  match speculative with
  | none => pure false
  | some ra => do
    if reason = .onlyCandidate then
      let d ← get
      if ¬ d.signaledRetryAfterReserve then
        emit (.blindPreemptReserveHold (d.account i).accountUuid (asSecs ra) blindElapsed)
        modify (fun d => { d with signaledRetryAfterReserve := true })
      pure true
    else pure false

/-- The blind swap itself, once no breaker stands in its way. -/
def performBlindSwap [SerdeJson] (at' : Nanos) (i target : ℕ) (anchor : LastGood)
    (retryAfter : Option Nanos) : DaemonM TickAction := do
  let d ← get
  match ← lockedSwap (d.account i).stash (d.account target).stash false with
  | .ok _ => do
    let lastKnownSessionPct := anchor.session.map toPct
    recordSwap target (d.account target).stash at'
    emit (.swap (d.account i).label (d.account target).label .blindPreempt lastKnownSessionPct none)
    modify (fun s => { s with lastBlindPreemptSwap := lastKnownSessionPct.map (fun pct =>
      ⟨(d.account i).label, (d.account target).label, pct, at'⟩) })
    if retryAfter.isSome then
      modify (fun s => { s with retryAfterSwaps := s.retryAfterSwaps ++ [at'] })
    pure (.preemptivelySwapped i target)
  | .error _ => pure .swapFailed

def blindSwap [SerdeJson] (at' : Nanos) (i : ℕ) (readings : ℕ → Option Usage) :
    DaemonM TickAction := do
  let d ← get
  match d.lastGood with
  | none => pure .skippedActiveUnavailable
  | some anchor => do
    if ¬ d.blindSwapArmed i at' anchor then pure .skippedActiveUnavailable
    else if ¬ d.warmedUp then pure .skippedActiveUnavailable
    else do
      let cooldown ← drawCooldown
      if d.withinCooldown at' cooldown then pure .skippedCooldown
      else do
        if ← walkBreaker at' i (d.speculative i at' anchor) then pure .skippedActiveUnavailable
        else
          match d.pickBlind i readings with
          | none => pure .skippedActiveUnavailable
          | some (target, reason) => do
            if ← reserveBreaker i (d.speculative i at' anchor) reason
                (asSecs (saturatingDurationSince at' anchor.at')) then
              pure .skippedActiveUnavailable
            else performBlindSwap at' i target anchor (d.retryAfter i at')

/-! ## Leaving an account that is running out -/

def velocitySwap [SerdeJson] (at' : Nanos) (i : ℕ) (sessionCeiling weeklyThreshold : ℚ)
    (readings : ℕ → Option Usage) : DaemonM TickAction := do
  let d ← get
  let horizon := d.settings.sessionVelocityHorizonSecs
  if horizon = 0 then pure .held
  else
    match ((readings i).map (d.plausibleActiveUsage i)).bind (·.session),
        (d.accounts i).sustainedSessionVelocity with
    | some session, some vel =>
      let projected := session + vel.rate * horizon
      if session < d.settings.sessionVelocityMinProjectAbove then pure .held
      else if projected < effectiveCeiling sessionCeiling then pure .held
      else if ¬ d.warmedUp then pure .held
      else do
        let cooldown ← drawCooldown
        if d.withinCooldown at' cooldown then pure .skippedCooldown
        else
          match d.pickRanked i readings (some d.settings.targetMaxSessionUsage)
              (some sessionCeiling) weeklyThreshold with
          | none => pure .held
          | some target => do
            match ← lockedSwap (d.account i).stash (d.account target).stash false with
            | .ok _ => do
              recordSwap target (d.account target).stash at'
              emit (.swap (d.account i).label (d.account target).label .velocityPreempt
                (some (toPct session)) (some {
                  projectedPct := toPctExact projected
                  ratePctPerSec := toPctExact vel.rate
                  horizonSecs := horizon
                  ceilingPct := toPctExact (effectiveCeiling sessionCeiling) }))
              pure (.velocityPreemptivelySwapped i target)
            | .error _ => pure .swapFailed
    | _, _ => pure .held

/-- The reactive threshold of this tick: the effective ceiling, brought forward by the velocity. -/
def Daemon.sessionThreshold (d : Daemon) (i : ℕ) (sessionCeiling : ℚ) : ℚ :=
  reactiveSessionThreshold (effectiveCeiling sessionCeiling)
    (((d.accounts i).sustainedSessionVelocity.map (·.rate)).getD 0)
    (reactivePollGapSecs d.settings.nearLimitPollSecs)

/-- Over the threshold: wait for the warm-up and the cooldown, then leave for a viable target. -/
def reactiveSwap [SerdeJson] (at' : Nanos) (i : ℕ) (activeUsage : Usage)
    (sessionCeiling weeklyCeiling : ℚ) (readings : ℕ → Option Usage) : DaemonM TickAction := do
  let d ← get
  let sessionThreshold := d.sessionThreshold i sessionCeiling
  let boundary := viabilityBoundary sessionCeiling d.settings.targetMaxSessionUsage weeklyCeiling
  if ¬ d.warmedUp then pure .held
  else do
    let cooldown ← drawCooldown
    let atRawCeiling := atLeast activeUsage.session sessionCeiling
    if d.withinCooldown at' cooldown && !atRawCeiling then pure .skippedCooldown
    else
      match d.pickRanked i readings (some d.settings.targetMaxSessionUsage)
          (some sessionCeiling) boundary.weekly with
      | none => do
        if ¬ d.signaledAllExhausted then
          let relief := allExhaustedRelief d.roster.length i readings d.enabledMask
            (some boundary.session) boundary.weekly
          emit (.allExhausted (d.account relief.2.1).label relief.1 relief.2.2)
          modify (fun d => { d with signaledAllExhausted := true })
        pure .noViableTarget
      | some target => do
        match ← lockedSwap (d.account i).stash (d.account target).stash false with
        | .ok _ => do
          recordSwap target (d.account target).stash at'
          let sessionOver := activeUsage.session.filter (fun s => decide (sessionThreshold ≤ s))
          emit (.swap (d.account i).label (d.account target).label
            (if sessionOver.isSome then .session else .weekly) (activeUsage.session.map toPct) none)
          match sessionOver with
          | some session => modify (·.setAccount i (fun a =>
              { a with parkedLanding := some ⟨at', toPct session⟩ }))
          | none => pure ()
          pure (.swapped i target)
        | .error _ => pure .swapFailed

/-- What a tick does about an active account it can read, under the ceilings it has drawn. -/
def decideReadable [SerdeJson] (at' : Nanos) (i : ℕ) (activeUsage : Usage)
    (sessionCeiling weeklyCeiling : ℚ) (readings : ℕ → Option Usage) : DaemonM TickAction := do
  let d ← get
  let weeklyThreshold :=
    (viabilityBoundary sessionCeiling d.settings.targetMaxSessionUsage weeklyCeiling).weekly
  match activeUsage.decide (d.sessionThreshold i sessionCeiling) weeklyThreshold with
  | .hold => velocitySwap at' i sessionCeiling weeklyThreshold readings
  | .swap => reactiveSwap at' i activeUsage sessionCeiling weeklyCeiling readings

def decideAction [SerdeJson] (at' : Nanos) (active : Option ℕ) (readings : ℕ → Option Usage) :
    DaemonM TickAction := do
  match active with
  | none => pure .skippedActiveUnknown
  | some i => do
    let d ← get
    if (d.accounts i).health.quarantined then
      match readings i with
      | none => emergencySwap at' i readings
      | some _ => pure .held
    else
      match readings i with
      | none => blindSwap at' i readings
      | some usage => do
        let activeUsage := d.plausibleActiveUsage i usage
        modify (fun d => { d with signaledRetryAfterReserve := false, signaledRetryAfterWalk := false })
        let sessionPct ← d.settings.sessionCeilingStrategy.drawDownward sessionCeilingPctLo
          sessionCeilingPctHi
        let weeklyPct ← d.settings.weeklyCeilingStrategy.drawDownward weeklyCeilingPctLo
          weeklyCeilingPctHi
        decideReadable at' i activeUsage (sessionPct / 100) (weeklyPct / 100) readings

end Sessiometer
