import Sessiometer.Daemon.Refresh

/-! # Polling

Which account a tick polls, and what it makes of the reading: back-offs, velocities, episodes. -/

namespace Sessiometer

open Effects

/-! ## The schedule -/

namespace Daemon

variable (d : Daemon)

/-- Enabled and not quarantined: a peer of the rotation. -/
def inRotation (i : ℕ) : Bool := d.enabledMask i && !(d.accounts i).health.quarantined

/-- Each peer in turn, the active account before every one of them. -/
def buildPollSchedule (active : Option ℕ) : List ℕ :=
  let peers := (List.range d.roster.length).filter
    (fun i => decide (active ≠ some i) && d.inRotation i)
  match active with
  | none => peers
  | some a => if peers = [] then [a] else peers.flatMap (fun i => [a, i])

/-- A schedule that has been walked through is built anew. -/
def refillPollSchedule (active : Option ℕ) : Daemon :=
  if d.pollSchedule.length ≤ d.pollPos then
    { d with pollSchedule := d.buildPollSchedule active, pollPos := 0 }
  else d

def nextPollIndex (active : Option ℕ) : Option ℕ × Daemon :=
  let filled := d.refillPollSchedule active
  (filled.pollSchedule[filled.pollPos]?, { filled with pollPos := filled.pollPos + 1 })

/-- The warm-up ends once every account of the schedule has been polled. -/
def notePolled (i : ℕ) : Daemon :=
  let polled := d.setAccount i (fun a => { a with polledOnce := true })
  { polled with
    warmedUp := polled.warmedUp || polled.pollSchedule.all (fun j => (polled.accounts j).polledOnce) }

def decisionReadings (active : Option ℕ) (i : ℕ) : Option Usage :=
  if i < d.roster.length ∧ (active = some i ∨ d.inRotation i) then (d.accounts i).lastReading
  else none

def rotationLen : ℕ :=
  ((List.range d.roster.length).filter
    (fun i => decide (d.active = some i) || d.inRotation i)).length

def nearLimitAppliedSubIntervalSecs : ℚ :=
  min (clamp d.settings.pollStrategy.base pollSecsLo pollSecsHi / (max d.rotationLen 1 : ℕ))
    d.settings.nearLimitPollSecs

def observationGapThreshold : Nanos :=
  secs (d.settings.pollStrategy.base.floor.toNat * 2 / max d.rotationLen 1)

end Daemon

/-! ## Back-off -/

def pollBackoffMaxShift : ℕ := 6

def pollBackoffCap : Nanos := secs 3600

def activePollBackoffCap : Nanos := secs 120

def nextPollInterval : DaemonM Nanos := do
  let d ← get
  let drawn ← d.settings.pollStrategy.draw pollSecsLo pollSecsHi
  pure (fromSecs drawn)

/-- The next wait of an account that failed `streak` times in a row: doubled, capped, and never
shorter than the server asked of the active account. -/
def backoffWait (interval : Nanos) (streak : ℕ) (isActive : Bool) (retryAfter : Option Nanos) :
    Nanos :=
  let expCap := if isActive then activePollBackoffCap else pollBackoffCap
  let widened := min (interval * 2 ^ min streak pollBackoffMaxShift) expCap
  match retryAfter with
  | some ra => if isActive then max widened ra else min (max widened ra) pollBackoffCap
  | none => widened

/-- The greatest `Instant`: 64-bit seconds and the nanoseconds below the next one. -/
def instantMax : Nanos := secs (2 ^ 63) - 1

def checkedAdd (now wait : Nanos) : Option Nanos :=
  if now + wait ≤ instantMax then some (now + wait) else none

/-- A wait that overflows the instant falls back to the cap of a peer. -/
def backoffUntil (now wait : Nanos) : Nanos :=
  (checkedAdd now wait).getD (now + pollBackoffCap)

def Daemon.clearBackoff (d : Daemon) (i : ℕ) : Daemon :=
  (d.setHealth i (fun h =>
    { h with pollBackoffStreak := 0, pollBackoffUntil := none, pollBackoffRetryAfter := none })).emitIf
    (d.accounts i).health.pollBackoffUntil.isSome (.usageBackoffCleared (d.account i).accountUuid)

def noteAccountBackoff (i : ℕ) (isActive : Bool) (result : Except Error Usage) : DaemonM Unit := do
  match backoffSignal result with
  | none => modify (·.clearBackoff i)
  | some signal => do
    modify (·.setHealth i (fun h => { h with pollBackoffStreak := h.pollBackoffStreak + 1 }))
    let d ← get
    let streak := (d.accounts i).health.pollBackoffStreak
    let interval ← nextPollInterval
    let wait := backoffWait interval streak isActive signal.retryAfter
    let now ← clockNow
    let until' := backoffUntil now wait
    modify (·.setHealth i (fun h =>
      { h with
        pollBackoffUntil := some until'
        pollBackoffRetryAfter := signal.retryAfter.filter (fun ra => decide (ra ≠ 0)) }))
    emit (.usageBackoff (d.account i).accountUuid signal.kind streak
      (signal.retryAfter.map asSecs) (asSecs (saturatingDurationSince until' now)))

/-- The slow window of an exhausted account: until its blocking reset, within its bounds. -/
def exhaustedPollWindow (reading : Usage) (weeklyCeiling sessionCeiling : ℚ) (nowSecs : Int)
    (exhaustedPollSecs pollSecs : ℕ) : Nanos :=
  let weeklyReset := if atLeast reading.weekly weeklyCeiling then reading.weeklyResetsAt else none
  let sessionReset :=
    if atLeast reading.session sessionCeiling then reading.sessionResetsAt else none
  let soonest := match weeklyReset, sessionReset with
    | some a, some b => some (min a b)
    | some a, none => some a
    | none, b => b
  secs (match soonest with
    | some resetsAt => (min (max (resetsAt - nowSecs) pollSecs) exhaustedPollSecs).toNat
    | none => exhaustedPollSecs)

namespace Daemon

variable (d : Daemon)

/-- A parked account at a rotation line is out of the rotation until its window resets. -/
def outOfRotation (i : ℕ) (active : Option ℕ) (reading : Usage) : Bool :=
  decide (active ≠ some i) &&
    (atLeast reading.weekly d.weeklyRotationLine ||
      atLeast reading.session d.settings.sessionCeilingBase)

def noteExhaustedPoll (i : ℕ) (active : Option ℕ) (now : Nanos) (nowSecs : Int) : Daemon :=
  match (d.accounts i).lastReading with
  | none => d
  | some reading =>
    let wasSlowPolling := (d.accounts i).health.exhaustedPollUntil.isSome
    let accountUuid := (d.account i).accountUuid
    if d.outOfRotation i active reading then
      let window := exhaustedPollWindow reading d.weeklyRotationLine d.settings.sessionCeilingBase
        nowSecs d.settings.exhaustedPollSecs d.settings.pollStrategy.base.floor.toNat
      (d.setHealth i (fun h => { h with exhaustedPollUntil := some (now + window) })).emitIf
        (!wasSlowPolling) (.exhaustedSlowPoll accountUuid (asSecs window))
    else
      (d.setHealth i (fun h => { h with exhaustedPollUntil := none })).emitIf wasSlowPolling
        (.exhaustedSlowPollCleared accountUuid)

/-! ## Velocity -/

def noteSessionVelocity (i : ℕ) (prevSession nextSession : ℚ) (elapsedSecs : ℕ) : Daemon :=
  if elapsedSecs = 0 ∨ nextSession < prevSession then
    d.setAccount i (fun a => { a with sessionVelocity := none })
  else
    let instant := (nextSession - prevSession) / elapsedSecs
    let alpha := d.settings.sessionVelocityEmaAlpha
    d.setAccount i (fun a =>
      { a with
        sessionVelocity := some (match a.sessionVelocity with
          | some prev => ⟨alpha * instant + (1 - alpha) * prev.rate, prev.samples + 1⟩
          | none => ⟨instant, 1⟩) })

end Daemon

def blindVelocityRateInflation : ℚ := 175 / 100

/-- The change of two readings in whole percents, window by window. -/
def usageVelocity (prev next : Usage) : Option Int × Option Int :=
  let delta : Option ℚ → Option ℚ → Option Int := fun prev next =>
    match prev, next with
    | some prev, some next => some ((toPct next : Int) - toPct prev)
    | _, _ => none
  (delta prev.session next.session, delta prev.weekly next.weekly)

def moved (delta : Option Int) : Bool := delta.any (fun x => decide (x ≠ 0))

namespace Daemon

variable (d : Daemon)

/-- The velocity of an interval between two readings, unless one of them is known to be stale. -/
def noteInterval (i : ℕ) (next : Usage) (now : Nanos) : Daemon :=
  match (d.accounts i).lastReading, (d.accounts i).lastReadingAt with
  | some prev, some prevAt =>
    let deltas := usageVelocity prev next
    let elapsedSecs := asSecs (saturatingDurationSince now prevAt)
    let noted := d.emitIf ((moved deltas.1 || moved deltas.2) && decide (0 < elapsedSecs))
      (.usageVelocity (d.account i).accountUuid deltas.1 deltas.2 elapsedSecs)
    let highWater := (d.accounts i).sessionHighWater
    if isStaleLow highWater prev || isStaleLow highWater next then noted
    else match prev.session, next.session with
      | some prevSession, some nextSession =>
        noted.noteSessionVelocity i prevSession nextSession elapsedSecs
      | _, _ => noted
  | _, _ => d

def blindVelocityIngredients (i : ℕ) : Option BlindVelocity :=
  (d.accounts i).sustainedSessionVelocity.map (fun vel =>
    ⟨toPctExact vel.rate, blindVelocityRateInflation, toPctExact d.settings.sessionCeilingBase⟩)

def blindAnchorHighWater (i : ℕ) (anchorSession : Option ℚ) : Option ℕ :=
  match anchorSession, plausibleAnchorSession (d.accounts i).sessionHighWater anchorSession with
  | some anchor, some corrected => if anchor < corrected then some (toPct corrected) else none
  | _, _ => none

/-! ## Episodes -/

/-- The active account can be read again after a blind window. -/
def noteBlindWindow (i : ℕ) (active : Option ℕ) (fresh : Usage) (now : Nanos) : Daemon :=
  match d.lastGood with
  | some anchor =>
    d.emitIf (decide (active = some i) && (d.accounts i).lastReading.isNone)
      (.blindWindow (d.account i).accountUuid (asSecs (saturatingDurationSince now anchor.at'))
        (anchor.session.map toPct) (fresh.session.map toPct)
        (atLeast anchor.session d.settings.sessionCeilingBase) (d.blindVelocityIngredients i)
        (d.blindAnchorHighWater i anchor.session))
  | none => d

def noteBlindEpisode (i : ℕ) (active : Option ℕ) (result : Except Error Usage) (now : Nanos) :
    Daemon :=
  match (d.accounts i).blindAnchor, result with
  | none, .error _ =>
    match (d.accounts i).lastReading, (d.accounts i).lastReadingAt with
    | some prev, some prevAt =>
      let wasActive := decide (active = some i)
      let nearLimit := atLeast prev.session d.settings.sessionCeilingBase
      (d.setAccount i (fun a =>
        { a with
          blindAnchor := some ⟨prev.session, prev.weekly, prevAt, wasActive, nearLimit⟩ })).emit
        (.blindEnter (d.account i).accountUuid (prev.session.map toPct) (prev.weekly.map toPct)
          wasActive nearLimit)
    | _, _ => d
  | some anchor, .ok fresh =>
    (d.emit (.blindExit (d.account i).accountUuid
      (asSecs (saturatingDurationSince now anchor.at')) (anchor.session.map toPct)
      (fresh.session.map toPct) (anchor.weekly.map toPct) (fresh.weekly.map toPct)
      anchor.wasActive (anchor.wasActive && decide (active ≠ some i))
      anchor.nearLimit)).setAccount i (fun a => { a with blindAnchor := none })
  | some _, .error _ => d
  | none, .ok _ => d

end Daemon

def landingWindow : Nanos := secs 900

def landingSloCeilingPct : ℕ := 99

def isOvershoot (landingPct : ℕ) : Bool := decide (landingSloCeilingPct ≤ landingPct)

namespace Daemon

variable (d : Daemon)

def clearParkedLanding (i : ℕ) : Daemon := d.setAccount i (fun a => { a with parkedLanding := none })

def noteLandingOvershoot (i : ℕ) (active : Option ℕ) (result : Except Error Usage) (now : Nanos) :
    Daemon :=
  match (d.accounts i).parkedLanding with
  | none => d
  | some parked =>
    if active = some i ∨ landingWindow ≤ saturatingDurationSince now parked.armedAt then
      d.clearParkedLanding i
    else
      match result with
      | .error _ => d
      | .ok fresh =>
        match fresh.session with
        | none => d.clearParkedLanding i
        | some session =>
          if isOvershoot (toPct session) then
            let record : LandingOvershootRecord :=
              ⟨(d.account i).label, parked.decisionPct, toPct session, now⟩
            ({ d with lastLandingOvershoot := some record }).clearParkedLanding i
          else d

/-- What a reading leaves on the account: its high-water mark, its stamp, and the anchor of a later
blind window. -/
def storeReading (i : ℕ) (active : Option ℕ) (result : Except Error Usage) (now : Nanos) : Daemon :=
  match result with
  | .ok fresh =>
    let stored := d.setAccount i (fun a =>
      { a with
        sessionHighWater := SessionHighWater.fold a.sessionHighWater fresh
        sessionVelocity := if fresh.session.isNone then none else a.sessionVelocity
        lastReading := some fresh
        lastReadingAt := some now })
    if active = some i then { stored with lastGood := some ⟨fresh.session, fresh.weekly, now⟩ }
    else stored
  | .error _ => d.setAccount i (fun a => { a with lastReading := none, lastReadingAt := none })

/-- Everything a reading is folded into before the exhausted-poll window. -/
def noteReading (i : ℕ) (active : Option ℕ) (result : Except Error Usage) (now : Nanos) : Daemon :=
  let compared := match result with
    | .ok fresh => (d.noteInterval i fresh now).noteBlindWindow i active fresh now
    | .error _ => d
  ((compared.noteBlindEpisode i active result now).noteLandingOvershoot i active result
    now).storeReading i active result now

def setClocks (i : ℕ) (clocks : CredentialClocks) : Daemon :=
  d.setHealth i (fun h =>
    { h with
      pollExpiresAt := clocks.accessExpiresAt
      refreshTokenExpiresAt := clocks.refreshTokenExpiresAt })

/-- The later of two stamps; `None` is the earliest. -/
def laterOf : Option Nanos → Option Nanos → Option Nanos
  | some a, some b => some (max a b)
  | some a, none => some a
  | none, b => b

/-- The gap of one account: it closes on a new observation, and opens only for the active one. -/
def noteObservationGapOf (active : Option ℕ) (threshold now : Nanos) (i : ℕ) : Daemon :=
  let observedAt := laterOf (d.accounts i).lastReadingAt ((d.accounts i).blindAnchor.map (·.at'))
  let accountUuid := (d.account i).accountUuid
  match (d.accounts i).observationGap with
  | some anchor =>
    match observedAt with
    | none => d
    | some observed =>
      if observed ≤ anchor.at' then d
      else
        (d.emit (.observationGapExit accountUuid (asSecs (observed - anchor.at')) anchor.wasActive
          (anchor.wasActive && (decide (active ≠ some i) ||
            d.activeDesignation.any (fun a => decide (anchor.at' < a.at')))))).setAccount i
          (fun a => { a with observationGap := none })
  | none =>
    if threshold = 0 ∨ active ≠ some i then d
    else
      let designatedAt := (d.activeDesignation.filter
        (fun a => decide (a.accountUuid = accountUuid))).map (·.at')
      match laterOf observedAt designatedAt with
      | none => d
      | some anchoredAt =>
        if saturatingDurationSince now anchoredAt ≤ threshold then d
        else
          (d.setAccount i (fun a => { a with observationGap := some ⟨anchoredAt, true⟩ })).emit
            (.observationGapEnter accountUuid (asSecs (saturatingDurationSince now anchoredAt))
              (asSecs threshold) true)

def noteObservationGap (active : Option ℕ) (now : Nanos) : Daemon :=
  (List.range d.roster.length).foldl
    (fun s i => s.noteObservationGapOf active d.observationGapThreshold now i) d

def blindGateViable (i : ℕ) (readings : ℕ → Option Usage) : Bool :=
  (pickTarget d.roster.length i readings d.enabledMask (some d.settings.targetMaxSessionUsage)
    (some d.settings.sessionCeilingBase) d.weeklyRotationLine).isSome

def clearBlindGate : Daemon := { d with blindGateSignaled := false }

def noteBlindGateEligibility (active : Option ℕ) (readings : ℕ → Option Usage) (at' : Nanos) :
    Daemon :=
  match active with
  | none => d.clearBlindGate
  | some i =>
    if (d.accounts i).lastReading.isSome then d.clearBlindGate
    else if (d.accounts i).health.quarantined then d
    else
      match d.lastGood with
      | none => d.clearBlindGate
      | some anchor =>
        let blindSecs := asSecs (saturatingDurationSince at' anchor.at')
        let gateSession := plausibleAnchorSession (d.accounts i).sessionHighWater anchor.session
        match anchor.session with
        | none => d
        | some anchorSession =>
          if blindGateArmed blindSecs gateSession && d.warmedUp && !d.blindGateSignaled then
            { d.emit (.blindGateEligible (d.account i).accountUuid (d.blindGateViable i readings)
                blindSecs (toPct anchorSession)) with blindGateSignaled := true }
          else d

/-! ## The near-limit cadence -/

def activeNearLimit (i : ℕ) : Bool :=
  match ((d.accounts i).lastReading.map (d.plausibleActiveUsage i)).bind (·.session) with
  | none => false
  | some session =>
    let floor := d.settings.sessionVelocityMinProjectAbove
    let horizon := d.settings.sessionVelocityHorizonSecs
    decide (floor ≤ session) ||
      (decide (horizon ≠ 0) && (d.accounts i).sustainedSessionVelocity.any
        (fun vel => decide (floor ≤ session + vel.rate * horizon)))

def nearLimitFastPollEngaged : Bool :=
  decide (d.settings.nearLimitPollSecs ≠ 0) && d.warmedUp && d.active.any d.activeNearLimit

def noteNearLimit : Daemon :=
  let engaged := d.nearLimitFastPollEngaged
  let noted := match d.active with
    | some i => d.emitIf (engaged && !d.nearLimitFastPoll)
        (.nearLimitPollCoverage (d.account i).accountUuid d.nearLimitAppliedSubIntervalSecs
          d.settings.nearLimitPollSecs)
    | none => d
  { noted with nearLimitFastPoll := engaged }

end Daemon

/-- The time from which the current account has been the active one. -/
def noteActiveDesignation (active : Option ℕ) : DaemonM Unit := do
  match active with
  | none => pure ()
  | some i => do
    let d ← get
    if d.activeDesignation.any (fun a => a.accountUuid == (d.account i).accountUuid) then pure ()
    else do
      let now ← clockNow
      modify (fun d => { d with activeDesignation := some ⟨(d.account i).accountUuid, now⟩ })

end Sessiometer
