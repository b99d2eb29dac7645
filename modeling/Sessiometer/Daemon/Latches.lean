import Sessiometer.Daemon.Commands
import Sessiometer.Daemon.Rotation

/-! # What the daemon latches

The fields that outlive a tick: the roster and the settings, the active account and its anchor, the
schedule, the episodes and their events, the adopt budget, and per account the back-off and the
reading. Most methods of a tick leave all of them alone. -/

namespace Sessiometer

open Effects

/-- The events that begin or end an episode, and those of the adopt budget. -/
def Event.isEdge : Event → Bool
  | .allExhausted .. => true
  | .allExhaustedCleared => true
  | .activeDeadNoTarget .. => true
  | .activeDeadNoTargetCleared => true
  | .canonicalScrubbed _ => true
  | .canonicalRestored _ => true
  | .canonicalRecovered _ => true
  | .canonicalRecoveryExhausted _ => true
  | .exhaustedSlowPoll .. => true
  | .exhaustedSlowPollCleared _ => true
  | .blindEnter .. => true
  | .blindExit .. => true
  | .observationGapEnter .. => true
  | .observationGapExit .. => true
  | _ => false

/-- The part of an account's state that an episode or a back-off is kept in. -/
structure Slot where
  pollBackoffUntil : Option Nanos
  pollBackoffRetryAfter : Option Nanos
  exhaustedPollUntil : Option Nanos
  lastReading : Option Usage
  lastReadingAt : Option Nanos
  sessionHighWater : Option SessionHighWater
  blindAnchor : Option BlindAnchor
  observationGap : Option ObservationGapAnchor

def AccountRuntime.slot (a : AccountRuntime) : Slot where
  pollBackoffUntil := a.health.pollBackoffUntil
  pollBackoffRetryAfter := a.health.pollBackoffRetryAfter
  exhaustedPollUntil := a.health.exhaustedPollUntil
  lastReading := a.lastReading
  lastReadingAt := a.lastReadingAt
  sessionHighWater := a.sessionHighWater
  blindAnchor := a.blindAnchor
  observationGap := a.observationGap

structure Latches where
  roster : List Account
  settings : Settings
  active : Option ℕ
  lastGood : Option LastGood
  pollSchedule : List ℕ
  pollPos : ℕ
  scrubAdoptCount : ℕ
  scrubAdoptWindowStart : Option Nanos
  signaledScrubAdoptExhausted : Bool
  signaledAllExhausted : Bool
  signaledActiveDeadNoTarget : Bool
  signaledCanonicalScrubbed : Bool
  slots : ℕ → Slot
  edges : List Event

def Daemon.latches (d : Daemon) : Latches where
  roster := d.roster
  settings := d.settings
  active := d.active
  lastGood := d.lastGood
  pollSchedule := d.pollSchedule
  pollPos := d.pollPos
  scrubAdoptCount := d.scrubAdoptCount
  scrubAdoptWindowStart := d.scrubAdoptWindowStart
  signaledScrubAdoptExhausted := d.signaledScrubAdoptExhausted
  signaledAllExhausted := d.signaledAllExhausted
  signaledActiveDeadNoTarget := d.signaledActiveDeadNoTarget
  signaledCanonicalScrubbed := d.signaledCanonicalScrubbed
  slots := fun i => (d.accounts i).slot
  edges := d.events.filter Event.isEdge

namespace Daemon

section Kept

variable {d d' : Daemon} (h : d'.latches = d.latches)

include h

theorem roster_of_latches : d'.roster = d.roster := congrArg Latches.roster h

theorem active_of_latches : d'.active = d.active := congrArg Latches.active h

theorem lastGood_of_latches : d'.lastGood = d.lastGood := congrArg Latches.lastGood h

theorem slot_of_latches (i : ℕ) : (d'.accounts i).slot = (d.accounts i).slot :=
  congrFun (congrArg Latches.slots h) i

theorem edges_of_latches : d'.events.filter Event.isEdge = d.events.filter Event.isEdge :=
  congrArg Latches.edges h

theorem account_of_latches (i : ℕ) : d'.account i = d.account i := by
  unfold account
  rw [roster_of_latches h]

end Kept

variable (d : Daemon) (i : ℕ)

theorem setAccount_self (f : AccountRuntime → AccountRuntime) :
    (d.setAccount i f).accounts i = f (d.accounts i) := Function.update_self ..

theorem setAccount_of_ne {j : ℕ} (h : j ≠ i) (f : AccountRuntime → AccountRuntime) :
    (d.setAccount i f).accounts j = d.accounts j := Function.update_of_ne h _ _

/-- What a write of an account keeps of it, it keeps of every account. -/
theorem setAccount_kept {β : Type} (view : AccountRuntime → β)
    {f : AccountRuntime → AccountRuntime} (hf : ∀ a, view (f a) = view a) (j : ℕ) :
    view ((d.setAccount i f).accounts j) = view (d.accounts j) := by
  by_cases hj : j = i
  · rw [hj, setAccount_self]
    exact hf _
  · rw [setAccount_of_ne d i hj]

theorem setAccount_latches {f : AccountRuntime → AccountRuntime} (hf : ∀ a, (f a).slot = a.slot) :
    (d.setAccount i f).latches = d.latches := by
  have hslots : (fun j => ((d.setAccount i f).accounts j).slot) =
      fun j => (d.accounts j).slot :=
    funext (setAccount_kept d i AccountRuntime.slot hf)
  exact congrArg (fun s => { d.latches with slots := s }) hslots

/-- A write of an account is a write of its slot. -/
theorem setAccount_congr {d' : Daemon} {f : AccountRuntime → AccountRuntime}
    (h : d'.latches = d.latches) (hf : ∀ a a' : AccountRuntime, a'.slot = a.slot →
      (f a').slot = (f a).slot) : (d'.setAccount i f).latches = (d.setAccount i f).latches := by
  have hslots : (fun j => ((d'.setAccount i f).accounts j).slot) =
      fun j => ((d.setAccount i f).accounts j).slot := by
    funext j
    by_cases hj : j = i
    · rw [hj, setAccount_self, setAccount_self]
      exact hf _ _ (slot_of_latches h i)
    · rw [setAccount_of_ne d' i hj, setAccount_of_ne d i hj]
      exact slot_of_latches h j
  calc (d'.setAccount i f).latches
    _ = { d'.latches with slots := fun j => ((d'.setAccount i f).accounts j).slot } := rfl
    _ = { d.latches with slots := fun j => ((d.setAccount i f).accounts j).slot } := by
        rw [h, hslots]
    _ = (d.setAccount i f).latches := rfl

theorem setHealth_latches {f : AccountHealth → AccountHealth}
    (hf : ∀ a : AccountRuntime, ({ a with health := f a.health } : AccountRuntime).slot = a.slot) :
    (d.setHealth i f).latches = d.latches :=
  setAccount_latches d i hf

theorem emit_latches {e : Event} (h : e.isEdge = false) : (d.emit e).latches = d.latches := by
  have hedges : (d.emit e).events.filter Event.isEdge = d.events.filter Event.isEdge := by
    unfold emit
    simp only [List.filter_append, List.filter_cons, h, Bool.false_eq_true, if_false,
      List.filter_nil, List.append_nil]
  exact congrArg (fun es => { d.latches with edges := es }) hedges

theorem emitIf_latches (c : Bool) {e : Event} (h : e.isEdge = false) :
    (d.emitIf c e).latches = d.latches := by
  unfold emitIf
  split
  · exact emit_latches d h
  · rfl

theorem closeCanaryAlarmBracket_latches (replacing : Option CanaryStatus) :
    (d.closeCanaryAlarmBracket replacing).latches = d.latches := by
  unfold closeCanaryAlarmBracket
  split
  · exact emit_latches d rfl
  · exact emit_latches d rfl
  · rfl

theorem noteCanary_latches (outcome : CanaryOutcome) :
    (d.noteCanary outcome).latches = d.latches := by
  unfold noteCanary
  dsimp only
  split
  · rfl
  · cases d.canaryStatusOf outcome with
    | drift displayed matched overridden => exact emit_latches d rfl
    | ambiguous count => exact emit_latches d rfl
    | notFound => exact closeCanaryAlarmBracket_latches d d.canary
    | ok => exact closeCanaryAlarmBracket_latches d d.canary
    | inconclusive => exact closeCanaryAlarmBracket_latches d d.canary
    | refusedUnparseableCanonical => exact closeCanaryAlarmBracket_latches d d.canary

theorem deactivateRecoveryProbe_latches (prev next : Option ℕ) :
    (d.deactivateRecoveryProbe prev next).latches = d.latches := by
  unfold deactivateRecoveryProbe
  cases prev with
  | none => rfl
  | some i =>
    dsimp only
    split
    · rfl
    · split
      · exact setHealth_latches d i (fun _ => rfl)
      · rfl

theorem lockedTick_latches : d.lockedTick.latches = d.latches := by
  unfold lockedTick
  exact emitIf_latches d _ rfl

/-- A recorded swap makes the target active, without an anchor, and starts the schedule over. -/
theorem swapRecorded_latches (target : ℕ) (at' : Nanos) :
    (d.swapRecorded target at').latches =
      { d.latches with
        active := some target
        lastGood := none
        pollSchedule := []
        pollPos := 0 } := by
  have hparked := setAccount_latches ({ d with active := some target } : Daemon).invalidatePollSchedule
    target (f := fun a => { a with parkedLanding := none }) (fun _ => rfl)
  exact congrArg (fun l => { l with lastGood := none }) hparked

/-! ## Expiry -/

theorem noteOwnCredentialRefresh_latches : (d.noteOwnCredentialRefresh i).latches = d.latches :=
  setHealth_latches d i (fun _ => rfl)

theorem noteExpiryHorizonEdge_latches (deadline nowSecs : Int) :
    (d.noteExpiryHorizonEdge i deadline nowSecs).latches = d.latches := by
  unfold noteExpiryHorizonEdge
  dsimp only
  split
  · split
    · rfl
    · rw [emit_latches _ rfl]
      exact setHealth_latches d i (fun _ => rfl)
  · split
    · rfl
    · rw [emit_latches _ rfl]
      exact setHealth_latches d i (fun _ => rfl)
  · exact setHealth_latches d i (fun _ => rfl)
  · rfl

theorem foldExpiryObservation_latches (observed : Option Int) (attribution : ExpiryAttribution)
    (nowSecs : Int) :
    (d.foldExpiryObservation i observed attribution nowSecs).latches = d.latches := by
  unfold foldExpiryObservation
  cases observed with
  | none => rfl
  | some deadline =>
    dsimp only
    rw [noteExpiryHorizonEdge_latches, emitIf_latches _ _ rfl]
    exact setHealth_latches d i (fun _ => rfl)

theorem notePolledExpiry_latches (observed : Option Int) (source : CredentialReadSource)
    (nowSecs : Int) : (d.notePolledExpiry i observed source nowSecs).latches = d.latches :=
  foldExpiryObservation_latches d i observed _ nowSecs

theorem noteRestashExpiry_latches (observed : Option Int) (grantReplaced : Option Bool)
    (nowSecs : Int) : (d.noteRestashExpiry i observed grantReplaced nowSecs).latches = d.latches :=
  foldExpiryObservation_latches d i observed _ nowSecs

/-! ## Health -/

theorem liftQuarantine_latches : (d.liftQuarantine i).latches = d.latches := by
  unfold liftQuarantine
  split
  · rw [emit_latches _ rfl]
    exact setHealth_latches d i (fun _ => rfl)
  · rfl

theorem noteUnauthorized_latches : (d.noteUnauthorized i).latches = d.latches := by
  have hcounted : (d.setHealth i (fun h =>
      { h with
        consec401 := saturatingAdd32 (d.accounts i).health.consec401 1
        recoverySuccesses := 0 })).latches =
        d.latches := setHealth_latches d i (fun _ => rfl)
  unfold noteUnauthorized
  dsimp only
  split
  · exact hcounted
  · split
    · rw [emit_latches _ rfl, setHealth_latches _ i (fun _ => rfl), emit_latches _ rfl]
      exact hcounted
    · rw [emit_latches _ rfl]
      exact hcounted

theorem noteLive_latches : (d.noteLive i).latches = d.latches := by
  unfold noteLive
  dsimp only
  split
  · split
    · rw [liftQuarantine_latches, setHealth_latches _ i (fun _ => rfl)]
      exact setHealth_latches d i (fun _ => rfl)
    · rw [setHealth_latches _ i (fun _ => rfl)]
      exact setHealth_latches d i (fun _ => rfl)
  · exact setHealth_latches d i (fun _ => rfl)

theorem notePollOutcome_latches (result : Except Error Usage) :
    (d.notePollOutcome i result).latches = d.latches := by
  unfold notePollOutcome
  cases classifyPoll result with
  | unauthorized => exact noteUnauthorized_latches d i
  | live => exact noteLive_latches d i
  | scopeMissing =>
    dsimp only
    rw [emit_latches _ rfl]
    exact setHealth_latches d i (fun _ => rfl)
  | transient => exact setHealth_latches d i (fun _ => rfl)

theorem noteRefreshOutcome_latches (outcome : RefreshEventOutcome) :
    (d.noteRefreshOutcome i outcome).latches = d.latches := by
  have hnoted : ((d.noteOwnCredentialRefresh i).setHealth i (fun h =>
      { h with
        lastRefreshOutcome := some outcome
        consecutiveRefreshFailures :=
          if failedRefresh outcome then saturatingAdd32 h.consecutiveRefreshFailures 1 else 0
      })).latches =
        d.latches := by
    rw [setHealth_latches _ i (fun _ => rfl), noteOwnCredentialRefresh_latches]
  unfold noteRefreshOutcome
  dsimp only
  split
  · rw [emit_latches _ rfl, setHealth_latches _ i (fun _ => rfl)]
    exact hnoted
  · exact hnoted

theorem applyRefreshRestore_latches (accountUuid : String) :
    (d.applyRefreshRestore accountUuid).latches = d.latches := by
  unfold applyRefreshRestore
  split
  · rfl
  · exact liftQuarantine_latches d _

theorem foldRecoveryOutcome_latches (outcome : RefreshEventOutcome) (expiresAtMs : Option Int) :
    (d.foldRecoveryOutcome i outcome expiresAtMs).latches = d.latches := by
  have hnoted := noteRefreshOutcome_latches d i outcome
  unfold foldRecoveryOutcome
  cases expiresAtMs with
  | none =>
    dsimp only
    split
    · exact hnoted
    · rw [applyRefreshRestore_latches]
      exact hnoted
  | some ms =>
    have hexpiry : ((d.noteRefreshOutcome i outcome).setHealth i
        (fun h => { h with accessExpiresAt := some (millisToSecs ms) })).latches = d.latches := by
      rw [setHealth_latches _ i (fun _ => rfl)]
      exact hnoted
    dsimp only
    split
    · exact hexpiry
    · rw [applyRefreshRestore_latches]
      exact hexpiry

theorem applyRefreshObservation_latches (observation : RefreshObservation) :
    (d.applyRefreshObservation observation).latches = d.latches := by
  unfold applyRefreshObservation
  split
  · rfl
  · dsimp only
    split
    · exact setHealth_latches d _ (fun _ => rfl)
    · rw [noteRefreshOutcome_latches]
      exact setHealth_latches d _ (fun _ => rfl)

theorem foldl_latches {α : Type} {f : Daemon → α → Daemon}
    (h : ∀ d a, (f d a).latches = d.latches) (l : List α) (d : Daemon) :
    (l.foldl f d).latches = d.latches := by
  induction l generalizing d with
  | nil => rfl
  | cons a l ih => rw [List.foldl_cons, ih, h]

/-! ## Polls -/

theorem notePolled_latches : (d.notePolled i).latches = d.latches := by
  have hpolled : (d.setAccount i (fun a => { a with polledOnce := true })).latches = d.latches :=
    setAccount_latches d i (fun _ => rfl)
  exact hpolled

theorem setClocks_latches (clocks : CredentialClocks) : (d.setClocks i clocks).latches = d.latches :=
  setHealth_latches d i (fun _ => rfl)

theorem noteSessionVelocity_latches (prevSession nextSession : ℚ) (elapsedSecs : ℕ) :
    (d.noteSessionVelocity i prevSession nextSession elapsedSecs).latches = d.latches := by
  unfold noteSessionVelocity
  split
  · exact setAccount_latches d i (fun _ => rfl)
  · exact setAccount_latches d i (fun _ => rfl)

theorem noteInterval_latches (next : Usage) (now : Nanos) :
    (d.noteInterval i next now).latches = d.latches := by
  unfold noteInterval
  split
  · dsimp only
    split
    · exact emitIf_latches d _ rfl
    · split
      · rw [noteSessionVelocity_latches, emitIf_latches _ _ rfl]
      · exact emitIf_latches d _ rfl
  · rfl

theorem noteBlindWindow_latches (active : Option ℕ) (fresh : Usage) (now : Nanos) :
    (d.noteBlindWindow i active fresh now).latches = d.latches := by
  unfold noteBlindWindow
  split
  · exact emitIf_latches d _ rfl
  · rfl

theorem clearParkedLanding_latches : (d.clearParkedLanding i).latches = d.latches :=
  setAccount_latches d i (fun _ => rfl)

theorem noteLandingOvershoot_latches (active : Option ℕ) (result : Except Error Usage)
    (now : Nanos) : (d.noteLandingOvershoot i active result now).latches = d.latches := by
  unfold noteLandingOvershoot
  split
  · rfl
  · split
    · exact clearParkedLanding_latches d i
    · split
      · rfl
      · split
        · exact clearParkedLanding_latches d i
        · dsimp only
          split
          · rw [clearParkedLanding_latches]
            rfl
          · rfl

theorem noteBlindGateEligibility_latches (active : Option ℕ) (readings : ℕ → Option Usage)
    (at' : Nanos) : (d.noteBlindGateEligibility active readings at').latches = d.latches := by
  unfold noteBlindGateEligibility
  cases active with
  | none => rfl
  | some i =>
    dsimp only
    split
    · rfl
    · split
      · rfl
      · split
        · rfl
        · split
          · rfl
          · split
            · exact emit_latches d rfl
            · rfl

theorem noteNearLimit_latches : d.noteNearLimit.latches = d.latches := by
  unfold noteNearLimit
  dsimp only
  split
  · exact emitIf_latches d _ rfl
  · rfl

end Daemon

/-! ## Methods that latch nothing -/

/-- The method leaves every latch as it is. -/
def Idles {α : Type} (m : DaemonM α) : Prop := Keeps (fun d d' => d'.latches = d.latches) m

section Rules

variable {α β : Type}

theorem Idles.bind {m : DaemonM α} {f : α → DaemonM β} (hm : Idles m) (hf : ∀ a, Idles (f a)) :
    Idles (m >>= f) :=
  keeps_bind (fun h h' => h'.trans h) hm hf

theorem idles_pure (a : α) : Idles (pure a : DaemonM α) :=
  keeps_pure (R := fun d d' : Daemon => d'.latches = d.latches) (fun _ => rfl) a

theorem idles_get : Idles (get : DaemonM Daemon) :=
  keeps_get (R := fun d d' : Daemon => d'.latches = d.latches) (fun _ => rfl)

theorem idles_modify {f : Daemon → Daemon} (h : ∀ d, (f d).latches = d.latches) :
    Idles (modify f : DaemonM PUnit) := keeps_modify h

theorem idles_modify_bind {f : Daemon → Daemon} {g : PUnit → DaemonM β}
    (h : ∀ d, (f d).latches = d.latches) (hg : ∀ a, Idles (g a)) : Idles (modify f >>= g) :=
  (idles_modify h).bind hg

theorem idles_lift (p : Seam α) : Idles (StateT.lift p : DaemonM α) :=
  keeps_lift (R := fun d d' : Daemon => d'.latches = d.latches) (fun _ => rfl) p

theorem idles_attempt (p : Attempt α) : Idles (attempt p) := idles_lift p.run

theorem idles_emit {e : Event} (h : e.isEdge = false) : Idles (emit e) :=
  idles_modify (fun d => d.emit_latches h)

/-- A method that leaves the whole state as it is. -/
theorem idles_of_returns {m : DaemonM α} (h : ∀ d, Returns (fun r => r.2 = d) (m.run d)) :
    Idles m :=
  fun d => (h d).mono (fun r hr => by rw [hr])

end Rules

theorem idles_clockNow : Idles clockNow := idles_lift _

theorem idles_wallClockNowMs : Idles wallClockNowMs := idles_lift _

theorem idles_wallClockNowSecs : Idles wallClockNowSecs := by
  unfold wallClockNowSecs
  exact idles_wallClockNowMs.bind (fun ms => idles_pure _)

theorem idles_draw (s : Strategy) (lo hi : ℚ) : Idles (s.draw lo hi) :=
  idles_of_returns (keeps_draw s lo hi)

theorem idles_drawDownward (s : Strategy) (lo hi : ℚ) : Idles (s.drawDownward lo hi) :=
  idles_of_returns (keeps_drawDownward s lo hi)

theorem idles_drawCooldown : Idles drawCooldown := idles_of_returns keeps_drawCooldown

theorem idles_nextPollInterval : Idles nextPollInterval := by
  unfold nextPollInterval
  exact idles_get.bind (fun d => (idles_draw _ _ _).bind (fun u => idles_pure _))

theorem idles_accountBackingOff (i : ℕ) : Idles (accountBackingOff i) := by
  unfold accountBackingOff
  apply idles_get.bind
  intro d
  split
  · exact idles_clockNow.bind (fun now => idles_pure _)
  · exact idles_pure _

theorem idles_exhaustedSlowPolling (i : ℕ) (active : Option ℕ) :
    Idles (exhaustedSlowPolling i active) := by
  unfold exhaustedSlowPolling
  apply idles_get.bind
  intro d
  split
  · exact idles_pure _
  · split
    · exact idles_clockNow.bind (fun now => idles_pure _)
    · exact idles_pure _

theorem idles_poll (account : Account) (active : Bool) : Idles (poll account active) := by
  unfold poll
  exact (idles_lift _).bind (fun polled => idles_pure _)

theorem idles_refreshRetry (i : ℕ) : Idles (refreshRetry i) := by
  unfold refreshRetry
  apply idles_get.bind
  intro d
  apply (idles_lift _ : Idles (refresh (d.account i))).bind
  intro refreshed
  apply (idles_emit rfl).bind
  intro _
  cases refreshed with
  | error e => exact idles_pure _
  | ok report =>
    dsimp only
    split
    · exact idles_pure _
    · exact idles_poll _ false

theorem idles_noteActiveDesignation (active : Option ℕ) : Idles (noteActiveDesignation active) := by
  unfold noteActiveDesignation
  cases active with
  | none => exact idles_pure _
  | some i =>
    apply idles_get.bind
    intro d
    split
    · exact idles_pure _
    · exact idles_clockNow.bind (fun now => idles_modify (fun d => rfl))

theorem idles_resolveAccountFor (canonical : Credential) : Idles (resolveAccountFor canonical) := by
  unfold resolveAccountFor
  exact idles_get.bind (fun d => idles_lift _)

theorem idles_resolveActive : Idles resolveActive := by
  unfold resolveActive
  apply idles_get.bind
  intro d
  apply (idles_attempt _).bind
  intro r
  cases r with
  | ok canonical => exact idles_resolveAccountFor canonical
  | error e => exact idles_lift _

/-! ## The breakers -/

theorem idles_walkBreaker (at' : Nanos) (i : ℕ) (speculative : Option Nanos) :
    Idles (walkBreaker at' i speculative) := by
  unfold walkBreaker retryAfterWalkCount
  refine Idles.bind (idles_modify_bind (fun _ => rfl) (fun _ =>
    idles_get.bind (fun d => idles_pure _))) ?_
  intro swaps
  cases speculative with
  | none => exact idles_pure _
  | some ra =>
    dsimp only
    split
    · apply idles_get.bind
      intro d
      split
      · apply (idles_emit rfl).bind
        intro _
        exact idles_modify_bind (fun _ => rfl) (fun _ => idles_pure true)
      · exact (idles_pure PUnit.unit).bind (fun _ => idles_pure true)
    · exact idles_pure _

theorem idles_reserveBreaker (i : ℕ) (speculative : Option Nanos) (reason : NextSwapReason)
    (blindElapsed : ℕ) : Idles (reserveBreaker i speculative reason blindElapsed) := by
  unfold reserveBreaker
  cases speculative with
  | none => exact idles_pure _
  | some ra =>
    dsimp only
    split
    · apply idles_get.bind
      intro d
      split
      · apply (idles_emit rfl).bind
        intro _
        exact idles_modify_bind (fun _ => rfl) (fun _ => idles_pure true)
      · exact (idles_pure PUnit.unit).bind (fun _ => idles_pure true)
    · exact idles_pure _

/-! ## The gate -/

theorem idles_probeGate (i : ℕ) (force : Bool) : Idles (probeGate i force) := by
  unfold probeGate
  apply idles_get.bind
  intro d
  split
  · exact idles_pure _
  · split
    · exact idles_pure _
    · split
      · exact idles_pure _
      · exact (idles_accountBackingOff i).bind (fun b => idles_pure _)

theorem idles_outgoingLiveness (outgoing : String) (force : Bool) :
    Idles (outgoingLiveness outgoing force) := by
  unfold outgoingLiveness
  apply idles_get.bind
  intro d
  split
  · exact (idles_probeGate _ force).bind (fun gate => idles_lift _)
  · exact idles_pure _

theorem idles_lockedAdopt (incoming : String) : Idles (lockedAdopt incoming) := idles_attempt _

section Stores

variable [SerdeJson]

theorem idles_refreshCanary : Idles refreshCanary := by
  unfold refreshCanary
  apply idles_get.bind
  intro d
  apply (idles_attempt _).bind
  intro r
  cases r with
  | error e => exact idles_pure _
  | ok outcome =>
    exact idles_modify_bind (fun d => d.noteCanary_latches outcome) (fun _ => idles_pure _)

theorem idles_swapGate (outgoing : String) (force : Bool) : Idles (swapGate outgoing force) := by
  unfold swapGate
  apply idles_refreshCanary.bind
  intro r
  cases r with
  | error e => exact idles_pure _
  | ok outcome =>
    apply idles_modify_bind (fun d => d.emitIf_latches _ rfl)
    intro _
    apply idles_get.bind
    intro d
    dsimp only
    split
    · exact idles_pure _
    · apply (idles_outgoingLiveness outgoing force).bind
      intro liveness
      exact idles_modify_bind (fun d => d.emitIf_latches _ rfl) (fun _ => idles_pure _)

theorem idles_lockedSwap (outgoing incoming : String) (force : Bool) :
    Idles (lockedSwap outgoing incoming force) := by
  unfold lockedSwap
  apply (idles_swapGate outgoing force).bind
  intro r
  cases r with
  | error e => exact idles_pure _
  | ok u => exact idles_attempt _

/-! ## Keep-warm -/

theorem idles_promoteCanonical (i : ℕ) (cred : Credential) : Idles (promoteCanonical i cred) := by
  unfold promoteCanonical
  apply idles_get.bind
  intro d
  apply (idles_attempt _).bind
  intro r
  cases r with
  | error e => exact idles_pure _
  | ok promoted =>
    cases promoted with
    | false => exact idles_pure _
    | true =>
      refine idles_modify_bind ?_ (fun _ => idles_pure _)
      intro s
      exact Daemon.setHealth_latches (s.commitCanonical cred) i (fun _ => rfl)

theorem idles_keepWarmAndPromote (i : ℕ) (canonical : Credential) (trigger : KeepWarmTrigger) :
    Idles (keepWarmAndPromote i canonical trigger) := by
  unfold keepWarmAndPromote
  split
  · exact idles_pure _
  · apply idles_clockNow.bind
    intro now
    refine idles_modify_bind (fun s => s.setHealth_latches i (fun _ => rfl)) ?_
    intro _
    apply idles_get.bind
    intro d
    split
    · exact idles_pure _
    · apply (idles_lift _).bind
      intro minted
      refine idles_modify_bind (fun s => s.noteOwnCredentialRefresh_latches i) ?_
      intro _
      apply (idles_emit rfl).bind
      intro _
      split
      · exact (idles_promoteCanonical i _).bind (fun _ => idles_pure _)
      · exact idles_pure _

theorem idles_keepWarmRetry (i : ℕ) (canonical : Option Credential) :
    Idles (keepWarmRetry i canonical) := by
  unfold keepWarmRetry
  cases canonical with
  | none => exact idles_pure _
  | some canonical =>
    apply idles_get.bind
    intro d
    apply (idles_keepWarmAndPromote i canonical .reactive).bind
    intro r
    split
    · exact idles_poll _ true
    · exact idles_pure _

theorem idles_keepActiveWarm [Sha256] (active : Option ℕ) (canonical : Option Credential)
    (nowMs : Int) : Idles (keepActiveWarm active canonical nowMs) := by
  unfold keepActiveWarm
  apply idles_get.bind
  intro d
  split
  · split
    · apply idles_clockNow.bind
      intro now
      split
      · exact idles_pure _
      · exact (idles_keepWarmAndPromote _ _ _).bind (fun _ => idles_pure _)
    · exact idles_pure _
  · exact idles_pure _

theorem idles_pollResult (i : ℕ) (canonical : Option Credential) (polled : Except Error Usage) :
    Idles (pollResult i canonical polled) := by
  unfold pollResult
  apply idles_get.bind
  intro d
  split
  · apply (idles_refreshRetry i).bind
    intro result
    exact idles_modify_bind (fun s => s.noteOwnCredentialRefresh_latches i) (fun _ => idles_pure _)
  · split
    · exact idles_keepWarmRetry i canonical
    · exact idles_pure _

theorem idles_readPollClocks (account : Account) (active : Bool) :
    Idles (readPollClocks account active) := by
  unfold readPollClocks
  cases CredentialReadSource.forPoll active with
  | canonical =>
    apply (idles_attempt _).bind
    intro r
    cases r with
    | ok c => exact idles_pure _
    | error e => exact idles_pure _
  | stash => exact (idles_lift _).bind (fun ms => idles_pure _)

/-! ## Between ticks -/

theorem idles_reprobeDeadParkedCredential (i : ℕ) : Idles (reprobeDeadParkedCredential i) := by
  unfold reprobeDeadParkedCredential
  apply idles_get.bind
  intro d
  apply (idles_lift _ : Idles (refresh (d.account i))).bind
  intro refreshed
  apply (idles_emit rfl).bind
  intro _
  apply (idles_lift _).bind
  intro expiresAtMs
  exact idles_modify (fun d => d.foldRecoveryOutcome_latches i _ expiresAtMs)

theorem idles_reconcileRestored (accountUuid : String) : Idles (reconcileRestored accountUuid) := by
  unfold reconcileRestored
  apply idles_get.bind
  intro d
  split
  · exact idles_pure _
  · split
    · exact idles_reprobeDeadParkedCredential _
    · exact idles_modify (fun d => d.applyRefreshRestore_latches accountUuid)

theorem idles_reprobeActiveIfDead : Idles reprobeActiveIfDead := by
  unfold reprobeActiveIfDead
  apply idles_get.bind
  intro d
  split
  · exact idles_pure _
  · split
    · exact idles_pure _
    · apply (idles_attempt _).bind
      intro r
      cases r with
      | error e => exact idles_pure _
      | ok canonical =>
        apply (idles_keepWarmAndPromote _ canonical .recovery).bind
        intro r
        exact idles_modify (fun d => d.foldRecoveryOutcome_latches _ r.outcome none)

end Stores

end Sessiometer
