import Sessiometer.Daemon.Commands

/-! # What the methods of a tick leave alone

The frame: the fields that only a few named methods write. Every other method keeps it. -/

namespace Sessiometer

open Effects

/-- The two events of an external change of the canonical item. -/
def Event.isExternalChange : Event → Bool
  | .reStash _ => true
  | .uncapturedLogin _ => true
  | _ => false

structure Frame where
  roster : List Account
  settings : Settings
  active : Option ℕ
  canonicalWatch : CanonicalWatch
  retryAfterSwaps : List Nanos
  externalChanges : List Event

def Daemon.frame (d : Daemon) : Frame where
  roster := d.roster
  settings := d.settings
  active := d.active
  canonicalWatch := d.canonicalWatch
  retryAfterSwaps := d.retryAfterSwaps
  externalChanges := d.events.filter Event.isExternalChange

section Frame

variable {d d' : Daemon}

theorem roster_of_frame (h : d'.frame = d.frame) : d'.roster = d.roster :=
  congrArg Frame.roster h

theorem settings_of_frame (h : d'.frame = d.frame) : d'.settings = d.settings :=
  congrArg Frame.settings h

theorem active_of_frame (h : d'.frame = d.frame) : d'.active = d.active :=
  congrArg Frame.active h

theorem watch_of_frame (h : d'.frame = d.frame) : d'.canonicalWatch = d.canonicalWatch :=
  congrArg Frame.canonicalWatch h

theorem retryAfterSwaps_of_frame (h : d'.frame = d.frame) :
    d'.retryAfterSwaps = d.retryAfterSwaps :=
  congrArg Frame.retryAfterSwaps h

theorem externalChanges_of_frame (h : d'.frame = d.frame) :
    d'.events.filter Event.isExternalChange = d.events.filter Event.isExternalChange :=
  congrArg Frame.externalChanges h

end Frame

namespace Daemon

theorem foldl_frame {α : Type} {f : Daemon → α → Daemon} (h : ∀ d a, (f d a).frame = d.frame)
    (l : List α) (d : Daemon) : (l.foldl f d).frame = d.frame := by
  induction l generalizing d with
  | nil => rfl
  | cons a l ih => rw [List.foldl_cons, ih, h]

variable (d : Daemon) (i : ℕ)

@[simp] theorem setAccount_frame (f : AccountRuntime → AccountRuntime) :
    (d.setAccount i f).frame = d.frame := rfl

@[simp] theorem setHealth_frame (f : AccountHealth → AccountHealth) :
    (d.setHealth i f).frame = d.frame := rfl

theorem emit_frame {e : Event} (h : e.isExternalChange = false) : (d.emit e).frame = d.frame := by
  unfold frame emit
  simp only [List.filter_append, List.filter_cons, h, Bool.false_eq_true, if_false, List.filter_nil,
    List.append_nil]

theorem emitIf_frame (c : Bool) {e : Event} (h : e.isExternalChange = false) :
    (d.emitIf c e).frame = d.frame := by
  unfold emitIf
  split
  · exact emit_frame d h
  · rfl

theorem closeCanaryAlarmBracket_frame (replacing : Option CanaryStatus) :
    (d.closeCanaryAlarmBracket replacing).frame = d.frame := by
  unfold closeCanaryAlarmBracket
  split
  · exact emit_frame d rfl
  · exact emit_frame d rfl
  · rfl

theorem noteCanary_frame (outcome : CanaryOutcome) : (d.noteCanary outcome).frame = d.frame := by
  unfold noteCanary
  dsimp only
  split
  · rfl
  · cases d.canaryStatusOf outcome with
    | drift displayed matched overridden => exact emit_frame d rfl
    | ambiguous count => exact emit_frame d rfl
    | notFound => exact closeCanaryAlarmBracket_frame d d.canary
    | ok => exact closeCanaryAlarmBracket_frame d d.canary
    | inconclusive => exact closeCanaryAlarmBracket_frame d d.canary
    | refusedUnparseableCanonical => exact closeCanaryAlarmBracket_frame d d.canary

@[simp] theorem invalidatePollSchedule_frame : d.invalidatePollSchedule.frame = d.frame := rfl

theorem deactivateRecoveryProbe_frame (prev next : Option ℕ) :
    (d.deactivateRecoveryProbe prev next).frame = d.frame := by
  unfold deactivateRecoveryProbe
  cases prev with
  | none => rfl
  | some i =>
    dsimp only
    split
    · rfl
    · split <;> rfl

@[simp] theorem clearLockBackoff_frame : d.clearLockBackoff.frame = d.frame := rfl

theorem settleActive_frame (activeBefore : Option ℕ) :
    (d.settleActive activeBefore).frame = d.frame := by
  unfold settleActive
  split <;> rfl

theorem lockedTick_frame : d.lockedTick.frame = d.frame := by
  unfold lockedTick
  exact emitIf_frame d _ rfl

/-! ## Expiry -/

@[simp] theorem noteOwnCredentialRefresh_frame : (d.noteOwnCredentialRefresh i).frame = d.frame := rfl

theorem noteExpiryHorizonEdge_frame (deadline nowSecs : Int) :
    (d.noteExpiryHorizonEdge i deadline nowSecs).frame = d.frame := by
  unfold noteExpiryHorizonEdge
  dsimp only
  split
  · split
    · rfl
    · exact emit_frame _ rfl
  · split
    · rfl
    · exact emit_frame _ rfl
  · rfl
  · rfl

theorem foldExpiryObservation_frame (observed : Option Int) (attribution : ExpiryAttribution)
    (nowSecs : Int) : (d.foldExpiryObservation i observed attribution nowSecs).frame = d.frame := by
  unfold foldExpiryObservation
  cases observed with
  | none => rfl
  | some deadline =>
    dsimp only
    rw [noteExpiryHorizonEdge_frame, emitIf_frame _ _ rfl, setHealth_frame]

theorem notePolledExpiry_frame (observed : Option Int) (source : CredentialReadSource)
    (nowSecs : Int) : (d.notePolledExpiry i observed source nowSecs).frame = d.frame :=
  foldExpiryObservation_frame d i observed _ nowSecs

theorem noteRestashExpiry_frame (observed : Option Int) (grantReplaced : Option Bool)
    (nowSecs : Int) : (d.noteRestashExpiry i observed grantReplaced nowSecs).frame = d.frame :=
  foldExpiryObservation_frame d i observed _ nowSecs

/-! ## Health -/

theorem liftQuarantine_frame : (d.liftQuarantine i).frame = d.frame := by
  unfold liftQuarantine
  split
  · rw [emit_frame _ rfl, setHealth_frame]
  · rfl

theorem noteUnauthorized_frame : (d.noteUnauthorized i).frame = d.frame := by
  unfold noteUnauthorized
  dsimp only
  split
  · rfl
  · split
    · rw [emit_frame _ rfl, setHealth_frame, emit_frame _ rfl, setHealth_frame]
    · rw [emit_frame _ rfl, setHealth_frame]

theorem noteLive_frame : (d.noteLive i).frame = d.frame := by
  unfold noteLive
  dsimp only
  split
  · split
    · rw [liftQuarantine_frame, setHealth_frame, setHealth_frame]
    · rfl
  · rfl

theorem notePollOutcome_frame (result : Except Error Usage) :
    (d.notePollOutcome i result).frame = d.frame := by
  unfold notePollOutcome
  cases classifyPoll result with
  | unauthorized => exact noteUnauthorized_frame d i
  | live => exact noteLive_frame d i
  | scopeMissing => exact emit_frame _ rfl
  | transient => rfl

theorem noteRefreshOutcome_frame (outcome : RefreshEventOutcome) :
    (d.noteRefreshOutcome i outcome).frame = d.frame := by
  unfold noteRefreshOutcome
  dsimp only
  split
  · rw [emit_frame _ rfl, setHealth_frame, setHealth_frame, noteOwnCredentialRefresh_frame]
  · rfl

theorem applyRefreshRestore_frame (accountUuid : String) :
    (d.applyRefreshRestore accountUuid).frame = d.frame := by
  unfold applyRefreshRestore
  split
  · rfl
  · exact liftQuarantine_frame d _

theorem foldRecoveryOutcome_frame (outcome : RefreshEventOutcome) (expiresAtMs : Option Int) :
    (d.foldRecoveryOutcome i outcome expiresAtMs).frame = d.frame := by
  have hnoted := noteRefreshOutcome_frame d i outcome
  unfold foldRecoveryOutcome
  cases expiresAtMs with
  | none =>
    dsimp only
    split
    · exact hnoted
    · rw [applyRefreshRestore_frame]
      exact hnoted
  | some ms =>
    dsimp only
    split
    · exact hnoted
    · rw [applyRefreshRestore_frame]
      exact hnoted

theorem applyRefreshObservation_frame (observation : RefreshObservation) :
    (d.applyRefreshObservation observation).frame = d.frame := by
  unfold applyRefreshObservation
  split
  · rfl
  · dsimp only
    split
    · rfl
    · rw [noteRefreshOutcome_frame, setHealth_frame]

/-! ## Polls -/

theorem nextPollIndex_frame (active : Option ℕ) : (d.nextPollIndex active).2.frame = d.frame := by
  unfold nextPollIndex refillPollSchedule
  dsimp only
  split <;> rfl

@[simp] theorem notePolled_frame : (d.notePolled i).frame = d.frame := rfl

theorem clearBackoff_frame : (d.clearBackoff i).frame = d.frame := by
  unfold clearBackoff
  rw [emitIf_frame _ _ rfl, setHealth_frame]

theorem noteExhaustedPoll_frame (active : Option ℕ) (now : Nanos) (nowSecs : Int) :
    (d.noteExhaustedPoll i active now nowSecs).frame = d.frame := by
  unfold noteExhaustedPoll
  split
  · rfl
  · dsimp only
    split <;> rw [emitIf_frame _ _ rfl, setHealth_frame]

theorem noteSessionVelocity_frame (prevSession nextSession : ℚ) (elapsedSecs : ℕ) :
    (d.noteSessionVelocity i prevSession nextSession elapsedSecs).frame = d.frame := by
  unfold noteSessionVelocity
  split <;> rfl

theorem noteInterval_frame (next : Usage) (now : Nanos) :
    (d.noteInterval i next now).frame = d.frame := by
  unfold noteInterval
  split
  · dsimp only
    split
    · exact emitIf_frame d _ rfl
    · split
      · rw [noteSessionVelocity_frame, emitIf_frame _ _ rfl]
      · exact emitIf_frame d _ rfl
  · rfl

theorem noteBlindWindow_frame (active : Option ℕ) (fresh : Usage) (now : Nanos) :
    (d.noteBlindWindow i active fresh now).frame = d.frame := by
  unfold noteBlindWindow
  split
  · exact emitIf_frame d _ rfl
  · rfl

theorem noteBlindEpisode_frame (active : Option ℕ) (result : Except Error Usage) (now : Nanos) :
    (d.noteBlindEpisode i active result now).frame = d.frame := by
  unfold noteBlindEpisode
  split
  · split
    · rw [emit_frame _ rfl, setAccount_frame]
    · rfl
  · rw [setAccount_frame, emit_frame _ rfl]
  · rfl
  · rfl

theorem noteLandingOvershoot_frame (active : Option ℕ) (result : Except Error Usage)
    (now : Nanos) : (d.noteLandingOvershoot i active result now).frame = d.frame := by
  unfold noteLandingOvershoot
  split
  · rfl
  · split
    · rfl
    · split
      · rfl
      · split
        · rfl
        · dsimp only
          split <;> rfl

theorem storeReading_frame (active : Option ℕ) (result : Except Error Usage) (now : Nanos) :
    (d.storeReading i active result now).frame = d.frame := by
  unfold storeReading
  split
  · dsimp only
    split <;> rfl
  · rfl

theorem noteReading_frame (active : Option ℕ) (result : Except Error Usage) (now : Nanos) :
    (d.noteReading i active result now).frame = d.frame := by
  unfold noteReading
  dsimp only
  rw [storeReading_frame, noteLandingOvershoot_frame, noteBlindEpisode_frame]
  split
  · rw [noteBlindWindow_frame, noteInterval_frame]
  · rfl

@[simp] theorem setClocks_frame (clocks : CredentialClocks) :
    (d.setClocks i clocks).frame = d.frame := rfl

theorem noteObservationGapOf_frame (active : Option ℕ) (threshold now : Nanos) :
    (d.noteObservationGapOf active threshold now i).frame = d.frame := by
  unfold noteObservationGapOf
  dsimp only
  split
  · split
    · rfl
    · split
      · rfl
      · rw [setAccount_frame, emit_frame _ rfl]
  · split
    · rfl
    · split
      · rfl
      · split
        · rfl
        · rw [emit_frame _ rfl, setAccount_frame]

theorem noteObservationGap_frame (active : Option ℕ) (now : Nanos) :
    (d.noteObservationGap active now).frame = d.frame := by
  exact foldl_frame (fun s i => noteObservationGapOf_frame s i active _ now) _ d

theorem noteBlindGateEligibility_frame (active : Option ℕ) (readings : ℕ → Option Usage)
    (at' : Nanos) : (d.noteBlindGateEligibility active readings at').frame = d.frame := by
  unfold noteBlindGateEligibility
  cases active with
  | none => rfl
  | some i =>
    dsimp only
    split
    · rfl
    · split
      · rfl
      · split
        · rfl
        · split
          · rfl
          · split
            · exact emit_frame d rfl
            · rfl

theorem noteNearLimit_frame : d.noteNearLimit.frame = d.frame := by
  unfold noteNearLimit
  dsimp only
  split
  · exact emitIf_frame d _ rfl
  · rfl

/-! ## The canonical item -/

theorem noteCanonicalLiveness_frame (state : CanonicalLiveness) (active : Option ℕ) :
    (d.noteCanonicalLiveness state active).frame = d.frame := by
  unfold noteCanonicalLiveness
  cases state with
  | scrubbed =>
    dsimp only
    split
    · rfl
    · exact emit_frame d rfl
  | present =>
    dsimp only
    split
    · exact emit_frame d rfl
    · rfl
  | unknown => rfl

theorem rollScrubAdoptWindow_frame (at' : Nanos) : (d.rollScrubAdoptWindow at').frame = d.frame := by
  unfold rollScrubAdoptWindow
  split
  · split <;> rfl
  · rfl

theorem noteScrubAdoptExhausted_frame (active : Option ℕ) :
    (d.noteScrubAdoptExhausted active).frame = d.frame := by
  unfold noteScrubAdoptExhausted
  split
  · rfl
  · exact emit_frame d rfl

theorem scrubAdopted_frame (target : ℕ) (at' : Nanos) :
    (d.scrubAdopted target at').frame = d.frame := by
  unfold scrubAdopted
  exact emit_frame _ rfl

theorem settle_frame (action : TickAction) : (d.settle action).frame = d.frame := by
  have hexhausted : (if action = .noViableTarget then d
      else { d.emitIf d.signaledAllExhausted .allExhaustedCleared with
        signaledAllExhausted := false }).frame = d.frame := by
    split
    · rfl
    · exact emitIf_frame d _ rfl
  unfold settle
  dsimp only
  rw [noteNearLimit_frame]
  split
  · exact hexhausted
  · rw [← hexhausted]
    exact emitIf_frame _ _ rfl

end Daemon

end Sessiometer
