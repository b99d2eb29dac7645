import Sessiometer.Daemon.FrameRules

/-! # Who writes the walk record

Only the blind swap does: every other method of a tick, and every command between ticks, leaves
`retryAfterSwaps` as it is. -/

namespace Sessiometer

open Effects

theorem keepsWalk_pure {α : Type} (a : α) : KeepsWalk (pure a : DaemonM α) :=
  (observes_pure a).walk

theorem keepsWalk_get : KeepsWalk (get : DaemonM Daemon) := observes_get.walk

theorem keepsWalk_lift {α : Type} (p : Seam α) : KeepsWalk (StateT.lift p : DaemonM α) :=
  keepsWalk_of_frame (keepsFrame_lift p)

theorem keepsWalk_attempt {α : Type} (p : Attempt α) : KeepsWalk (attempt p) := keepsWalk_lift p.run

theorem keepsWalk_emit (e : Event) : KeepsWalk (emit e) := keepsWalk_modify (fun _ => rfl)

theorem keepsWalk_modify_bind {β : Type} {f : Daemon → Daemon} {g : PUnit → DaemonM β}
    (h : ∀ d, (f d).retryAfterSwaps = d.retryAfterSwaps) (hg : ∀ a, KeepsWalk (g a)) :
    KeepsWalk (modify f >>= g) :=
  (keepsWalk_modify h).bind hg

/-- A pure fold of a frame-keeping method. -/
theorem keepsWalk_fold {f : Daemon → Daemon} (h : ∀ d, (f d).frame = d.frame) :
    KeepsWalk (modify f : DaemonM PUnit) := (observes_modify h).walk

/-! ## Observing -/

section Observing

variable [SerdeJson]

theorem restashed_retryAfterSwaps (d : Daemon) (i : ℕ) (canonical : Credential) (nowSecs : Int) :
    (d.restashed i canonical nowSecs).retryAfterSwaps = d.retryAfterSwaps := by
  have hnoted := retryAfterSwaps_of_frame ((d.emit (.reStash (d.account i).label)).noteRestashExpiry_frame
    i ((refreshTokenExpiresAt canonical.blob).map millisToSecs) (d.grantReplaced canonical) nowSecs)
  unfold Daemon.restashed
  dsimp only
  calc _ = (Daemon.deactivateRecoveryProbe _ _ (some i)).retryAfterSwaps := rfl
    _ = (Daemon.liftQuarantine _ i).retryAfterSwaps :=
        retryAfterSwaps_of_frame (Daemon.deactivateRecoveryProbe_frame _ _ _)
    _ = (Daemon.noteRestashExpiry _ i _ _ nowSecs).retryAfterSwaps :=
        retryAfterSwaps_of_frame (Daemon.liftQuarantine_frame _ _)
    _ = d.retryAfterSwaps := hnoted

theorem keepsWalk_healChange (canonical : Credential) (resolved : Option ℕ) :
    KeepsWalk (healChange canonical resolved) := by
  unfold healChange
  cases resolved with
  | none => exact (keepsWalk_attempt _).bind (fun _ => keepsWalk_modify (fun _ => rfl))
  | some i =>
    apply keepsWalk_get.bind
    intro d
    apply (keepsWalk_lift _).bind
    intro wrote
    split
    · apply observes_wallClockNowSecs.walk.bind
      intro nowSecs
      exact keepsWalk_modify (fun d => restashed_retryAfterSwaps d i canonical nowSecs)
    · exact keepsWalk_pure _

theorem keepsWalk_reconcileCanonicalChange (canonical : Credential) :
    KeepsWalk (reconcileCanonicalChange canonical) := by
  unfold reconcileCanonicalChange
  apply keepsWalk_get.bind
  intro d
  cases d.canonicalWatch.classify canonical with
  | primed => exact keepsWalk_modify (fun _ => rfl)
  | unchanged => exact keepsWalk_pure _
  | changed =>
    apply (observes_resolveAccountFor canonical).walk.bind
    intro resolved
    exact keepsWalk_healChange canonical resolved

theorem keepsWalk_reconcileIfRead (canonical : Option Credential) :
    KeepsWalk (reconcileIfRead canonical) := by
  cases canonical with
  | none => exact keepsWalk_pure _
  | some canonical => exact keepsWalk_reconcileCanonicalChange canonical

theorem keepsWalk_promoteCanonical (i : ℕ) (cred : Credential) :
    KeepsWalk (promoteCanonical i cred) := by
  unfold promoteCanonical
  apply keepsWalk_get.bind
  intro d
  apply (keepsWalk_attempt _).bind
  intro r
  cases r with
  | error e => exact keepsWalk_pure _
  | ok promoted =>
    cases promoted with
    | false => exact keepsWalk_pure _
    | true => exact keepsWalk_modify_bind (fun _ => rfl) (fun _ => keepsWalk_pure _)

theorem keepsWalk_keepWarmAndPromote (i : ℕ) (canonical : Credential) (trigger : KeepWarmTrigger) :
    KeepsWalk (keepWarmAndPromote i canonical trigger) := by
  unfold keepWarmAndPromote
  split
  · exact keepsWalk_pure _
  · apply observes_clockNow.walk.bind
    intro now
    refine keepsWalk_modify_bind (fun _ => rfl) ?_
    intro _
    apply keepsWalk_get.bind
    intro d
    split
    · exact keepsWalk_pure _
    · apply (keepsWalk_lift _).bind
      intro minted
      refine keepsWalk_modify_bind (fun _ => rfl) ?_
      intro _
      apply (keepsWalk_emit _).bind
      intro _
      split
      · exact (keepsWalk_promoteCanonical i _).bind (fun _ => keepsWalk_pure _)
      · exact keepsWalk_pure _

theorem keepsWalk_keepWarmRetry (i : ℕ) (canonical : Option Credential) :
    KeepsWalk (keepWarmRetry i canonical) := by
  unfold keepWarmRetry
  cases canonical with
  | none => exact keepsWalk_pure _
  | some canonical =>
    apply keepsWalk_get.bind
    intro d
    apply (keepsWalk_keepWarmAndPromote i canonical .reactive).bind
    intro r
    split
    · exact (observes_poll _ true).walk
    · exact keepsWalk_pure _

theorem keepsWalk_keepActiveWarm [Sha256] (active : Option ℕ) (canonical : Option Credential)
    (nowMs : Int) : KeepsWalk (keepActiveWarm active canonical nowMs) := by
  unfold keepActiveWarm
  apply keepsWalk_get.bind
  intro d
  split
  · split
    · apply observes_clockNow.walk.bind
      intro now
      split
      · exact keepsWalk_pure _
      · exact (keepsWalk_keepWarmAndPromote _ _ _).bind (fun _ => keepsWalk_pure _)
    · exact keepsWalk_pure _
  · exact keepsWalk_pure _

omit [SerdeJson] in
theorem keepsWalk_resolveUnknownActive (canonical : Option Credential) :
    KeepsWalk (resolveUnknownActive canonical) := by
  unfold resolveUnknownActive
  apply keepsWalk_get.bind
  intro d
  cases d.active with
  | some i => exact keepsWalk_pure _
  | none =>
    cases canonical with
    | none => exact observes_resolveActive.walk.bind (fun _ => keepsWalk_modify (fun _ => rfl))
    | some canonical =>
      exact (observes_resolveAccountFor canonical).walk.bind
        (fun _ => keepsWalk_modify (fun _ => rfl))

theorem keepsWalk_pollResult (i : ℕ) (canonical : Option Credential)
    (polled : Except Error Usage) : KeepsWalk (pollResult i canonical polled) := by
  unfold pollResult
  apply keepsWalk_get.bind
  intro d
  split
  · apply (observes_refreshRetry i).walk.bind
    intro result
    exact keepsWalk_modify_bind (fun _ => rfl) (fun _ => keepsWalk_pure _)
  · split
    · exact keepsWalk_keepWarmRetry i canonical
    · exact keepsWalk_pure _

theorem keepsWalk_pollAccount (i : ℕ) (active : Option ℕ) (canonical : Option Credential) :
    KeepsWalk (pollAccount i active canonical) := by
  unfold pollAccount
  apply keepsWalk_get.bind
  intro d
  apply (observes_poll _ _).walk.bind
  intro polled
  apply (keepsWalk_pollResult i canonical polled).bind
  intro result
  apply (keepsWalk_fold (fun d => d.notePollOutcome_frame i result)).bind
  intro _
  apply (observes_noteAccountBackoff i _ result).walk.bind
  intro _
  apply observes_clockNow.walk.bind
  intro now
  apply (keepsWalk_fold (fun d => d.noteReading_frame i active result now)).bind
  intro _
  apply observes_wallClockNowSecs.walk.bind
  intro nowSecs
  apply (keepsWalk_fold (fun d => d.noteExhaustedPoll_frame i active now nowSecs)).bind
  intro _
  apply (observes_readPollClocks _ _).walk.bind
  rintro ⟨clocks, source⟩
  apply (keepsWalk_fold (fun d => d.setClocks_frame i clocks)).bind
  intro _
  apply observes_wallClockNowSecs.walk.bind
  intro nowSecs
  apply (keepsWalk_fold (fun d => d.notePolledExpiry_frame i _ source nowSecs)).bind
  intro _
  exact keepsWalk_fold (fun d => d.notePolled_frame i)

theorem keepsWalk_pollNext (active : Option ℕ) (canonical : Option Credential) :
    KeepsWalk (pollNext active canonical) := by
  unfold pollNext
  apply keepsWalk_get.bind
  intro d
  apply (keepsWalk_fold (fun d => d.nextPollIndex_frame active)).bind
  intro _
  cases (d.nextPollIndex active).1 with
  | none => exact keepsWalk_pure _
  | some i =>
    apply (observes_accountBackingOff i).walk.bind
    intro backingOff
    split
    · exact keepsWalk_pure _
    · apply (observes_exhaustedSlowPolling i active).walk.bind
      intro slow
      split
      · exact keepsWalk_pure _
      · exact keepsWalk_pollAccount i active canonical

variable [Sha256]

theorem keepsWalk_observe (at' : Nanos) (activeBefore : Option ℕ) (canonical : Option Credential)
    (absent : Bool) : KeepsWalk (observe at' activeBefore canonical absent) := by
  unfold observe observeReconciled
  apply (keepsWalk_fold (fun d => d.clearLockBackoff_frame)).bind
  intro _
  apply (keepsWalk_reconcileIfRead canonical).bind
  intro _
  apply (keepsWalk_resolveUnknownActive canonical).bind
  intro _
  apply (keepsWalk_fold (fun d => d.settleActive_frame activeBefore)).bind
  intro _
  apply keepsWalk_get.bind
  intro d
  apply (observes_noteActiveDesignation d.active).walk.bind
  intro _
  apply (keepsWalk_fold (fun d' => d'.noteCanonicalLiveness_frame _ d.active)).bind
  intro _
  apply (keepsWalk_pollNext d.active canonical).bind
  intro _
  apply observes_clockNow.walk.bind
  intro observationNow
  apply (keepsWalk_fold (fun d' => d'.noteObservationGap_frame d.active observationNow)).bind
  intro _
  apply (keepsWalk_lift _ : KeepsWalk wallClockNowMs).bind
  intro nowMs
  apply (keepsWalk_keepActiveWarm d.active canonical nowMs).bind
  intro _
  apply keepsWalk_get.bind
  intro observed
  apply (keepsWalk_fold (fun d' => d'.noteBlindGateEligibility_frame d.active _ at')).bind
  intro _
  exact keepsWalk_pure _

theorem keepsWalk_observeRead (at' : Nanos) (activeBefore : Option ℕ)
    (r : Except Error Credential) : KeepsWalk (observeRead at' activeBefore r) := by
  unfold observeRead
  split
  · exact (keepsWalk_fold (fun d => d.lockedTick_frame)).bind (fun _ => keepsWalk_pure _)
  · exact keepsWalk_map (keepsWalk_observe at' activeBefore _ _)
  · exact keepsWalk_map (keepsWalk_observe at' activeBefore _ _)
  · exact keepsWalk_map (keepsWalk_observe at' activeBefore _ _)

theorem keepsWalk_observeTick : KeepsWalk observeTick := by
  unfold observeTick
  refine keepsWalk_modify_bind (fun _ => rfl) ?_
  intro _
  apply observes_clockNow.walk.bind
  intro at'
  apply keepsWalk_get.bind
  intro d
  apply (keepsWalk_attempt _).bind
  intro r
  exact keepsWalk_observeRead at' d.active r

end Observing

/-! ## Deciding -/

theorem keepsWalk_recoverScrubbedCanonical (active : Option ℕ) (readings : ℕ → Option Usage)
    (at' : Nanos) : KeepsWalk (recoverScrubbedCanonical active readings at') := by
  unfold recoverScrubbedCanonical
  apply (keepsWalk_fold (fun d => d.rollScrubAdoptWindow_frame at')).bind
  intro _
  apply keepsWalk_get.bind
  intro d
  split
  · exact (keepsWalk_fold (fun d => d.noteScrubAdoptExhausted_frame active)).bind
      (fun _ => keepsWalk_pure _)
  · apply (observes_draw _ _ _).walk.bind
    intro drawn
    cases d.pickRanked (active.getD d.roster.length) readings none none (drawn / 100) with
    | none => exact keepsWalk_pure _
    | some target =>
      apply (keepsWalk_of_frame (keepsFrame_lockedAdopt _)).bind
      intro r
      cases r with
      | error e => exact keepsWalk_pure _
      | ok report =>
        apply (keepsWalk_recordSwap _ _ _).bind
        intro _
        exact (keepsWalk_fold (fun d => d.scrubAdopted_frame target at')).bind
          (fun _ => keepsWalk_pure _)

theorem keepsWalk_recoverIfScrubbed (view : TickView) : KeepsWalk (recoverIfScrubbed view) := by
  unfold recoverIfScrubbed
  split
  · exact keepsWalk_recoverScrubbedCanonical _ _ _
  · exact keepsWalk_pure _

section Deciding

variable [SerdeJson] (at' : Nanos) (i : ℕ) (readings : ℕ → Option Usage)

theorem keepsWalk_emergencySwap : KeepsWalk (emergencySwap at' i readings) := by
  unfold emergencySwap
  apply keepsWalk_get.bind
  intro d
  apply (observes_draw _ _ _).walk.bind
  intro drawn
  dsimp only
  cases d.pickRanked i readings none none (drawn / 100) with
  | none =>
    dsimp only
    split
    · apply (keepsWalk_emit _).bind
      intro _
      exact keepsWalk_modify_bind (fun _ => rfl) (fun _ => keepsWalk_pure _)
    · exact (keepsWalk_pure PUnit.unit).bind (fun _ => keepsWalk_pure _)
  | some target =>
    apply (keepsWalk_of_frame (keepsFrame_lockedSwap _ _ false)).bind
    intro r
    cases r with
    | error e => exact keepsWalk_pure _
    | ok report =>
      apply (keepsWalk_recordSwap _ _ _).bind
      intro _
      exact (keepsWalk_emit _).bind (fun _ => keepsWalk_pure _)

theorem keepsWalk_velocitySwap (sessionCeiling weeklyThreshold : ℚ) :
    KeepsWalk (velocitySwap at' i sessionCeiling weeklyThreshold readings) := by
  unfold velocitySwap
  apply keepsWalk_get.bind
  intro d
  dsimp only
  split
  · exact keepsWalk_pure _
  · split
    · split
      · exact keepsWalk_pure _
      · split
        · exact keepsWalk_pure _
        · split
          · exact keepsWalk_pure _
          · apply observes_drawCooldown.walk.bind
            intro cooldown
            split
            · exact keepsWalk_pure _
            · split
              · exact keepsWalk_pure _
              · apply (keepsWalk_of_frame (keepsFrame_lockedSwap _ _ false)).bind
                intro r
                cases r with
                | error e => exact keepsWalk_pure _
                | ok report =>
                  apply (keepsWalk_recordSwap _ _ _).bind
                  intro _
                  exact (keepsWalk_emit _).bind (fun _ => keepsWalk_pure _)
    · exact keepsWalk_pure _

theorem keepsWalk_reactiveSwap (activeUsage : Usage) (sessionCeiling weeklyCeiling : ℚ) :
    KeepsWalk (reactiveSwap at' i activeUsage sessionCeiling weeklyCeiling readings) := by
  unfold reactiveSwap
  apply keepsWalk_get.bind
  intro d
  dsimp only
  split
  · exact keepsWalk_pure _
  · apply observes_drawCooldown.walk.bind
    intro cooldown
    split
    · exact keepsWalk_pure _
    · split
      · split
        · apply (keepsWalk_emit _).bind
          intro _
          exact keepsWalk_modify_bind (fun _ => rfl) (fun _ => keepsWalk_pure _)
        · exact (keepsWalk_pure PUnit.unit).bind (fun _ => keepsWalk_pure _)
      · apply (keepsWalk_of_frame (keepsFrame_lockedSwap _ _ false)).bind
        intro r
        cases r with
        | error e => exact keepsWalk_pure _
        | ok report =>
          apply (keepsWalk_recordSwap _ _ _).bind
          intro _
          apply (keepsWalk_emit _).bind
          intro _
          split
          · exact keepsWalk_modify_bind (fun _ => rfl) (fun _ => keepsWalk_pure _)
          · exact (keepsWalk_pure PUnit.unit).bind (fun _ => keepsWalk_pure _)

theorem keepsWalk_decideReadable (activeUsage : Usage) (sessionCeiling weeklyCeiling : ℚ) :
    KeepsWalk (decideReadable at' i activeUsage sessionCeiling weeklyCeiling readings) := by
  unfold decideReadable
  apply keepsWalk_get.bind
  intro d
  dsimp only
  split
  · exact keepsWalk_velocitySwap at' i readings _ _
  · exact keepsWalk_reactiveSwap at' i readings activeUsage _ _

end Deciding

/-! ## Between ticks -/

section Commands

theorem keepsWalk_followCanonical (canonical : Credential) :
    KeepsWalk (followCanonical canonical) := by
  unfold followCanonical
  apply keepsWalk_get.bind
  intro d
  apply (observes_resolveAccountFor canonical).walk.bind
  intro next
  refine keepsWalk_modify_bind (fun _ => rfl) ?_
  intro _
  apply (keepsWalk_fold (fun d' => d'.deactivateRecoveryProbe_frame d.active next)).bind
  intro _
  have hdrop : ∀ s : Daemon, (if next ≠ d.active then
      ({ s with lastGood := none } : Daemon).invalidatePollSchedule else s).retryAfterSwaps =
        s.retryAfterSwaps := by
    intro s
    split <;> rfl
  exact keepsWalk_modify_bind hdrop (fun _ => keepsWalk_modify (fun _ => rfl))

theorem keepsWalk_adoptManualSwap : KeepsWalk adoptManualSwap := by
  unfold adoptManualSwap
  apply observes_clockNow.walk.bind
  intro at'
  apply (keepsWalk_attempt _).bind
  intro r
  cases r with
  | error e => exact (keepsWalk_pure PUnit.unit).bind (fun _ => keepsWalk_modify (fun _ => rfl))
  | ok canonical =>
    exact (keepsWalk_followCanonical canonical).bind (fun _ => keepsWalk_modify (fun _ => rfl))

theorem reconcileRoster_retryAfterSwaps (d : Daemon) (newRoster : List Account)
    (intent : ReloadIntent) :
    (d.reconcileRoster newRoster intent).retryAfterSwaps = d.retryAfterSwaps := by
  unfold Daemon.reconcileRoster
  split
  · rfl
  · dsimp only
    split <;> rfl

variable [SerdeJson]

theorem keepsWalk_commandedSwap (source target : ℕ) (now : Nanos) (force : Bool) :
    KeepsWalk (commandedSwap source target now force) := by
  unfold commandedSwap
  apply keepsWalk_get.bind
  intro d
  apply (keepsWalk_of_frame (keepsFrame_lockedSwap _ _ force)).bind
  intro r
  cases r with
  | error e => exact keepsWalk_pure _
  | ok report =>
    apply keepsWalk_get.bind
    intro after
    apply (keepsWalk_recordSwap _ _ _).bind
    intro _
    apply (keepsWalk_fold (fun d' => d'.deactivateRecoveryProbe_frame after.active (some target))).bind
    intro _
    exact (keepsWalk_emit _).bind (fun _ => keepsWalk_pure _)

theorem keepsWalk_performSocketSwap (query : String) (force : Bool) :
    KeepsWalk (performSocketSwap query force) := by
  unfold performSocketSwap
  apply keepsWalk_get.bind
  intro d
  split
  · exact keepsWalk_pure _
  · exact keepsWalk_pure _
  · apply observes_clockNow.walk.bind
    intro now
    split
    · exact keepsWalk_pure _
    · exact keepsWalk_pure _
    · split
      · exact keepsWalk_pure _
      · exact keepsWalk_commandedSwap _ _ now force

theorem keepsWalk_reprobeDeadParkedCredential (i : ℕ) :
    KeepsWalk (reprobeDeadParkedCredential i) := by
  unfold reprobeDeadParkedCredential
  apply keepsWalk_get.bind
  intro d
  apply (keepsWalk_lift _ : KeepsWalk (refresh (d.account i))).bind
  intro refreshed
  apply (keepsWalk_emit _).bind
  intro _
  apply (keepsWalk_lift _).bind
  intro expiresAtMs
  exact keepsWalk_fold (fun d => d.foldRecoveryOutcome_frame i _ expiresAtMs)

theorem keepsWalk_reconcileRestored (accountUuid : String) :
    KeepsWalk (reconcileRestored accountUuid) := by
  unfold reconcileRestored
  apply keepsWalk_get.bind
  intro d
  split
  · exact keepsWalk_pure _
  · split
    · exact keepsWalk_reprobeDeadParkedCredential _
    · exact keepsWalk_fold (fun d => d.applyRefreshRestore_frame accountUuid)

theorem keepsWalk_reprobeActiveIfDead : KeepsWalk reprobeActiveIfDead := by
  unfold reprobeActiveIfDead
  apply keepsWalk_get.bind
  intro d
  split
  · exact keepsWalk_pure _
  · split
    · exact keepsWalk_pure _
    · apply (keepsWalk_attempt _).bind
      intro r
      cases r with
      | error e => exact keepsWalk_pure _
      | ok canonical =>
        apply (keepsWalk_keepWarmAndPromote _ canonical .recovery).bind
        intro r
        exact keepsWalk_fold (fun d => d.foldRecoveryOutcome_frame _ r.outcome none)

end Commands

end Sessiometer
