import Sessiometer.Menubar.Client

namespace Sessiometer.Menubar

open HonestStateMachine

/-! ## The timers -/

namespace Timer

theorem elapsed_superseded {timer : Timer} {m : HonestStateMachine} {generation : ℕ}
    (h : generation ≠ timer.generation m) : timer.elapsed m generation = m := by
  cases timer <;>
    simp_all [Timer.elapsed, Timer.generation, watchdogElapsed, stabilityElapsed, graceElapsed,
      dwellElapsed]

/-- The elapse a timer was wanted for ends what it was wanted for. -/
theorem elapsed_ends {timer : Timer} {m : HonestStateMachine} (h : timer.wanted m = true) :
    timer.wanted (timer.elapsed m (timer.generation m)) = false := by
  cases timer
  · simp only [Timer.wanted, isWatchingForValidFrames, decide_eq_true_eq] at h
    simp only [Timer.elapsed, Timer.generation, watchdogElapsed, h, and_self, if_true]
    split <;> simp [Timer.wanted, isWatchingForValidFrames]
  · simp only [Timer.wanted] at h
    simp only [Timer.elapsed, Timer.generation, stabilityElapsed, h, and_self, if_true]
    simp [Timer.wanted, isStabilizing]
  · simp only [Timer.wanted, isAwaitingStartGrace, decide_eq_true_eq] at h
    simp [Timer.elapsed, Timer.generation, graceElapsed, h, Timer.wanted, isAwaitingStartGrace]
  · simp only [Timer.wanted, isAwaitingWarmDwell, Bool.and_eq_true] at h
    cases hl : m.liveness <;>
      simp_all [Timer.elapsed, Timer.generation, dwellElapsed, Timer.wanted, isAwaitingWarmDwell,
        Liveness.isReconnecting]

/-- A token stands only while its condition does: for every timer but the one that fires. -/
theorem elapsed_turn {t timer : Timer} {m : HonestStateMachine} {generation : ℕ}
    (hother : t = timer → ¬(timer.wanted m = true ∧ generation = timer.generation m))
    (hstands : t.generation (timer.elapsed m generation) = t.generation m) :
    t.wanted (timer.elapsed m generation) = t.wanted m := by
  by_cases hg : generation = timer.generation m
  · subst hg
    cases timer
    · by_cases hl : m.liveness = .live
      · have hs : ∀ u : HonestStateMachine, u.liveness = .stale → u.isStabilizing = false := by
          intro u hu
          simp [isStabilizing, hu]
        cases t <;>
          simp_all [Timer.elapsed, Timer.generation, watchdogElapsed, Timer.wanted,
            isWatchingForValidFrames, isAwaitingStartGrace, isAwaitingWarmDwell,
            Liveness.isReconnecting] <;> grind
      · simp [Timer.elapsed, watchdogElapsed, hl]
    · by_cases hl : m.isStabilizing
      · cases t <;>
          simp_all [Timer.elapsed, Timer.generation, stabilityElapsed, Timer.wanted,
            isWatchingForValidFrames, isAwaitingStartGrace, isAwaitingWarmDwell,
            Liveness.isReconnecting]
      · simp [Timer.elapsed, stabilityElapsed, hl]
    · by_cases hl : m.liveness = .starting
      · cases t <;>
          simp_all [Timer.elapsed, Timer.generation, graceElapsed, Timer.wanted, isStabilizing,
            isWatchingForValidFrames, isAwaitingStartGrace, isAwaitingWarmDwell,
            Liveness.isReconnecting]
      · simp [Timer.elapsed, graceElapsed, hl]
    · cases hl : m.liveness <;> cases t <;>
        simp_all [Timer.elapsed, Timer.generation, dwellElapsed, Timer.wanted, isStabilizing,
          isWatchingForValidFrames, isAwaitingStartGrace, isAwaitingWarmDwell,
          Liveness.isReconnecting]
  · rw [elapsed_superseded hg]

end Timer

namespace WatchStatusStore

/-- Exactly one token is in flight for what the machine wants timed, and none for the rest. -/
def Armed (s : WatchStatusStore) : Prop :=
  ∀ timer generation, s.tasks timer = some generation ↔
    timer.wanted s.machine = true ∧ generation = timer.generation s.machine

theorem armed_init : init.Armed := by
  intro timer generation
  cases timer <;> simp [init, HonestStateMachine.init, Timer.wanted, isWatchingForValidFrames,
    isStabilizing, isAwaitingStartGrace, isAwaitingWarmDwell, Liveness.isReconnecting]

/-- A slot stays right when its token moves with its condition. -/
theorem rearm_iff {timer : Timer} {before after : HonestStateMachine} {task : Option ℕ}
    (htask : ∀ generation, task = some generation ↔
      timer.wanted before = true ∧ generation = timer.generation before)
    (hturn : timer.generation after = timer.generation before →
      timer.wanted after = timer.wanted before) (generation : ℕ) :
    rearm timer before after task = some generation ↔
      timer.wanted after = true ∧ generation = timer.generation after := by
  unfold rearm
  by_cases hg : timer.generation after = timer.generation before
  · rw [if_pos hg, htask, hturn hg, hg]
  · rw [if_neg hg]
    by_cases hw : timer.wanted after = true
    · simp [hw, eq_comm]
    · simp [hw]

theorem armed_resyncTimers {s : WatchStatusStore} {after : HonestStateMachine} (h : s.Armed)
    (hturn : ∀ timer : Timer, timer.generation after = timer.generation s.machine →
      timer.wanted after = timer.wanted s.machine) : (s.resyncTimers after).Armed := by
  intro timer generation
  exact rearm_iff (h timer) (hturn timer) generation

theorem resyncTimers_self (s : WatchStatusStore) : s.resyncTimers s.machine = s := by
  have htasks : ∀ timer, rearm timer s.machine s.machine (s.tasks timer) = s.tasks timer := by
    intro timer
    simp [rearm]
  simp [resyncTimers, htasks]

/-- An elapse under any token but the current one changes nothing. -/
theorem timerElapsed_superseded {s : WatchStatusStore} (h : s.Armed) {timer : Timer}
    {generation : ℕ} (hg : generation ≠ timer.generation s.machine) :
    s.timerElapsed timer generation = s := by
  have hslot : s.tasks timer ≠ some generation := by
    intro hin
    exact hg ((h timer generation).1 hin).2
  have hfired : (fun t => if t = timer ∧ s.tasks t = some generation then none else s.tasks t) =
      s.tasks := by
    funext t
    by_cases ht : t = timer
    · subst ht
      simp [hslot]
    · simp [ht]
  simp only [timerElapsed, hfired, Timer.elapsed_superseded hg]
  exact s.resyncTimers_self

theorem armed_timerElapsed {s : WatchStatusStore} (h : s.Armed) (timer : Timer)
    (generation : ℕ) : (s.timerElapsed timer generation).Armed := by
  intro t g
  by_cases hin : t = timer ∧ s.tasks t = some generation
  · -- the timer in flight fires: it is not wanted any more
    obtain ⟨rfl, hslot⟩ := hin
    obtain ⟨hw, rfl⟩ := (h t generation).1 hslot
    have hends := Timer.elapsed_ends hw
    simp [timerElapsed, resyncTimers, rearm, hslot, hends]
  · have hother : t = timer →
        ¬(timer.wanted s.machine = true ∧ generation = timer.generation s.machine) := by
      intro ht hcurrent
      subst ht
      exact hin ⟨rfl, (h t generation).2 hcurrent⟩
    have := rearm_iff (h t) (Timer.elapsed_turn hother) g
    simpa [timerElapsed, resyncTimers, hin] using this

end WatchStatusStore

/-! ## What a line does -/

namespace HonestStateMachine

/-- The class a frame settles; a heartbeat settles none, unless its version is refused. -/
def verdict : Decoding WatchFrame → Option SnapshotClass
  | .ok (.snapshot status) =>
    if status.isSchemaSupported then
      if status.accounts.isEmpty then some .empty else some .healthy
    else some .unsupported
  | .ok (.heartbeat _ schemaVersion) =>
    if WireContract.isSupported schemaVersion then none else some .unsupported
  | _ => none

/-- A frame settles no class when it is no snapshot and of no refused version. -/
theorem verdict_eq_none {frame : Decoding WatchFrame} :
    verdict frame = none ↔ decodedSnapshot frame = none ∧ unsupportedFrame frame = false := by
  cases frame with
  | error e => simp [verdict, decodedSnapshot, unsupportedFrame]
  | ok frame =>
    cases frame with
    | snapshot status =>
      simp only [verdict, decodedSnapshot, reduceCtorEq, false_and, iff_false]
      split
      · split <;> simp
      · simp
    | heartbeat generatedAt schemaVersion =>
      simp [verdict, decodedSnapshot, unsupportedFrame]
    | unknown => simp [verdict, decodedSnapshot, unsupportedFrame]

theorem verdict_eq_healthy {frame : Decoding WatchFrame} (h : verdict frame = some .healthy) :
    ∃ status, decodedSnapshot frame = some status ∧ status.isSchemaSupported = true ∧
      status.accounts ≠ [] := by
  cases frame with
  | error e => simp [verdict] at h
  | ok frame =>
    cases frame with
    | snapshot status =>
      refine ⟨status, rfl, ?_⟩
      by_cases hs : status.isSchemaSupported = true
      · by_cases ha : status.accounts = []
        · simp [verdict, hs, ha] at h
        · exact ⟨hs, ha⟩
      · simp [verdict, hs] at h
    | heartbeat generatedAt schemaVersion => simp [verdict] at h
    | unknown => simp [verdict] at h

/-- The payload a frame leaves. -/
def Payload.after (p : Payload) : Decoding WatchFrame → Payload
  | .ok (.snapshot status) => if status.isSchemaSupported then .ofStatus status else .refused
  | .ok (.heartbeat _ schemaVersion) =>
    if WireContract.isSupported schemaVersion then p else .refused
  | _ => p

theorem applyFrame_outcome (m : HonestStateMachine) (frame : Decoding WatchFrame) :
    (m.applyFrame frame).2.resetsValidFrameWatchdog = validFrame frame := by
  cases frame with
  | error e => rfl
  | ok frame =>
    cases frame with
    | snapshot status =>
      by_cases hs : status.isSchemaSupported <;>
        simp [applyFrame, applySnapshot, refuse, hs, LineOutcome.resetsValidFrameWatchdog,
          validFrame]
    | heartbeat generatedAt schemaVersion =>
      by_cases hs : WireContract.isSupported schemaVersion <;>
        simp [applyFrame, applyHeartbeat, refuse, hs, LineOutcome.resetsValidFrameWatchdog,
          validFrame]
    | unknown => rfl

theorem applyFrame_spec (m : HonestStateMachine) (frame : Decoding WatchFrame) :
    ∃ generatedAt, (m.applyFrame frame).1 =
      { m with
          liveness := if validFrame frame then .live else m.liveness
          hasEverConnected := m.hasEverConnected || validFrame frame
          snapshotClass := (verdict frame).getD m.snapshotClass
          payload := m.payload.after frame
          generatedAt } := by
  cases frame with
  | error e =>
    refine ⟨m.generatedAt, ?_⟩
    simp [applyFrame, validFrame, verdict, Payload.after]
  | ok frame =>
    cases frame with
    | snapshot status =>
      by_cases hs : status.isSchemaSupported
      · refine ⟨some status.generatedAt, ?_⟩
        cases ha : status.accounts.isEmpty <;>
          simp [applyFrame, applySnapshot, hs, ha, validFrame, verdict, Payload.after]
      · refine ⟨m.generatedAt, ?_⟩
        simp [applyFrame, applySnapshot, refuse, hs, validFrame, verdict, Payload.after]
    | heartbeat generatedAt schemaVersion =>
      by_cases hs : WireContract.isSupported schemaVersion
      · refine ⟨some generatedAt, ?_⟩
        simp [applyFrame, applyHeartbeat, hs, validFrame, verdict, Payload.after]
      · refine ⟨m.generatedAt, ?_⟩
        simp [applyFrame, applyHeartbeat, refuse, hs, validFrame, verdict, Payload.after]
    | unknown =>
      refine ⟨m.generatedAt, ?_⟩
      simp [applyFrame, validFrame, verdict, Payload.after]

variable [JsonDecoder]

theorem fold_line (m : HonestStateMachine) (text : String) :
    ∃ generatedAt, (m.fold (.line text)).1 =
      { m with
          liveness := if validFrame (parseWatchFrame text) then .live else m.liveness
          hasEverConnected := m.hasEverConnected || validFrame (parseWatchFrame text)
          snapshotClass := (verdict (parseWatchFrame text)).getD m.snapshotClass
          payload := m.payload.after (parseWatchFrame text)
          watchdogGeneration :=
            if validFrame (parseWatchFrame text) then m.watchdogGeneration + 1
            else m.watchdogGeneration
          generatedAt } := by
  obtain ⟨generatedAt, hspec⟩ := m.applyFrame_spec (parseWatchFrame text)
  refine ⟨generatedAt, ?_⟩
  simp only [fold, applyFrame_outcome, hspec]

/-- A live connection has been connected: what makes every loss of it a warm one. -/
def Known (m : HonestStateMachine) : Prop := m.liveness = .live → m.hasEverConnected = true

/-- The tokens an event's fold leaves to `retime`. -/
theorem fold_generations (m : HonestStateMachine) (event : TransportEvent) :
    (m.fold event).1.stabilityGeneration = m.stabilityGeneration ∧
      (m.fold event).1.graceGeneration = m.graceGeneration ∧
      (m.fold event).1.dwellGeneration = m.dwellGeneration := by
  cases event with
  | connected => simp [fold]
  | stale => simp [fold]
  | disconnected reason =>
    simp only [fold, dropped]
    split
    · split <;> simp
    · split <;> simp
  | line text =>
    obtain ⟨generatedAt, hline⟩ := m.fold_line text
    simp [hline]

/-- The watchdog's token stands only while the connection's liveness does. -/
theorem fold_watchdog {m : HonestStateMachine} (hknown : m.Known) {event : TransportEvent}
    (h : (m.fold event).1.watchdogGeneration = m.watchdogGeneration) :
    (m.fold event).1.isWatchingForValidFrames = m.isWatchingForValidFrames := by
  cases event with
  | connected => simp [fold] at h
  | stale => simp [fold] at h
  | disconnected reason =>
    simp only [fold, dropped] at h ⊢
    by_cases hever : m.hasEverConnected
    · rw [if_pos hever] at h ⊢
      split at h
      · rfl
      · rfl
      · simp at h
    · have hl : m.liveness ≠ .live := fun hl => hever (hknown hl)
      rw [if_neg hever]
      split
      · rfl
      · rfl
      · simp [isWatchingForValidFrames, hl]
  | line text =>
    obtain ⟨generatedAt, hline⟩ := m.fold_line text
    rw [hline] at h ⊢
    by_cases hv : validFrame (parseWatchFrame text)
    · simp [hv] at h
    · simp [isWatchingForValidFrames, hv]

/-- A token moves whenever an event turns its timer's condition. -/
theorem apply_turn {m : HonestStateMachine} (hknown : m.Known) {event : TransportEvent}
    {timer : Timer}
    (h : timer.generation (m.apply event).1 = timer.generation m) :
    timer.wanted (m.apply event).1 = timer.wanted m := by
  obtain ⟨hs, hg, hd⟩ := m.fold_generations event
  cases timer
  · exact fold_watchdog hknown h
  · by_contra hne
    have hne' : ¬(m.fold event).1.isStabilizing = m.isStabilizing := hne
    simp [Timer.generation, apply, retime, hs, hne'] at h
  · by_contra hne
    have hne' : ¬(m.fold event).1.isAwaitingStartGrace = m.isAwaitingStartGrace := hne
    simp [Timer.generation, apply, retime, hg, hne'] at h
  · by_contra hne
    have hne' : ¬(m.fold event).1.isAwaitingWarmDwell = m.isAwaitingWarmDwell := hne
    simp [Timer.generation, apply, retime, hd, hne'] at h

omit [JsonDecoder] in
theorem systemWillSleep_turn {m : HonestStateMachine} {timer : Timer}
    (h : timer.generation m.systemWillSleep = timer.generation m) :
    timer.wanted m.systemWillSleep = timer.wanted m := by
  by_cases ha : m.liveness.isReconnecting && !m.dwellSuspended
  · cases timer <;>
      simp_all [systemWillSleep, isAwaitingWarmDwell, Timer.generation, Timer.wanted,
        isWatchingForValidFrames, isStabilizing, isAwaitingStartGrace]
  · cases timer <;>
      simp_all [systemWillSleep, isAwaitingWarmDwell, Timer.generation, Timer.wanted,
        isWatchingForValidFrames, isStabilizing, isAwaitingStartGrace]

omit [JsonDecoder] in
theorem systemDidWake_turn {m : HonestStateMachine} {timer : Timer}
    (h : timer.generation m.systemDidWake = timer.generation m) :
    timer.wanted m.systemDidWake = timer.wanted m := by
  by_cases ha : m.liveness.isReconnecting && m.dwellSuspended
  · cases timer <;>
      simp_all [systemDidWake, isAwaitingWarmDwell, Timer.generation, Timer.wanted,
        isWatchingForValidFrames, isStabilizing, isAwaitingStartGrace]
  · cases timer <;>
      simp_all [systemDidWake, isAwaitingWarmDwell, Timer.generation, Timer.wanted,
        isWatchingForValidFrames, isStabilizing, isAwaitingStartGrace]

end HonestStateMachine

end Sessiometer.Menubar
