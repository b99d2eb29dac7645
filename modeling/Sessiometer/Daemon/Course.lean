import Sessiometer.Daemon.Moves
import Sessiometer.Daemon.Run

/-! # The course of a turn

A tick moves the latches until it polls, folds at most one poll into them, and moves them again
until it is settled. What happens between ticks is moves alone. -/

namespace Sessiometer

open Effects

/-! ## The two halves of an observation -/

section Halves

variable [SerdeJson]

/-- What a tick observes before it polls: who is active, and whether the canonical item lives. -/
def observeActive (activeBefore : Option ℕ) (canonical : Option Credential) (absent : Bool) :
    DaemonM (Option ℕ × CanonicalLiveness) := do
  modify (·.clearLockBackoff)
  reconcileIfRead canonical
  resolveUnknownActive canonical
  modify (·.settleActive activeBefore)
  let d ← get
  noteActiveDesignation d.active
  let liveness := canonicalLiveness canonical absent
  modify (·.noteCanonicalLiveness liveness d.active)
  pure (d.active, liveness)

/-- What a tick observes once it has polled. -/
def observePolled [Sha256] (at' : Nanos) (active : Option ℕ) (canonical : Option Credential)
    (liveness : CanonicalLiveness) : DaemonM TickView := do
  let observationNow ← clockNow
  modify (·.noteObservationGap active observationNow)
  let nowMs ← wallClockNowMs
  keepActiveWarm active canonical nowMs
  let observed ← get
  let readings := observed.decisionReadings active
  modify (·.noteBlindGateEligibility active readings at')
  pure ⟨at', active, liveness, readings⟩

/-! ## The poll, told -/

/-- What the polled account answered, and when. -/
structure Answer where
  result : Except Error Usage
  at' : Nanos

/-- The poll of a tick: when the tick began, the daemon as it consults its schedule, the answer, if the
scheduled account was polled, and the daemon with the answer folded in. -/
structure PollLog where
  at' : Nanos
  consulted : Daemon
  answer : Option Answer
  folded : Daemon

def PollLog.scheduled (x : PollLog) : Option ℕ :=
  (x.consulted.nextPollIndex x.consulted.active).1

/-- `pollAccount`, which tells the answer too. -/
def pollAccountLogged (i : ℕ) (active : Option ℕ) (canonical : Option Credential) :
    DaemonM Answer := do
  let d ← get
  let polled ← poll (d.account i) (decide (active = some i))
  let result ← pollResult i canonical polled
  modify (·.notePollOutcome i result)
  noteAccountBackoff i (decide (active = some i)) result
  let now ← clockNow
  modify (·.noteReading i active result now)
  let nowSecs ← wallClockNowSecs
  modify (·.noteExhaustedPoll i active now nowSecs)
  let (clocks, source) ← readPollClocks (d.account i) (decide (active = some i))
  modify (·.setClocks i clocks)
  let nowSecs ← wallClockNowSecs
  modify (·.notePolledExpiry i clocks.refreshTokenExpiresAt source nowSecs)
  modify (·.notePolled i)
  pure ⟨result, now⟩

def pollNextLogged (active : Option ℕ) (canonical : Option Credential) :
    DaemonM (Option Answer) := do
  let d ← get
  modify (fun d => (d.nextPollIndex active).2)
  match (d.nextPollIndex active).1 with
  | none => pure none
  | some i => do
    if ← accountBackingOff i then pure none
    else do
      if ← exhaustedSlowPolling i active then pure none
      else some <$> pollAccountLogged i active canonical

theorem pollNext_eq (active : Option ℕ) (canonical : Option Credential) :
    pollNext active canonical = (fun _ => ⟨⟩) <$> pollNextLogged active canonical := by
  have haccount : ∀ i, pollAccount i active canonical =
      (fun _ => ⟨⟩) <$> (some <$> pollAccountLogged i active canonical) := by
    intro i
    unfold pollAccount pollAccountLogged
    simp only [map_eq_pure_bind, bind_assoc, pure_bind, bind_pure_unit]
  unfold pollNext pollNextLogged
  rw [map_bind]
  congr 1
  funext d
  rw [map_bind]
  congr 1
  funext _
  cases (d.nextPollIndex active).1 with
  | none => rfl
  | some i =>
    dsimp only
    rw [map_bind]
    congr 1
    funext backingOff
    split
    · rfl
    · rw [map_bind]
      congr 1
      funext slow
      split
      · rfl
      · exact haccount i

omit [SerdeJson] in
theorem get_bind_const {α : Type} (m : DaemonM α) : (get >>= fun _ => m) = m := rfl

variable [Sha256]

def observeLogged (at' : Nanos) (activeBefore : Option ℕ) (canonical : Option Credential)
    (absent : Bool) : DaemonM (TickView × PollLog) := do
  let (active, liveness) ← observeActive activeBefore canonical absent
  let consulted ← get
  let answer ← pollNextLogged active canonical
  let folded ← get
  let view ← observePolled at' active canonical liveness
  pure (view, ⟨at', consulted, answer, folded⟩)

def observeReadLogged (at' : Nanos) (activeBefore : Option ℕ) :
    Except Error Credential → DaemonM (Option (TickView × PollLog))
  | .error (.keychainLocked _) => do
    modify (·.lockedTick)
    pure none
  | .ok canonical => some <$> observeLogged at' activeBefore (some canonical) false
  | .error .credentialNotFound => some <$> observeLogged at' activeBefore none true
  | .error _ => some <$> observeLogged at' activeBefore none false

def observeTickLogged : DaemonM (Option (TickView × PollLog)) := do
  modify (·.beginTick)
  let at' ← clockNow
  let d ← get
  let canonical ← attempt CredentialStore.read
  observeReadLogged at' d.active canonical

theorem observe_eq (at' : Nanos) (activeBefore : Option ℕ) (canonical : Option Credential)
    (absent : Bool) : observe at' activeBefore canonical absent =
      Prod.fst <$> observeLogged at' activeBefore canonical absent := by
  unfold observe observeReconciled observeLogged observeActive observePolled
  simp only [pollNext_eq, map_eq_pure_bind, bind_assoc, pure_bind, get_bind_const]

/-- Telling the poll changes nothing about a tick. -/
theorem observeTick_eq : observeTick = Option.map Prod.fst <$> observeTickLogged := by
  unfold observeTick observeTickLogged
  simp only [map_bind]
  congr 1
  funext _
  congr 1
  funext at'
  congr 1
  funext d
  congr 1
  funext canonical
  have hsome : ∀ c absent, some <$> observe at' d.active c absent =
      Option.map Prod.fst <$> (some <$> observeLogged at' d.active c absent) := by
    intro c absent
    rw [observe_eq, Functor.map_map, Functor.map_map]
    rfl
  unfold observeRead observeReadLogged
  rcases canonical with e | c
  · cases e <;> first | rfl | exact hsome _ _
  · exact hsome _ _

end Halves

/-! ## The poll -/

def Daemon.armBackoff (d : Daemon) (i : ℕ) (until' : Nanos) (retryAfter : Option Nanos) : Daemon :=
  d.setHealth i (fun h =>
    { h with
      pollBackoffUntil := some until'
      pollBackoffRetryAfter := retryAfter.filter (fun ra => decide (ra ≠ 0)) })

/-- What the result of a poll makes of the back-off, by the time `t`. -/
inductive BackoffNoted (i : ℕ) (isActive : Bool) (result : Except Error Usage) (t : Nanos)
    (s s' : Daemon) : Prop
  | cleared : backoffSignal result = none → s'.latches = (s.clearBackoff i).latches →
      BackoffNoted i isActive result t s s'
  | armed {signal : BackoffSignal} (streak : ℕ) (interval now : Nanos) :
      backoffSignal result = some signal → now ≤ t →
      s'.latches = (s.armBackoff i
        (backoffUntil now (backoffWait interval streak isActive signal.retryAfter))
        signal.retryAfter).latches → BackoffNoted i isActive result t s s'

/-- What a consulted schedule comes to: nothing is polled, or the scheduled account is, and its
answer folded in. -/
inductive Polled (p : Daemon) : Option Answer → Daemon → Nanos → Prop
  | skipped {q : Daemon} {t : Nanos} :
      q.latches = (p.nextPollIndex p.active).2.latches → Polled p none q t
  | polled {q : Daemon} {t : Nanos} {i : ℕ} {s₁ s₂ s₃ s₄ s₅ : Daemon} (result : Except Error Usage)
      (now : Nanos) (nowSecs : Int) : now ≤ t →
      (p.nextPollIndex p.active).1 = some i →
      s₁.latches = (p.nextPollIndex p.active).2.latches →
      BackoffNoted i (decide (p.active = some i)) result t s₁ s₂ →
      s₃.latches = s₂.latches →
      s₄.latches = (s₃.noteBlindEpisode i p.active result now).latches →
      s₅.latches = (s₄.storeReading i p.active result now).latches →
      q.latches = (s₅.noteExhaustedPoll i p.active now nowSecs).latches →
      Polled p (some ⟨result, now⟩) q t

section Poll

variable {pid : ℕ} {d d' : Daemon} {w w' : World}

theorem Idles.exec {α : Type} {m : DaemonM α} {D : Device Seams World} {a : α} (h : Idles m)
    (he : Exec D (m.run d) w (a, d') w') : d'.latches = d.latches :=
  Keeps.exec (R := fun s s' : Daemon => s'.latches = s.latches) h he

theorem armBackoff_latches {s s' : Daemon} (h : s'.latches = s.latches) (i : ℕ) (until' : Nanos)
    (retryAfter : Option Nanos) :
    (s'.armBackoff i until' retryAfter).latches = (s.armBackoff i until' retryAfter).latches := by
  apply Daemon.setAccount_congr s i h
  intro a a' ha
  exact congrArg (fun x : Slot =>
    { x with
      pollBackoffUntil := some until'
      pollBackoffRetryAfter := retryAfter.filter (fun ra => decide (ra ≠ 0)) }) ha

theorem exec_noteAccountBackoff {i : ℕ} {isActive : Bool} {result : Except Error Usage}
    {u : PUnit} (he : Exec ((surroundings pid).under Elapses)
      ((noteAccountBackoff i isActive result).run d) w (u, d') w') :
    BackoffNoted i isActive result w'.clock d d' := by
  unfold noteAccountBackoff at he
  cases hsignal : backoffSignal result with
  | none =>
    rw [hsignal] at he
    obtain ⟨hd, -⟩ := exec_pure_iff.mp he
    cases hd
    exact .cleared hsignal rfl
  | some signal =>
    rw [hsignal] at he
    dsimp only at he
    rw [exec_modify_bind, exec_get_bind] at he
    obtain ⟨interval, d₁, w₁, hinterval, hafter⟩ := exec_state_bind.mp he
    have hidle := idles_nextPollInterval.exec hinterval
    obtain ⟨now, d₂, w₂, hnow, hrest⟩ := exec_state_bind.mp hafter
    obtain ⟨hd₂, -, hclock⟩ := exec_clockNow hnow
    rw [hd₂, exec_modify_bind] at hrest
    obtain ⟨hd, hw⟩ := exec_pure_iff.mp hrest
    cases hd
    rw [hw]
    have hstreak : d₁.latches = d.latches :=
      hidle.trans (d.setHealth_latches i (fun _ => rfl))
    exact .armed _ interval now hsignal hclock.le
      ((Daemon.emit_latches _ rfl).trans (armBackoff_latches hstreak i _ signal.retryAfter))

theorem BackoffNoted.mono {i : ℕ} {isActive : Bool} {result : Except Error Usage} {t t' : Nanos}
    (h : BackoffNoted i isActive result t d d') (ht : t ≤ t') :
    BackoffNoted i isActive result t' d d' := by
  cases h with
  | cleared hsignal hd => exact .cleared hsignal hd
  | armed streak interval now hsignal hnow hd =>
    exact .armed streak interval now hsignal (le_trans hnow ht) hd

theorem compared_latches (i : ℕ) (active : Option ℕ) (result : Except Error Usage) (now : Nanos) :
    (match result with
      | .ok fresh => (d.noteInterval i fresh now).noteBlindWindow i active fresh now
      | .error _ => d : Daemon).latches = d.latches := by
  cases result with
  | error e => rfl
  | ok fresh =>
    dsimp only
    rw [Daemon.noteBlindWindow_latches, Daemon.noteInterval_latches]

variable [SerdeJson]

theorem exec_pollAccountLogged {p s : Daemon} {i : ℕ} {canonical : Option Credential} {x : Answer}
    (hpick : (p.nextPollIndex p.active).1 = some i)
    (hs : s.latches = (p.nextPollIndex p.active).2.latches)
    (he : Exec ((surroundings pid).under Elapses) ((pollAccountLogged i p.active canonical).run s) w
      (x, d') w') : Polled p (some x) d' w'.clock := by
  unfold pollAccountLogged at he
  rw [exec_get_bind] at he
  obtain ⟨polled, a₁, w₁, hpoll, he₁⟩ := exec_state_bind.mp he
  obtain ⟨result, a₂, w₂, hresult, he₂⟩ := exec_state_bind.mp he₁
  rw [exec_modify_bind] at he₂
  obtain ⟨_, a₃, w₃, hbackoff, he₃⟩ := exec_state_bind.mp he₂
  obtain ⟨now, a₄, w₄, hnow, he₄⟩ := exec_state_bind.mp he₃
  have hclock : now ≤ w'.clock := by
    rw [(exec_clockNow hnow).2.2]
    exact exec_elapses he₄
  rw [exec_modify_bind] at he₄
  obtain ⟨nowSecs, a₅, w₅, hsecs, he₅⟩ := exec_state_bind.mp he₄
  rw [exec_modify_bind] at he₅
  obtain ⟨⟨clocks, source⟩, a₆, w₆, hclocks, he₆⟩ := exec_state_bind.mp he₅
  dsimp only at he₆
  rw [exec_modify_bind] at he₆
  obtain ⟨nowSecs', a₇, w₇, hsecs', he₇⟩ := exec_state_bind.mp he₆
  rw [exec_modify_bind, exec_modify_bind] at he₇
  obtain ⟨hd, -⟩ := exec_pure_iff.mp he₇
  cases hd
  have hs₁ : (a₂.notePollOutcome i result).latches = s.latches := by
    rw [Daemon.notePollOutcome_latches, (idles_pollResult _ _ _).exec hresult,
      (idles_poll _ _).exec hpoll]
  have hnoted := (exec_noteAccountBackoff hbackoff).mono (exec_elapses he₃)
  have hcompared := compared_latches (d := a₄) i p.active result now
  refine .polled result now nowSecs hclock hpick (hs₁.trans hs) hnoted
    (hcompared.trans (idles_clockNow.exec hnow)) ?_ (idles_wallClockNowSecs.exec hsecs) ?_
  · exact Daemon.noteLandingOvershoot_latches _ i p.active result now
  · rw [Daemon.notePolled_latches, Daemon.notePolledExpiry_latches,
      idles_wallClockNowSecs.exec hsecs', Daemon.setClocks_latches,
      (idles_readPollClocks _ _).exec hclocks]

theorem exec_pollNextLogged {p : Daemon} {canonical : Option Credential} {x : Option Answer}
    (he : Exec ((surroundings pid).under Elapses) ((pollNextLogged p.active canonical).run p) w
      (x, d') w') : Polled p x d' w'.clock := by
  unfold pollNextLogged at he
  rw [exec_get_bind, exec_modify_bind] at he
  cases hpick : (p.nextPollIndex p.active).1 with
  | none =>
    rw [hpick] at he
    obtain ⟨hd, -⟩ := exec_pure_iff.mp he
    cases hd
    exact .skipped rfl
  | some i =>
    rw [hpick] at he
    dsimp only at he
    obtain ⟨backingOff, a₁, w₁, hbackingOff, he₁⟩ := exec_state_bind.mp he
    have ha₁ := (idles_accountBackingOff i).exec hbackingOff
    cases backingOff with
    | true =>
      obtain ⟨hd, -⟩ := exec_pure_iff.mp he₁
      cases hd
      exact .skipped ha₁
    | false =>
      rw [if_neg Bool.false_ne_true] at he₁
      obtain ⟨slow, a₂, w₂, hslow, he₂⟩ := exec_state_bind.mp he₁
      have ha₂ := (idles_exhaustedSlowPolling i p.active).exec hslow
      cases slow with
      | true =>
        obtain ⟨hd, -⟩ := exec_pure_iff.mp he₂
        cases hd
        exact .skipped (ha₂.trans ha₁)
      | false =>
        rw [if_neg Bool.false_ne_true, map_eq_pure_bind] at he₂
        obtain ⟨answer, a₃, w₃, hanswer, he₃⟩ := exec_state_bind.mp he₂
        obtain ⟨hd, rfl⟩ := exec_pure_iff.mp he₃
        cases hd
        exact exec_pollAccountLogged hpick (ha₂.trans ha₁) hanswer

omit [SerdeJson] in
theorem Polled.mono {p q : Daemon} {x : Option Answer} {t t' : Nanos} (h : Polled p x q t)
    (ht : t ≤ t') : Polled p x q t' := by
  cases h with
  | skipped hq => exact .skipped hq
  | polled result now nowSecs hnow hpick h₁ h₂ h₃ h₄ h₅ hq =>
    exact .polled result now nowSecs (le_trans hnow ht) hpick h₁ (h₂.mono ht) h₃ h₄ h₅ hq

omit [SerdeJson] in
/-- A back-off touches nothing else of an account. -/
theorem BackoffNoted.kept {β : Type} {i : ℕ} {isActive : Bool} {result : Except Error Usage}
    {t : Nanos} (h : BackoffNoted i isActive result t d d') (view : Slot → β)
    (hview : ∀ (s : Slot) (until' retryAfter : Option Nanos),
      view { s with pollBackoffUntil := until', pollBackoffRetryAfter := retryAfter } = view s)
    (j : ℕ) : view (d'.accounts j).slot = view (d.accounts j).slot := by
  cases h with
  | cleared _ hd =>
    rw [Daemon.slot_of_latches hd]
    unfold Daemon.clearBackoff
    rw [emitIf_accounts]
    refine d.setAccount_kept i (fun a => view a.slot) ?_ j
    exact fun a => hview a.slot none none
  | armed streak interval now _ _ hd =>
    rw [Daemon.slot_of_latches hd]
    unfold Daemon.armBackoff Daemon.setHealth
    refine d.setAccount_kept i (fun a => view a.slot) ?_ j
    exact fun a => hview a.slot _ _

omit [SerdeJson] in
theorem BackoffNoted.keeps {i : ℕ} {isActive : Bool} {result : Except Error Usage} {t : Nanos}
    (h : BackoffNoted i isActive result t d d') : d'.active = d.active ∧ d'.roster = d.roster := by
  cases h with
  | cleared _ hd =>
    rw [Daemon.active_of_latches hd, Daemon.roster_of_latches hd]
    exact ⟨active_of_frame (d.clearBackoff_frame i), roster_of_frame (d.clearBackoff_frame i)⟩
  | armed streak interval now _ _ hd =>
    rw [Daemon.active_of_latches hd, Daemon.roster_of_latches hd]
    exact ⟨rfl, rfl⟩

omit [SerdeJson] in
/-- A poll leaves the roster and the active account alone. -/
theorem Polled.keeps {p q : Daemon} {x : Option Answer} {t : Nanos} (h : Polled p x q t) :
    q.active = p.active ∧ q.roster = p.roster := by
  have hpicked := p.nextPollIndex_frame p.active
  cases h with
  | skipped hq =>
    rw [Daemon.active_of_latches hq, Daemon.roster_of_latches hq]
    exact ⟨active_of_frame hpicked, roster_of_frame hpicked⟩
  | @polled _ _ i s₁ s₂ s₃ s₄ s₅ result now nowSecs _ _ h₁ h₂ h₃ h₄ h₅ hq =>
    obtain ⟨hactive, hroster⟩ := h₂.keeps
    have hexhausted := s₅.noteExhaustedPoll_frame i p.active now nowSecs
    have hstored := s₄.storeReading_frame i p.active result now
    have hblind := s₃.noteBlindEpisode_frame i p.active result now
    constructor
    · rw [Daemon.active_of_latches hq, active_of_frame hexhausted, Daemon.active_of_latches h₅,
        active_of_frame hstored, Daemon.active_of_latches h₄, active_of_frame hblind,
        Daemon.active_of_latches h₃, hactive, Daemon.active_of_latches h₁, active_of_frame hpicked]
    · rw [Daemon.roster_of_latches hq, roster_of_frame hexhausted, Daemon.roster_of_latches h₅,
        roster_of_frame hstored, Daemon.roster_of_latches h₄, roster_of_frame hblind,
        Daemon.roster_of_latches h₃, hroster, Daemon.roster_of_latches h₁, roster_of_frame hpicked]

end Poll

/-! ## The observation -/

section Observation

variable [SerdeJson] {pid : ℕ} {d d' : Daemon} {w w' : World}

/-- The mark of a cleared canonical item is as the item was found. -/
def Daemon.Sees (d : Daemon) : CanonicalLiveness → Prop
  | .scrubbed => d.signaledCanonicalScrubbed = true
  | .present => d.signaledCanonicalScrubbed = false
  | .unknown => True

omit [SerdeJson] in
theorem sees_noteCanonicalLiveness (d : Daemon) (state : CanonicalLiveness) (active : Option ℕ) :
    (d.noteCanonicalLiveness state active).Sees state := by
  unfold Daemon.noteCanonicalLiveness
  cases state with
  | scrubbed =>
    dsimp only
    split
    · next hsignaled => exact hsignaled
    · exact rfl
  | present =>
    dsimp only
    split
    · exact rfl
    · next hsignaled => exact eq_false_of_ne_true hsignaled
  | unknown => exact trivial

/-- The account whose polls and gaps a tick notes is the active one throughout. -/
theorem returns_observeActive (canonical : Option Credential) (absent : Bool) :
    Returns (fun r => (r.1.1 = r.2.active ∧ r.2.Sees r.1.2) ∧ Moves .observe d r.2)
      ((observeActive d.active canonical absent).run d) := by
  have hmoves : Makes .observe d ((observeActive d.active canonical absent).run d) := by
    unfold observeActive
    apply makes_modify_bind
    have hlock : Moves .observe d d.clearLockBackoff := moves_of_latches rfl
    apply Makes.after hlock
    apply makes_redesignate (d := d.clearLockBackoff)
    intro e he
    apply makes_get_bind
    apply makes_idle_bind (idles_noteActiveDesignation _)
    intro _ e₁ he₁
    have hactive : e.active = e₁.active := (Daemon.active_of_latches he₁).symm
    rw [hactive]
    exact makes_pure (.single (.livenessNoted _))
  have hactive : Returns (fun r => r.1.1 = r.2.active ∧ r.2.Sees r.1.2)
      ((observeActive d.active canonical absent).run d) := by
    unfold observeActive
    rw [returns_state_bind, returns_modify, returns_state_bind]
    apply returns_of_forall
    intro r
    rw [returns_state_bind]
    apply returns_of_forall
    intro r
    rw [returns_state_bind, returns_modify, returns_state_bind, returns_get, returns_state_bind]
    apply ((observes_noteActiveDesignation _).keeps _).mono
    intro r hr
    have hnoted := Daemon.noteCanonicalLiveness_frame r.2 (canonicalLiveness canonical absent)
    exact ⟨((active_of_frame (hnoted _)).trans (active_of_frame hr)).symm,
      sees_noteCanonicalLiveness _ _ _⟩
  exact (hactive.and hmoves).mono (fun _ h => h)

omit [SerdeJson] in
theorem moves_noteObservationGap (active : Option ℕ) (now : Nanos) (h : d.active = active) :
    Moves .observe d (d.noteObservationGap active now) := by
  have hfold : ∀ (l : List ℕ) (s : Daemon), s.frame = d.frame → (∀ i ∈ l, i < d.roster.length) →
      Moves .observe s (l.foldl
        (fun s i => s.noteObservationGapOf active d.observationGapThreshold now i) s) := by
    intro l
    induction l with
    | nil => exact fun s _ _ => .refl
    | cons i l ih =>
      intro s hs hl
      have hi : i < s.roster.length := by
        rw [roster_of_frame hs]
        exact hl i List.mem_cons_self
      have hmove : Move .observe s (s.noteObservationGapOf active d.observationGapThreshold now i) := by
        rw [← h, ← active_of_frame hs]
        exact .gapNoted _ now hi
      have hframe := s.noteObservationGapOf_frame i active d.observationGapThreshold now
      rw [List.foldl_cons]
      exact .trans (.single hmove)
        (ih _ (hframe.trans hs) (fun j hj => hl j (List.mem_cons_of_mem i hj)))
  exact hfold _ d rfl (fun i hi => List.mem_range.mp hi)

omit [SerdeJson] in
theorem viewed_decisionReadings (d : Daemon) (active : Option ℕ) :
    Viewed (d.decisionReadings active) d := by
  intro i u hu
  unfold Daemon.decisionReadings at hu
  split at hu
  · exact hu
  · cases hu

variable [Sha256]

theorem returns_observePolled (at' : Nanos) (active : Option ℕ) (canonical : Option Credential)
    (liveness : CanonicalLiveness) (h : d.active = active) :
    Returns (fun r => Viewed r.1.readings r.2 ∧
        (r.1.at' = at' ∧ r.1.active = active ∧ r.1.liveness = liveness) ∧
        ∃ now, r.2.latches = (d.noteObservationGap d.active now).latches)
      ((observePolled at' active canonical liveness).run d) := by
  unfold observePolled
  rw [returns_state_bind]
  refine returns_state_lift.mpr ?_
  apply returns_of_forall
  intro observationNow
  rw [returns_state_bind, returns_modify, returns_state_bind]
  apply (idles_wallClockNowMs _).mono
  rintro ⟨nowMs, e₁⟩ he₁
  rw [returns_state_bind]
  apply (idles_keepActiveWarm active canonical nowMs e₁).mono
  rintro ⟨_, e₂⟩ he₂
  have hnoted := e₂.noteBlindGateEligibility_latches active (e₂.decisionReadings active) at'
  refine ⟨?_, ⟨rfl, rfl, rfl⟩, observationNow, ?_⟩
  · exact (viewed_decisionReadings e₂ active).of_latches hnoted
  · rw [h]
    exact hnoted.trans (he₂.trans he₁)

/-- What a tick that observes comes to, from the daemon that has begun it. -/
structure Observed (d d' : Daemon) (at' t t' : Nanos) (view : TickView) (log : PollLog) : Prop where
  began : view.at' = at' ∧ log.at' = at'
  before : Moves .observe d log.consulted
  sees : log.consulted.Sees view.liveness
  polled : ∃ t₁, Polled log.consulted log.answer log.folded t₁ ∧ t ≤ t₁ ∧ t₁ ≤ t'
  after : ∃ now, d'.latches = (log.folded.noteObservationGap log.folded.active now).latches
  active : view.active = log.consulted.active
  viewed : Viewed view.readings d'

omit [SerdeJson] [Sha256] in
theorem Observed.moves {at' t t' : Nanos} {view : TickView} {log : PollLog}
    (h : Observed d d' at' t t' view log) : Moves .observe log.folded d' := by
  obtain ⟨now, hd⟩ := h.after
  exact .trans (moves_noteObservationGap _ now rfl) (moves_of_latches hd)

theorem exec_observeLogged {at' : Nanos} {canonical : Option Credential} {absent : Bool}
    {view : TickView} {log : PollLog} (he : Exec ((surroundings pid).under Elapses)
      ((observeLogged at' d.active canonical absent).run d) w ((view, log), d') w') :
    Observed d d' at' w.clock w'.clock view log := by
  unfold observeLogged at he
  obtain ⟨⟨active, liveness⟩, p, w₁, hactive, he₁⟩ := exec_state_bind.mp he
  obtain ⟨⟨hp, hsees⟩, hmoves⟩ := (returns_observeActive canonical absent).exec hactive
  dsimp only at he₁ hp hsees hmoves
  subst hp
  rw [exec_get_bind] at he₁
  obtain ⟨answer, q, w₂, hpoll, he₂⟩ := exec_state_bind.mp he₁
  rw [exec_get_bind] at he₂
  obtain ⟨view', q', w₃, hview, he₃⟩ := exec_state_bind.mp he₂
  obtain ⟨hx, hw⟩ := exec_pure_iff.mp he₃
  cases hx
  cases hw
  have hpolled := exec_pollNextLogged hpoll
  have hq : q.active = p.active := hpolled.keeps.1
  obtain ⟨hviewed, ⟨hat, hactive', hliveness⟩, hrest⟩ :=
    (returns_observePolled at' p.active canonical liveness hq).exec hview
  have hle : w.clock ≤ w₂.clock := le_trans (exec_elapses hactive) (exec_elapses hpoll)
  rw [← hliveness] at hsees
  exact ⟨⟨hat, rfl⟩, hmoves, hsees, ⟨w₂.clock, hpolled, hle, exec_elapses hview⟩, hrest, hactive',
    hviewed⟩

end Observation

/-! ## The turn -/

section Logged

variable [SerdeJson] [Sha256]

/-- A turn, and the poll of its tick. -/
inductive LoggedStep (D : Device Seams World) :
    Daemon × World → Turn × Option PollLog → Daemon × World → Prop
  | locked {d d₁ : Daemon} {w w₁ : World} :
      Exec D (observeTickLogged.run d) w (none, d₁) w₁ →
      LoggedStep D (d, w) (.tick d₁.events none, none) (d₁, w₁)
  | recovered {d d₁ d₂ : Daemon} {w w₁ w₂ : World} {view : TickView} {log : PollLog}
      {action : TickAction} :
      Exec D (observeTickLogged.run d) w (some (view, log), d₁) w₁ →
      Exec D ((recoverIfScrubbed view).run d₁) w₁ (some action, d₂) w₂ →
      LoggedStep D (d, w) (.tick (d₂.settle action).events none, some log) (d₂.settle action, w₂)
  | decided {d d₁ d₂ d₃ : Daemon} {w w₁ w₂ w₃ : World} {view : TickView} {log : PollLog}
      {action : TickAction} :
      Exec D (observeTickLogged.run d) w (some (view, log), d₁) w₁ →
      Exec D ((recoverIfScrubbed view).run d₁) w₁ (none, d₂) w₂ →
      Exec D ((decideAction view.at' view.active view.readings).run d₂) w₂ (action, d₃) w₃ →
      LoggedStep D (d, w) (.tick (d₃.settle action).events (some ⟨d₂, view, action⟩), some log)
        (d₃.settle action, w₃)
  | between {s s' : Daemon × World} : DaemonStep D s .between s' →
      LoggedStep D s (.between, none) s'

variable {D : Device Seams World} {s s' : Daemon × World} {d d' : Daemon} {w w' : World}

theorem exec_observeTick_iff {x : Option TickView} :
    Exec D (observeTick.run d) w (x, d') w' ↔
      ∃ y, x = y.map Prod.fst ∧ Exec D (observeTickLogged.run d) w (y, d') w' := by
  rw [observeTick_eq, map_eq_pure_bind, exec_state_bind]
  constructor
  · rintro ⟨y, d₁, w₁, h, hpure⟩
    obtain ⟨hx, hw⟩ := exec_pure_iff.mp hpure
    cases hx
    cases hw
    exact ⟨y, rfl, h⟩
  · rintro ⟨y, rfl, h⟩
    exact ⟨y, d', w', h, exec_state_pure⟩

/-- Every turn is told with its poll in some way. -/
theorem daemonStep_iff_logged {l : Turn} :
    DaemonStep D s l s' ↔ ∃ log, LoggedStep D s (l, log) s' := by
  constructor
  · intro h
    cases h with
    | locked hobserve =>
      obtain ⟨y, hy, hlogged⟩ := exec_observeTick_iff.mp hobserve
      cases y with
      | some y => cases hy
      | none => exact ⟨none, .locked hlogged⟩
    | recovered hobserve hrecover =>
      obtain ⟨y, hy, hlogged⟩ := exec_observeTick_iff.mp hobserve
      cases y with
      | none => cases hy
      | some y =>
        cases hy
        exact ⟨some y.2, .recovered hlogged hrecover⟩
    | decided hobserve hrecover hdecide =>
      obtain ⟨y, hy, hlogged⟩ := exec_observeTick_iff.mp hobserve
      cases y with
      | none => cases hy
      | some y =>
        cases hy
        exact ⟨some y.2, .decided hlogged hrecover hdecide⟩
    | manualSwapped h => exact ⟨none, .between (.manualSwapped h)⟩
    | swapRequested h => exact ⟨none, .between (.swapRequested h)⟩
    | reprobed h => exact ⟨none, .between (.reprobed h)⟩
    | restored h => exact ⟨none, .between (.restored h)⟩
    | swept restored observations => exact ⟨none, .between (.swept restored observations)⟩
    | reloaded newRoster intent => exact ⟨none, .between (.reloaded newRoster intent)⟩
  · rintro ⟨log, h⟩
    cases h with
    | locked hlogged => exact .locked (exec_observeTick_iff.mpr ⟨none, rfl, hlogged⟩)
    | recovered hlogged hrecover =>
      exact .recovered (exec_observeTick_iff.mpr ⟨some _, rfl, hlogged⟩) hrecover
    | decided hlogged hrecover hdecide =>
      exact .decided (exec_observeTick_iff.mpr ⟨some _, rfl, hlogged⟩) hrecover hdecide
    | between h => exact h

end Logged

/-- What else there is to say of a tick that observes: how it found the canonical item, that it noted
the gaps of all accounts once it had polled, and that a terminal action leaves its episode open. -/
structure Told (log : PollLog) (x : Option Decision) (action : TickAction) (r r' d' : Daemon) :
    Prop where
  found : ∃ state, log.consulted.Sees state ∧
    (∀ y, x = some y → y.view.liveness = state ∧ y.action = action) ∧
    (x = none → state = .scrubbed ∧ ¬ action.Terminal) ∧ (state ≠ .scrubbed → r' = r)
  noted : ∃ now, r.latches = (log.folded.noteObservationGap log.folded.active now).latches
  signaled : Signals (action, d')

/-- What a turn comes to: between ticks moves or a new roster, under a locked keychain nothing, and
otherwise an observation with its poll, then a recovery, a decision, and what that settles. -/
inductive Course (d : Daemon) (t : Nanos) : Turn → Option PollLog → Daemon → Nanos → Prop
  | between {d' : Daemon} {t' : Nanos} : Moves .command d d' → t ≤ t' →
      Course d t .between none d' t'
  | reloaded (newRoster : List Account) (intent : ReloadIntent) :
      Course d t .between none (d.reconcileRoster newRoster intent) t
  | locked {d' : Daemon} {t' : Nanos} : d'.latches = d.beginTick.latches → t ≤ t' →
      Course d t (.tick d'.events none) none d' t'
  | observed {r r' d' : Daemon} {t₁ t' : Nanos} (log : PollLog) (x : Option Decision)
      (action : TickAction) : t ≤ log.at' → log.at' ≤ t₁ →
      Moves .observe d.beginTick log.consulted →
      Polled log.consulted log.answer log.folded t₁ → t₁ ≤ t' → Moves .observe log.folded r →
      Recovered log.at' r r' → Moves .decide r' d' →
      Told log x action r r' d' →
      Course d t (.tick (d'.settle action).events x) (some log) (d'.settle action) t'

section Turn

variable [SerdeJson] [Sha256] {pid : ℕ} {d d' : Daemon} {w w' : World}

theorem exec_observeReadLogged {at' : Nanos} {read : Except Error Credential}
    {x : Option (TickView × PollLog)} (he : Exec ((surroundings pid).under Elapses)
      ((observeReadLogged at' d.active read).run d) w (x, d') w') :
    (x = none ∧ d'.latches = d.latches) ∨
      ∃ view log, x = some (view, log) ∧ Observed d d' at' w.clock w'.clock view log := by
  have hobserved : ∀ canonical absent, Exec ((surroundings pid).under Elapses)
      ((some <$> observeLogged at' d.active canonical absent).run d) w (x, d') w' →
      ∃ view log, x = some (view, log) ∧ Observed d d' at' w.clock w'.clock view log := by
    intro canonical absent h
    rw [map_eq_pure_bind] at h
    obtain ⟨⟨view, log⟩, d₁, w₁, hobserve, hpure⟩ := exec_state_bind.mp h
    obtain ⟨hx, hw⟩ := exec_pure_iff.mp hpure
    cases hx
    cases hw
    exact ⟨view, log, rfl, exec_observeLogged hobserve⟩
  unfold observeReadLogged at he
  split at he
  · rw [exec_modify_bind] at he
    obtain ⟨hx, -⟩ := exec_pure_iff.mp he
    cases hx
    exact .inl ⟨rfl, d.lockedTick_latches⟩
  · exact .inr (hobserved _ _ he)
  · exact .inr (hobserved _ _ he)
  · exact .inr (hobserved _ _ he)

theorem exec_observeTickLogged {x : Option (TickView × PollLog)}
    (he : Exec ((surroundings pid).under Elapses) (observeTickLogged.run d) w (x, d') w') :
    (x = none ∧ d'.latches = d.beginTick.latches) ∨
      ∃ view log at' t, x = some (view, log) ∧ w.clock ≤ at' ∧ at' ≤ t ∧
        Observed d.beginTick d' at' t w'.clock view log := by
  unfold observeTickLogged at he
  rw [exec_modify_bind] at he
  obtain ⟨at', d₁, w₁, hnow, he₁⟩ := exec_state_bind.mp he
  obtain ⟨hd₁, hbegan, hread⟩ := exec_clockNow hnow
  rw [hd₁, exec_get_bind] at he₁
  obtain ⟨read, d₂, w₂, hcanonical, he₂⟩ := exec_state_bind.mp he₁
  obtain ⟨-, hd₂⟩ := exec_state_lift_iff.mp hcanonical
  dsimp only at hd₂
  have hle : at' ≤ w₂.clock := hread ▸ exec_elapses hcanonical
  rw [hd₂] at he₂
  rcases exec_observeReadLogged (d := d.beginTick) he₂ with ⟨hx, hd'⟩ | ⟨view, log, hx, hobserved⟩
  · exact .inl ⟨hx, hd'⟩
  · exact .inr ⟨view, log, at', w₂.clock, hx, hbegan, hle, hobserved⟩

omit [SerdeJson] [Sha256] in
/-- Only a new roster moves a reading. -/
theorem Move.lastReading {k : Phase} (h : Move k d d') (hk : k ≠ .reload) (i : ℕ) :
    (d'.accounts i).lastReading = (d.accounts i).lastReading :=
  h.kept hk Slot.lastReading (fun _ _ => rfl) i

omit [SerdeJson] [Sha256] in
theorem Viewed.of_moves {k : Phase} {readings : ℕ → Option Usage} (hv : Viewed readings d)
    (h : Moves k d d') (hk : k ≠ .reload) : Viewed readings d' := by
  induction h with
  | refl => exact hv
  | tail _ hmove ih =>
    intro i u hu
    rw [hmove.lastReading hk]
    exact ih i u hu

/-- Every turn takes its course. -/
theorem course_of_logged {l : Turn} {log : Option PollLog}
    (hs : LoggedStep ((surroundings pid).under Elapses) (d, w) (l, log) (d', w')) :
    Course d w.clock l log d' w'.clock := by
  cases hs with
  | locked hobserve =>
    rcases exec_observeTickLogged hobserve with ⟨-, hd⟩ | ⟨view, log, at', t, hx, -⟩
    · exact .locked hd (exec_elapses hobserve)
    · cases hx
  | @recovered _ d₁ d₂ _ w₁ w₂ view log action hobserve hrecover =>
    rcases exec_observeTickLogged hobserve with ⟨hx, -⟩ | ⟨view', log', at', t, hx, hbegan, hat, ho⟩
    · cases hx
    · cases hx
      obtain ⟨t₁, hpolled, ht, ht'⟩ := ho.polled
      have hrecovered := (returns_recoverIfScrubbed ho.viewed).exec hrecover
      have hle := le_trans ht' (exec_elapses hrecover)
      rw [ho.began.1, ← ho.began.2] at hrecovered
      rw [← ho.began.2] at hbegan hat
      have hscrubbed : view.liveness = .scrubbed := by
        by_contra hne
        have hnone := ((returns_recoverIfScrubbed_of_ne hne).exec hrecover).1
        cases hnone
      have hterminal : ¬ action.Terminal :=
        (unterminal_recoverIfScrubbed view d₁).exec hrecover action rfl
      refine .observed log none action hbegan (le_trans hat ht) ho.before hpolled hle ho.moves
        hrecovered .refl ⟨⟨_, ho.sees, ?_, ?_, ?_⟩, ho.after, signals_of_not hterminal⟩
      · intro y hy
        cases hy
      · exact fun _ => ⟨hscrubbed, hterminal⟩
      · exact fun hne => absurd hscrubbed hne
  | @decided _ d₁ d₂ d₃ _ w₁ w₂ w₃ view log action hobserve hrecover hdecide =>
    rcases exec_observeTickLogged hobserve with ⟨hx, -⟩ | ⟨view', log', at', t, hx, hbegan, hat, ho⟩
    · cases hx
    · cases hx
      obtain ⟨t₁, hpolled, ht, ht'⟩ := ho.polled
      have hrecovered := (returns_recoverIfScrubbed ho.viewed).exec hrecover
      have hviewed := ho.viewed.of_moves hrecovered.moves (by intro h; cases h)
      have hdecided := (makes_decideAction hviewed view.active).exec hdecide
      have hle := le_trans ht' (le_trans (exec_elapses hrecover) (exec_elapses hdecide))
      rw [ho.began.1, ← ho.began.2] at hrecovered
      rw [← ho.began.2] at hbegan hat
      have hsignaled := (signals_decideAction view.active).exec hdecide
      refine .observed log (some ⟨d₂, view, action⟩) action hbegan (le_trans hat ht) ho.before
        hpolled hle ho.moves hrecovered hdecided ⟨⟨_, ho.sees, ?_, ?_, ?_⟩, ho.after, hsignaled⟩
      · rintro y ⟨⟩
        exact ⟨rfl, rfl⟩
      · intro hx
        cases hx
      · exact fun hne => ((returns_recoverIfScrubbed_of_ne hne).exec hrecover).2
  | between h =>
    cases h with
    | manualSwapped he => exact .between (makes_adoptManualSwap.exec he) (exec_elapses he)
    | swapRequested he => exact .between ((makes_performSocketSwap _ _).exec he) (exec_elapses he)
    | reprobed he =>
      exact .between (moves_of_latches (idles_reprobeActiveIfDead.exec he)) (exec_elapses he)
    | restored he =>
      exact .between (moves_of_latches ((idles_reconcileRestored _).exec he)) (exec_elapses he)
    | swept restored observations =>
      have hrestored := Daemon.foldl_latches
        (f := Daemon.applyRefreshRestore) (fun d a => d.applyRefreshRestore_latches a) restored d
      have hobserved := Daemon.foldl_latches (f := Daemon.applyRefreshObservation)
        (fun d a => d.applyRefreshObservation_latches a) observations
        (restored.foldl Daemon.applyRefreshRestore d)
      exact .between (moves_of_latches (hobserved.trans hrestored)) (le_refl _)
    | reloaded newRoster intent => exact .reloaded newRoster intent

theorem course_of_step {l : Turn}
    (hs : DaemonStep ((surroundings pid).under Elapses) (d, w) l (d', w')) :
    ∃ log, Course d w.clock l log d' w'.clock := by
  obtain ⟨log, hlogged⟩ := daemonStep_iff_logged.mp hs
  exact ⟨log, course_of_logged hlogged⟩

end Turn

end Sessiometer
