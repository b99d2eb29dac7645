import Sessiometer.Daemon.Frame
import Sessiometer.Daemon.GateRules

namespace Sessiometer

open Effects

/-- The operations that leave the canonical item, the lock and all but a refreshed stash alone. -/
def Op.isObservation : Op → Bool
  | .refresh _ => true
  | o => o.isQuiet

theorem Op.isObservation_of_isQuiet {o : Op} (h : o.isQuiet = true) : o.isObservation = true := by
  cases o <;> first | rfl | exact h

theorem Op.isObservation_cases {o : Op} (h : o.isObservation = true) :
    o.isQuiet = true ∨ ∃ account, o = .refresh account := by
  cases o with
  | refresh account => exact .inr ⟨account, rfl⟩
  | _ => exact .inl h

/-- The method only observes: it writes none of the frame and none of the stores. -/
structure Observes {α : Type} (m : DaemonM α) : Prop where
  keeps : Keeps (fun d d' => d'.frame = d.frame) m
  only : ∀ d, Only (Op.isObservation · = true) (m.run d)

/-- The method leaves the walk record as it is. -/
def KeepsWalk {α : Type} (m : DaemonM α) : Prop :=
  Keeps (fun d d' => d'.retryAfterSwaps = d.retryAfterSwaps) m

section Rules

variable {α β : Type}

theorem Observes.bind {m : DaemonM α} {f : α → DaemonM β} (hm : Observes m)
    (hf : ∀ a, Observes (f a)) : Observes (m >>= f) where
  keeps := keeps_bind (fun h h' => h'.trans h) hm.keeps (fun a => (hf a).keeps)
  only := only_state_bind hm.only (fun a => (hf a).only)

theorem KeepsWalk.bind {m : DaemonM α} {f : α → DaemonM β} (hm : KeepsWalk m)
    (hf : ∀ a, KeepsWalk (f a)) : KeepsWalk (m >>= f) :=
  keeps_bind (fun h h' => h'.trans h) hm hf

theorem keepsWalk_of_frame {m : DaemonM α} (h : Keeps (fun d d' => d'.frame = d.frame) m) :
    KeepsWalk m :=
  Keeps.mono h (fun _ _ hf => retryAfterSwaps_of_frame hf)

theorem Observes.walk {m : DaemonM α} (h : Observes m) : KeepsWalk m := keepsWalk_of_frame h.keeps

theorem observes_get : Observes (get : DaemonM Daemon) where
  keeps := keeps_get (R := fun d d' : Daemon => d'.frame = d.frame) (fun _ => rfl)
  only := only_get

theorem observes_pure (a : α) : Observes (pure a : DaemonM α) where
  keeps := keeps_pure (R := fun d d' : Daemon => d'.frame = d.frame) (fun _ => rfl) a
  only := only_state_pure

theorem observes_modify {f : Daemon → Daemon} (h : ∀ d, (f d).frame = d.frame) :
    Observes (modify f : DaemonM PUnit) where
  keeps := keeps_modify h
  only := only_modify

theorem observes_modify_bind {f : Daemon → Daemon} {g : PUnit → DaemonM β}
    (h : ∀ d, (f d).frame = d.frame) (hg : ∀ a, Observes (g a)) : Observes (modify f >>= g) :=
  (observes_modify h).bind hg

theorem keepsWalk_modify {f : Daemon → Daemon}
    (h : ∀ d, (f d).retryAfterSwaps = d.retryAfterSwaps) :
    KeepsWalk (modify f : DaemonM PUnit) := keeps_modify h

theorem keepsFrame_lift (p : Seam α) :
    Keeps (fun d d' => d'.frame = d.frame) (StateT.lift p : DaemonM α) :=
  keeps_lift (R := fun d d' : Daemon => d'.frame = d.frame) (fun _ => rfl) p

theorem observes_lift {p : Seam α} (hp : Only (Op.isObservation · = true) p) :
    Observes (StateT.lift p : DaemonM α) where
  keeps := keepsFrame_lift p
  only := only_state_lift hp

theorem observes_quiet {p : Seam α} (hp : Only (Op.isQuiet · = true) p) :
    Observes (StateT.lift p : DaemonM α) :=
  observes_lift (hp.mono (fun _ => Op.isObservation_of_isQuiet))

theorem observes_attempt {p : Attempt α} (hp : Only (Op.isQuiet · = true) p.run) :
    Observes (attempt p) := observes_quiet hp

theorem observes_emit {e : Event} (h : e.isExternalChange = false) : Observes (emit e) :=
  observes_modify (fun d => d.emit_frame h)

theorem observes_map {m : DaemonM α} {f : α → β} (hm : Observes m) : Observes (f <$> m) := by
  rw [map_eq_pure_bind]
  exact hm.bind (fun a => observes_pure (f a))

theorem keepsWalk_map {m : DaemonM α} {f : α → β} (hm : KeepsWalk m) : KeepsWalk (f <$> m) := by
  rw [map_eq_pure_bind]
  exact hm.bind (fun a => (observes_pure (f a)).walk)

end Rules

/-! ## Clock and draws -/

theorem observes_clockNow : Observes clockNow := observes_quiet (only_call rfl)

theorem observes_wallClockNowMs : Observes wallClockNowMs := observes_quiet (only_call rfl)

theorem observes_wallClockNowSecs : Observes wallClockNowSecs := by
  unfold wallClockNowSecs
  exact observes_wallClockNowMs.bind (fun ms => observes_pure _)

theorem observes_draw (s : Strategy) (lo hi : ℚ) : Observes (s.draw lo hi) := by
  unfold Strategy.draw
  cases s.jitter with
  | none => exact observes_pure _
  | uniform spread => exact (observes_quiet (only_call rfl)).bind (fun u => observes_pure _)
  | normal stddev => exact (observes_quiet (only_call rfl)).bind (fun z => observes_pure _)

theorem observes_drawDownward (s : Strategy) (lo hi : ℚ) : Observes (s.drawDownward lo hi) := by
  unfold Strategy.drawDownward
  cases s.jitter with
  | none => exact observes_pure _
  | uniform spread => exact (observes_quiet (only_call rfl)).bind (fun u => observes_pure _)
  | normal stddev => exact (observes_quiet (only_call rfl)).bind (fun z => observes_pure _)

theorem observes_drawCooldown : Observes drawCooldown := by
  unfold drawCooldown
  exact observes_get.bind (fun d => (observes_draw _ _ _).bind (fun u => observes_pure _))

theorem observes_nextPollInterval : Observes nextPollInterval := by
  unfold nextPollInterval
  exact observes_get.bind (fun d => (observes_draw _ _ _).bind (fun u => observes_pure _))

/-! ## The gate -/

theorem observes_accountBackingOff (i : ℕ) : Observes (accountBackingOff i) := by
  unfold accountBackingOff
  apply observes_get.bind
  intro d
  split
  · exact observes_clockNow.bind (fun now => observes_pure _)
  · exact observes_pure _

theorem observes_exhaustedSlowPolling (i : ℕ) (active : Option ℕ) :
    Observes (exhaustedSlowPolling i active) := by
  unfold exhaustedSlowPolling
  apply observes_get.bind
  intro d
  split
  · exact observes_pure _
  · split
    · exact observes_clockNow.bind (fun now => observes_pure _)
    · exact observes_pure _

theorem observes_probeGate (i : ℕ) (force : Bool) : Observes (probeGate i force) := by
  unfold probeGate
  apply observes_get.bind
  intro d
  split
  · exact observes_pure _
  · split
    · exact observes_pure _
    · split
      · exact observes_pure _
      · exact (observes_accountBackingOff i).bind (fun b => observes_pure _)

theorem observes_outgoingLiveness (outgoing : String) (force : Bool) :
    Observes (outgoingLiveness outgoing force) := by
  unfold outgoingLiveness
  apply observes_get.bind
  intro d
  split
  · exact (observes_probeGate _ force).bind (fun gate => observes_quiet (quiet_probeLiveness _ gate))
  · exact observes_pure _

section Swaps

variable [SerdeJson]

theorem observes_refreshCanary : Observes refreshCanary := by
  unfold refreshCanary
  apply observes_get.bind
  intro d
  apply (observes_attempt (quiet_canaryRun d.roster)).bind
  intro r
  cases r with
  | error e => exact observes_pure _
  | ok outcome =>
    exact (observes_modify (fun d => d.noteCanary_frame outcome)).bind (fun _ => observes_pure _)

theorem observes_swapGate (outgoing : String) (force : Bool) :
    Observes (swapGate outgoing force) := by
  unfold swapGate
  apply observes_refreshCanary.bind
  intro r
  cases r with
  | error e => exact observes_pure _
  | ok outcome =>
    apply (observes_modify (fun d => d.emitIf_frame _ rfl)).bind
    intro _
    apply observes_get.bind
    intro d
    dsimp only
    split
    · exact observes_pure _
    · apply (observes_outgoingLiveness outgoing force).bind
      intro liveness
      exact (observes_modify (fun d => d.emitIf_frame _ rfl)).bind (fun _ => observes_pure _)

theorem keepsFrame_lockedSwap (outgoing incoming : String) (force : Bool) :
    Keeps (fun d d' => d'.frame = d.frame) (lockedSwap outgoing incoming force) := by
  unfold lockedSwap
  apply keeps_bind (fun h h' => h'.trans h) (observes_swapGate outgoing force).keeps
  intro r
  cases r with
  | error e => exact (observes_pure _).keeps
  | ok u => exact keepsFrame_lift _

end Swaps

theorem keepsFrame_lockedAdopt (incoming : String) :
    Keeps (fun d d' => d'.frame = d.frame) (lockedAdopt incoming) :=
  keepsFrame_lift _

theorem keepsWalk_recordSwap (target : ℕ) (incoming : String) (at' : Nanos) :
    KeepsWalk (recordSwap target incoming at') := by
  unfold recordSwap
  apply (keepsWalk_modify (f := (·.swapRecorded target at')) (fun d => rfl)).bind
  intro _
  apply (observes_attempt (quiet_stashRead incoming)).walk.bind
  intro r
  cases r with
  | error e => exact (observes_pure _).walk
  | ok stashed => exact keepsWalk_modify (fun d => rfl)

/-! ## Observing -/

theorem observes_resolveAccountFor (canonical : Credential) :
    Observes (resolveAccountFor canonical) := by
  unfold resolveAccountFor
  exact observes_get.bind (fun d => observes_quiet (quiet_resolveAccountFor d.roster canonical))

theorem observes_resolveActive : Observes resolveActive := by
  unfold resolveActive
  apply observes_get.bind
  intro d
  apply (observes_attempt quiet_canonicalRead).bind
  intro r
  cases r with
  | ok canonical => exact observes_resolveAccountFor canonical
  | error e => exact observes_quiet (quiet_resolveViaDisplay d.roster)

theorem observes_poll (account : Account) (active : Bool) : Observes (poll account active) := by
  unfold poll
  exact (observes_quiet (only_call rfl)).bind (fun polled => observes_pure _)

theorem observes_refreshRetry (i : ℕ) : Observes (refreshRetry i) := by
  unfold refreshRetry
  apply observes_get.bind
  intro d
  apply (observes_lift (only_call rfl) : Observes (refresh (d.account i))).bind
  intro refreshed
  apply (observes_emit rfl).bind
  intro _
  cases refreshed with
  | error e => exact observes_pure _
  | ok report =>
    dsimp only
    split
    · exact observes_pure _
    · exact observes_poll _ false

theorem observes_noteActiveDesignation (active : Option ℕ) :
    Observes (noteActiveDesignation active) := by
  unfold noteActiveDesignation
  cases active with
  | none => exact observes_pure _
  | some i =>
    apply observes_get.bind
    intro d
    split
    · exact observes_pure _
    · exact observes_clockNow.bind (fun now => observes_modify (fun d => rfl))

theorem observes_noteAccountBackoff (i : ℕ) (isActive : Bool) (result : Except Error Usage) :
    Observes (noteAccountBackoff i isActive result) := by
  unfold noteAccountBackoff
  split
  · exact observes_modify (fun d => d.clearBackoff_frame i)
  · apply (observes_modify (fun d => d.setHealth_frame i _)).bind
    intro _
    apply observes_get.bind
    intro d
    apply observes_nextPollInterval.bind
    intro interval
    apply observes_clockNow.bind
    intro now
    apply (observes_modify (fun d => d.setHealth_frame i _)).bind
    intro _
    exact observes_emit rfl

theorem quiet_storedCredentialClocks [SerdeJson] (service : String) :
    Only (Op.isQuiet · = true) (storedCredentialClocks service) := by
  unfold storedCredentialClocks
  apply only_bind (quiet_stashRead service)
  intro r
  cases r with
  | ok stashed => trivial
  | error e => trivial

theorem observes_readPollClocks [SerdeJson] (account : Account) (active : Bool) :
    Observes (readPollClocks account active) := by
  unfold readPollClocks
  cases CredentialReadSource.forPoll active with
  | canonical =>
    apply (observes_attempt quiet_canonicalRead).bind
    intro r
    cases r with
    | ok c => exact observes_pure _
    | error e => exact observes_pure _
  | stash => exact (observes_quiet (quiet_storedCredentialClocks _)).bind (fun ms => observes_pure _)

theorem observes_reserveBreaker (i : ℕ) (speculative : Option Nanos) (reason : NextSwapReason)
    (blindElapsed : ℕ) : Observes (reserveBreaker i speculative reason blindElapsed) := by
  unfold reserveBreaker
  cases speculative with
  | none => exact observes_pure _
  | some ra =>
    dsimp only
    split
    · apply observes_get.bind
      intro d
      split
      · apply (observes_emit rfl).bind
        intro _
        exact observes_modify_bind (fun _ => rfl) (fun _ => observes_pure true)
      · exact (observes_pure PUnit.unit).bind (fun _ => observes_pure true)
    · exact observes_pure _

end Sessiometer
