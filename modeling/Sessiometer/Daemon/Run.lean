import Sessiometer.Effects.Runs
import Sessiometer.Daemon.Commands

/-! # Runs of the daemon

The loop: a tick, then what it waits for. `DaemonStep D` is one turn of it on the device `D`. -/

namespace Sessiometer

open Effects

/-- A decision: the state it was taken from, what had been observed, and what was done. -/
structure Decision where
  before : Daemon
  view : TickView
  action : TickAction

/-- One turn: a tick with its events and its decision, if it came to one, or something between
ticks. -/
inductive Turn where
  | tick (events : List Event) (decision : Option Decision)
  | between

def Turn.decision : Turn → Option Decision
  | .tick _ decision => decision
  | .between => none

def Turn.events : Turn → List Event
  | .tick events _ => events
  | .between => []

/-- What others may do to the world while the daemon runs: anything but turn the clock back. -/
def Elapses (w w' : World) : Prop := w.clock ≤ w'.clock

section Clock

variable {pid : ℕ} {w w' : World}

theorem surroundings_clock {o : Op} {r : o.Reply} (h : surroundings pid o w r w') :
    w.clock ≤ w'.clock := by
  have hwrites : ∀ (w₁ : World) {r : Except Error Unit}, w₁.clock = w.clock →
      Writes w w₁ r w' → w.clock ≤ w'.clock := by
    intro w₁ r hclock hw
    cases r with
    | ok u => rw [show w' = w₁ from hw, hclock]
    | error e =>
      rcases hw with rfl | rfl
      · exact le_refl _
      · exact hclock.ge
  cases o with
  | writeCanonical c => exact hwrites (w.setStores (w.stores.setCanonical c)) rfl h
  | addCredential service payload =>
    exact hwrites (w.setStores (w.stores.setCredential service payload)) rfl h
  | addOauthAccount service raw =>
    exact hwrites (w.setStores (w.stores.setOauthAccount service raw)) rfl h
  | writeClaudeJson root => exact hwrites (w.setClaudeJson root) rfl h
  | acquireSwapLock =>
    simp only [surroundings] at h
    split at h
    · rw [h.2]
    · rw [h]
  | releaseSwapLock => rw [show w' = _ from h]
  | now =>
    rw [h.2]
    exact h.1
  | readCanonical | findCredential | findOauthAccount | readClaudeJson | nextUnit => rw [h.1]
  | probeResolution | epochNow | nextNormal | poll | keepWarm => rw [show w' = w from h]
  | refresh account =>
    rcases h with rfl | ⟨payload, rfl⟩
    · exact le_refl _
    · exact le_refl w.clock

theorem exec_elapses {α : Type} {p : Seam α} {a : α}
    (h : Exec ((surroundings pid).under Elapses) p w a w') : Elapses w w' := by
  have hstep : ∀ o w r w', (surroundings pid).under Elapses o w r w' → Elapses w w' := by
    rintro o w r w' ⟨w₁, hr, hd⟩
    exact le_trans hr (surroundings_clock hd)
  exact exec_rel (fun w => le_refl w.clock) (fun h h' => le_trans h h') hstep h

/-- A clock reading lies between the instants before and after it. -/
theorem exec_clockNow {d d' : Daemon} {now : Nanos}
    (h : Exec ((surroundings pid).under Elapses) (clockNow.run d) w (now, d') w') :
    d' = d ∧ w.clock ≤ now ∧ now = w'.clock := by
  obtain ⟨r, w₁, ⟨w₂, hr, hd⟩, hk⟩ := exec_perform_iff.mp h
  obtain ⟨hnow, rfl⟩ := exec_pure_iff.mp hk
  cases hnow
  obtain ⟨hle, rfl⟩ := hd
  exact ⟨rfl, le_trans hr hle, rfl⟩

end Clock

variable [SerdeJson] [Sha256]

inductive DaemonStep (D : Device Seams World) : Daemon × World → Turn → Daemon × World → Prop
  | locked {d d₁ : Daemon} {w w₁ : World} : Exec D (observeTick.run d) w (none, d₁) w₁ →
      DaemonStep D (d, w) (.tick d₁.events none) (d₁, w₁)
  | recovered {d d₁ d₂ : Daemon} {w w₁ w₂ : World} {view : TickView} {action : TickAction} :
      Exec D (observeTick.run d) w (some view, d₁) w₁ →
      Exec D ((recoverIfScrubbed view).run d₁) w₁ (some action, d₂) w₂ →
      DaemonStep D (d, w) (.tick (d₂.settle action).events none) (d₂.settle action, w₂)
  | decided {d d₁ d₂ d₃ : Daemon} {w w₁ w₂ w₃ : World} {view : TickView} {action : TickAction} :
      Exec D (observeTick.run d) w (some view, d₁) w₁ →
      Exec D ((recoverIfScrubbed view).run d₁) w₁ (none, d₂) w₂ →
      Exec D ((decideAction view.at' view.active view.readings).run d₂) w₂ (action, d₃) w₃ →
      DaemonStep D (d, w) (.tick (d₃.settle action).events (some ⟨d₂, view, action⟩))
        (d₃.settle action, w₃)
  | manualSwapped {d d' : Daemon} {w w' : World} : Exec D (adoptManualSwap.run d) w ((), d') w' →
      DaemonStep D (d, w) .between (d', w')
  | swapRequested {d d' : Daemon} {w w' : World} {query : String} {force : Bool} {ack : SwapAck} :
      Exec D ((performSocketSwap query force).run d) w (ack, d') w' →
      DaemonStep D (d, w) .between (d', w')
  | reprobed {d d' : Daemon} {w w' : World} : Exec D (reprobeActiveIfDead.run d) w ((), d') w' →
      DaemonStep D (d, w) .between (d', w')
  | restored {d d' : Daemon} {w w' : World} {accountUuid : String} :
      Exec D ((reconcileRestored accountUuid).run d) w ((), d') w' →
      DaemonStep D (d, w) .between (d', w')
  | swept {d : Daemon} {w : World} (restored : List String)
      (observations : List RefreshObservation) :
      DaemonStep D (d, w) .between
        (observations.foldl Daemon.applyRefreshObservation
          (restored.foldl Daemon.applyRefreshRestore d), w)
  | reloaded {d : Daemon} {w : World} (newRoster : List Account) (intent : ReloadIntent) :
      DaemonStep D (d, w) .between (d.reconcileRoster newRoster intent, w)

section Tick

variable {D : Device Seams World} {d d' : Daemon} {w w' : World} {action : TickAction}

omit [Sha256] in
theorem exec_decideTick_iff {view : TickView} :
    Exec D ((decideTick view).run d) w (action, d') w' ↔
      Exec D ((recoverIfScrubbed view).run d) w (some action, d') w' ∨
      ∃ d₁ w₁, Exec D ((recoverIfScrubbed view).run d) w (none, d₁) w₁ ∧
        Exec D ((decideAction view.at' view.active view.readings).run d₁) w₁ (action, d') w' := by
  unfold decideTick
  rw [exec_state_bind]
  constructor
  · rintro ⟨recovered, d₁, w₁, hrecover, h⟩
    cases recovered with
    | none => exact .inr ⟨d₁, w₁, hrecover, h⟩
    | some recovered =>
      obtain ⟨hr, hw⟩ := exec_pure_iff.mp h
      cases hr
      cases hw
      exact .inl hrecover
  · rintro (hrecover | ⟨d₁, w₁, hrecover, h⟩)
    · exact ⟨some action, d', w', hrecover, exec_state_pure⟩
    · exact ⟨none, d₁, w₁, hrecover, h⟩

theorem exec_tick_iff :
    Exec D (tick.run d) w (action, d') w' ↔
      (action = .keychainLocked ∧ Exec D (observeTick.run d) w (none, d') w') ∨
      ∃ view d₁ w₁ d₂, Exec D (observeTick.run d) w (some view, d₁) w₁ ∧
        Exec D ((decideTick view).run d₁) w₁ (action, d₂) w' ∧ d' = d₂.settle action := by
  unfold tick finishTick
  rw [exec_state_bind]
  constructor
  · rintro ⟨observed, d₁, w₁, hobserve, h⟩
    cases observed with
    | none =>
      obtain ⟨hr, hw⟩ := exec_pure_iff.mp h
      cases hr
      cases hw
      exact .inl ⟨rfl, hobserve⟩
    | some view =>
      obtain ⟨decided, d₂, w₂, hdecide, h⟩ := exec_state_bind.mp h
      obtain ⟨hr, hw⟩ := exec_pure_iff.mp h
      cases hr
      cases hw
      exact .inr ⟨view, d₁, w₁, d₂, hobserve, hdecide, rfl⟩
  · rintro (⟨rfl, hobserve⟩ | ⟨view, d₁, w₁, d₂, hobserve, hdecide, rfl⟩)
    · exact ⟨none, d', w', hobserve, exec_state_pure⟩
    · have hsettle : Exec D ((do modify (·.settle action); pure action : DaemonM TickAction).run d₂)
          w' (action, d₂.settle action) w' := exec_state_pure
      exact ⟨some view, d₁, w₁, hobserve, exec_state_bind.mpr ⟨action, d₂, w', hdecide, hsettle⟩⟩

/-- The turns that are ticks are the runs of `tick`. -/
theorem exists_tick_iff : (∃ action, Exec D (tick.run d) w (action, d') w') ↔
    ∃ events decision, DaemonStep D (d, w) (.tick events decision) (d', w') := by
  constructor
  · rintro ⟨action, h⟩
    rcases exec_tick_iff.mp h with ⟨rfl, hobserve⟩ | ⟨view, d₁, w₁, d₂, hobserve, hdecide, rfl⟩
    · exact ⟨_, _, .locked hobserve⟩
    · rcases exec_decideTick_iff.mp hdecide with hrecover | ⟨d₃, w₃, hrecover, hact⟩
      · exact ⟨_, _, .recovered hobserve hrecover⟩
      · exact ⟨_, _, .decided hobserve hrecover hact⟩
  · rintro ⟨events, decision, h⟩
    cases h with
    | locked hobserve => exact ⟨_, exec_tick_iff.mpr (.inl ⟨rfl, hobserve⟩)⟩
    | recovered hobserve hrecover =>
      have hdecide := exec_decideTick_iff.mpr (.inl hrecover)
      exact ⟨_, exec_tick_iff.mpr (.inr ⟨_, _, _, _, hobserve, hdecide, rfl⟩)⟩
    | decided hobserve hrecover hact =>
      have hdecide := exec_decideTick_iff.mpr (.inr ⟨_, _, hrecover, hact⟩)
      exact ⟨_, exec_tick_iff.mpr (.inr ⟨_, _, _, _, hobserve, hdecide, rfl⟩)⟩

end Tick

section At

variable {pid : ℕ} {d d' : Daemon} {w w' : World}

theorem yields_observe (at' : Nanos) (activeBefore : Option ℕ) (canonical : Option Credential)
    (absent : Bool) : Yields (·.at' = at') (observe at' activeBefore canonical absent) := by
  unfold observe observeReconciled
  repeat
    apply yields_bind
    intro _
  exact yields_pure rfl

theorem yields_observeRead (at' : Nanos) (activeBefore : Option ℕ) (r : Except Error Credential) :
    Yields (fun v => ∀ view, v = some view → view.at' = at') (observeRead at' activeBefore r) := by
  have hsome : ∀ canonical absent, Yields (fun v => ∀ view, v = some view → view.at' = at')
      (some <$> observe at' activeBefore canonical absent) := by
    intro canonical absent s
    rw [map_eq_pure_bind, returns_state_bind]
    apply (yields_observe at' activeBefore canonical absent s).mono
    rintro ⟨view, s'⟩ hview v hv
    cases hv
    exact hview
  unfold observeRead
  split
  · apply yields_bind
    intro _
    apply yields_pure
    intro view hv
    cases hv
  · exact hsome _ _
  · exact hsome _ _
  · exact hsome _ _

/-- The instant of a tick is read before anything it observes. -/
theorem exec_observeTick_at {view : TickView}
    (h : Exec ((surroundings pid).under Elapses) (observeTick.run d) w (some view, d') w') :
    w.clock ≤ view.at' ∧ view.at' ≤ w'.clock := by
  unfold observeTick at h
  obtain ⟨u, d₁, w₁, hbegin, h⟩ := exec_state_bind.mp h
  obtain ⟨hr, rfl⟩ := exec_pure_iff.mp hbegin
  cases hr
  obtain ⟨at', d₂, w₂, hnow, h⟩ := exec_state_bind.mp h
  obtain ⟨-, hle, rfl⟩ := exec_clockNow hnow
  obtain ⟨d₃, d₄, w₃, hget, h⟩ := exec_state_bind.mp h
  obtain ⟨-, rfl⟩ := exec_pure_iff.mp hget
  obtain ⟨r, d₅, w₄, hread, h⟩ := exec_state_bind.mp h
  have hat : view.at' = w₃.clock := (yields_observeRead _ _ r d₅).exec h view rfl
  rw [hat]
  exact ⟨hle, le_trans (exec_elapses hread) (exec_elapses h)⟩

end At

/-- Some run of the decision procedure has come to this decision. -/
def Decision.Taken (x : Decision) : Prop :=
  ∃ (D : Device Seams World) (d' : Daemon) (w w' : World),
    Exec D ((decideAction x.view.at' x.view.active x.view.readings).run x.before) w (x.action, d') w'

/-- The decisions of a run, in order. -/
def decisions (tr : List Turn) : List Decision := tr.filterMap Turn.decision

omit [SerdeJson] [Sha256] in
@[simp] theorem decisions_append (tr tr' : List Turn) :
    decisions (tr ++ tr') = decisions tr ++ decisions tr' :=
  List.filterMap_append

theorem decisions_taken {D : Device Seams World} {s s' : Daemon × World} {tr : List Turn}
    (hrun : Runs (DaemonStep D) s tr s') : ∀ x ∈ decisions tr, x.Taken := by
  have hturns : ∀ l ∈ tr, ∀ x, l.decision = some x → x.Taken := by
    apply hrun.labels (P := fun l => ∀ x, l.decision = some x → x.Taken)
    intro s l s' hs x hx
    cases hs with
    | decided _ _ hdecide =>
      cases hx
      exact ⟨D, _, _, _, hdecide⟩
    | _ => cases hx
  intro x hx
  obtain ⟨l, hl, hd⟩ := List.mem_filterMap.mp hx
  exact hturns l hl x hd

end Sessiometer
