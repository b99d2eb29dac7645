import Sessiometer.Effects.Runs
import Sessiometer.Daemon.Steady
import Sessiometer.Daemon.LockedSwap

/-! # The canonical watch over a run of ticks

A tick classifies the canonical credential it reads and commits it only once the change is handled.
Between ticks anyone may rewrite the world. -/

namespace Sessiometer

open Effects

/-- What the watch did in one tick: the credential that was read, the account it was resolved to if
it had changed, and the states around the reconciliation and at the end of the tick. -/
structure TickRecord where
  read : Option Credential
  resolved : Option ℕ
  before : Daemon
  world : World
  reconciled : Daemon
  stores : Stores
  after : Daemon

namespace TickRecord

variable (x : TickRecord)

/-- The external changes that the tick reports. -/
def reported : List Event := x.after.core.externalChanges

/-- The credential read differs from the baseline. -/
def Changed (c : Credential) : Prop :=
  x.read = some c ∧ x.before.canonicalWatch.classify c = .changed

/-- The reconciliation left the state as it was: nothing was read, or a re-stash failed. -/
def Held : Prop := x.reconciled = x.before

/-- After the reconciliation the daemon moved the baseline itself: it swapped, adopted or promoted. -/
def OwnCommit : Prop := x.after.canonicalWatch ≠ x.reconciled.canonicalWatch

end TickRecord

section Parts

variable {D : Device Seams World} {d d' : Daemon} {w w' : World}

theorem exec_attempt_state {α : Type} {p : Attempt α} {r : Except Error α}
    (h : Exec D ((attempt p).run d) w (r, d') w') : d' = d := by
  unfold attempt at h
  exact (keeps_lift (R := fun d d' : Daemon => d' = d) (fun _ => rfl) p.run).exec h

theorem exec_clockNow_state {now : Nanos} (h : Exec D (clockNow.run d) w (now, d') w') : d' = d :=
  (keeps_lift (R := fun d d' : Daemon => d' = d) (fun _ => rfl) _).exec h

theorem exec_resolveAccountFor_state {c : Credential} {resolved : Option ℕ}
    (h : Exec D ((resolveAccountFor c).run d) w (resolved, d') w') : d' = d := by
  unfold resolveAccountFor at h
  obtain ⟨d₁, d₂, w₁, hget, h⟩ := exec_state_bind.mp h
  obtain ⟨hr, rfl⟩ := exec_pure_iff.mp hget
  cases hr
  exact (keeps_lift (R := fun d d' : Daemon => d' = d) (fun _ => rfl) _).exec h

variable [SerdeJson]

/-- A change is resolved, then healed. -/
theorem exec_reconcile_changed_iff {c : Credential} (hclass : d.canonicalWatch.classify c = .changed) :
    Exec D ((reconcileCanonicalChange c).run d) w ((), d') w' ↔
      ∃ resolved w₁, Exec D ((resolveAccountFor c).run d) w (resolved, d) w₁ ∧
        Exec D ((healChange c resolved).run d) w₁ ((), d') w' := by
  unfold reconcileCanonicalChange
  rw [exec_state_bind]
  constructor
  · rintro ⟨d₁, d₂, w₁, hget, h⟩
    obtain ⟨hr, rfl⟩ := exec_pure_iff.mp hget
    cases hr
    rw [hclass] at h
    obtain ⟨resolved, d₃, w₂, hresolve, hheal⟩ := exec_state_bind.mp h
    cases exec_resolveAccountFor_state hresolve
    exact ⟨resolved, w₂, hresolve, hheal⟩
  · rintro ⟨resolved, w₁, hresolve, hheal⟩
    refine ⟨d, d, w, exec_get, ?_⟩
    rw [hclass]
    exact exec_state_bind.mpr ⟨resolved, d, w₁, hresolve, hheal⟩

variable [Sha256] {at' : Nanos} {active : Option ℕ} {c : Credential}

/-- What a tick that has read the canonical item observes. -/
theorem exec_observeRead_ok_iff {observed : Option TickView} :
    Exec D ((observeRead at' active (.ok c)).run d) w (observed, d') w' ↔
      ∃ view d₁ w₁, observed = some view ∧
        Exec D ((reconcileCanonicalChange c).run d.clearLockBackoff) w ((), d₁) w₁ ∧
        Exec D ((observeReconciled at' active (some c) false).run d₁) w₁ (view, d') w' := by
  have hread : observeRead at' active (.ok c) =
      (observe at' active (some c) false >>= fun view => pure (some view)) := by
    rw [← map_eq_pure_bind]
    rfl
  rw [hread, exec_state_bind]
  unfold observe
  constructor
  · rintro ⟨view, d₁, w₁, hobserve, h⟩
    obtain ⟨hr, rfl⟩ := exec_pure_iff.mp h
    cases hr
    obtain ⟨u, d₂, w₂, hclear, h⟩ := exec_state_bind.mp hobserve
    obtain ⟨hr, rfl⟩ := exec_pure_iff.mp hclear
    cases hr
    obtain ⟨u, d₃, w₃, hreconcile, h⟩ := exec_state_bind.mp h
    exact ⟨view, d₃, w₃, rfl, hreconcile, h⟩
  · rintro ⟨view, d₁, w₁, rfl, hreconcile, h⟩
    refine ⟨view, d', w', ?_, exec_state_pure⟩
    refine exec_state_bind.mpr ⟨⟨⟩, d.clearLockBackoff, w, exec_modify, ?_⟩
    exact exec_state_bind.mpr ⟨(), d₁, w₁, hreconcile, h⟩

/-- A tick reads the clock and the canonical item, observes, and finishes. -/
theorem exec_tick_parts_iff {action : TickAction} :
    Exec D (tick.run d) w (action, d') w' ↔ ∃ at' w₀ r w₁ observed d₁ w₂,
      Exec D (clockNow.run d.beginTick) w (at', d.beginTick) w₀ ∧
      Exec D ((attempt CredentialStore.read).run d.beginTick) w₀ (r, d.beginTick) w₁ ∧
      Exec D ((observeRead at' d.active r).run d.beginTick) w₁ (observed, d₁) w₂ ∧
      Exec D ((finishTick observed).run d₁) w₂ (action, d') w' := by
  rw [tick_eq, exec_state_bind]
  constructor
  · rintro ⟨u, d₁, w₁, hbegin, h⟩
    obtain ⟨hr, rfl⟩ := exec_pure_iff.mp hbegin
    cases hr
    obtain ⟨at', d₂, w₂, hnow, h⟩ := exec_state_bind.mp h
    cases exec_clockNow_state hnow
    obtain ⟨d₃, d₄, w₃, hget, h⟩ := exec_state_bind.mp h
    obtain ⟨hr, rfl⟩ := exec_pure_iff.mp hget
    cases hr
    obtain ⟨r, d₅, w₄, hread, h⟩ := exec_state_bind.mp h
    cases exec_attempt_state hread
    obtain ⟨observed, d₆, w₅, hobserve, h⟩ := exec_state_bind.mp h
    exact ⟨at', w₃, r, w₄, observed, d₆, w₅, hnow, hread, hobserve, h⟩
  · rintro ⟨at', w₀, r, w₁, observed, d₁, w₂, hnow, hread, hobserve, hfinish⟩
    refine ⟨⟨⟩, d.beginTick, w, exec_modify, ?_⟩
    refine exec_state_bind.mpr ⟨at', _, w₀, hnow, ?_⟩
    refine exec_state_bind.mpr ⟨d.beginTick, _, w₀, exec_get, ?_⟩
    refine exec_state_bind.mpr ⟨r, _, w₁, hread, ?_⟩
    exact exec_state_bind.mpr ⟨observed, d₁, w₂, hobserve, hfinish⟩

end Parts

section Step

variable [SerdeJson] [Sha256]

/-- The read of the canonical item with which a tick begins. -/
def BeginsWith (pid : ℕ) (d : Daemon) (w : World) (at' : Nanos) (r : Except Error Credential)
    (w₁ : World) : Prop :=
  ∃ w₀, Exec (surroundings pid) (clockNow.run d.beginTick) w (at', d.beginTick) w₀ ∧
    Exec (surroundings pid) ((attempt CredentialStore.read).run d.beginTick) w₀ (r, d.beginTick) w₁

/-- One tick, part by part. -/
inductive TickOf (pid : ℕ) (d : Daemon) (w : World) : TickRecord → World → Prop
  | unread {at' : Nanos} {e : Error} {observed : Option TickView} {action : TickAction}
      {d₁ d₂ : Daemon} {w₁ w₂ w₃ : World} : BeginsWith pid d w at' (.error e) w₁ →
      Exec (surroundings pid) ((observeRead at' d.active (.error e)).run d.beginTick) w₁
        (observed, d₁) w₂ →
      Exec (surroundings pid) ((finishTick observed).run d₁) w₂ (action, d₂) w₃ →
      TickOf pid d w ⟨none, none, d.beginTick, w₁, d.beginTick, w₁.stores, d₂⟩ w₃
  | settled {at' : Nanos} {c : Credential} {view : TickView} {action : TickAction}
      {d₁ d₂ d₃ : Daemon} {w₁ w₂ w₃ w₄ : World} : BeginsWith pid d w at' (.ok c) w₁ →
      d.canonicalWatch.classify c ≠ .changed →
      Exec (surroundings pid) ((reconcileCanonicalChange c).run d.beginTick.clearLockBackoff) w₁
        ((), d₁) w₂ →
      Exec (surroundings pid) ((observeReconciled at' d.active (some c) false).run d₁) w₂
        (view, d₂) w₃ →
      Exec (surroundings pid) ((finishTick (some view)).run d₂) w₃ (action, d₃) w₄ →
      TickOf pid d w ⟨some c, none, d.beginTick.clearLockBackoff, w₁, d₁, w₂.stores, d₃⟩ w₄
  | changed {at' : Nanos} {c : Credential} {resolved : Option ℕ} {view : TickView}
      {action : TickAction} {d₁ d₂ d₃ : Daemon} {w₁ w₂ w₃ w₄ w₅ : World} :
      BeginsWith pid d w at' (.ok c) w₁ →
      d.canonicalWatch.classify c = .changed →
      Exec (surroundings pid) ((resolveAccountFor c).run d.beginTick.clearLockBackoff) w₁
        (resolved, d.beginTick.clearLockBackoff) w₂ →
      Exec (surroundings pid) ((healChange c resolved).run d.beginTick.clearLockBackoff) w₂
        ((), d₁) w₃ →
      Exec (surroundings pid) ((observeReconciled at' d.active (some c) false).run d₁) w₃
        (view, d₂) w₄ →
      Exec (surroundings pid) ((finishTick (some view)).run d₂) w₄ (action, d₃) w₅ →
      TickOf pid d w
        ⟨some c, resolved, d.beginTick.clearLockBackoff, w₂, d₁, w₃.stores, d₃⟩ w₅

variable {pid : ℕ} {d d' : Daemon} {w w' : World}

/-- The parts are those of a tick, and every tick has them. -/
theorem exists_tickOf_iff : (∃ action, Exec (surroundings pid) (tick.run d) w (action, d') w') ↔
    ∃ x, TickOf pid d w x w' ∧ x.after = d' := by
  constructor
  · rintro ⟨action, h⟩
    obtain ⟨at', w₀, r, w₁, observed, d₁, w₂, hnow, hread, hobserve, hfinish⟩ :=
      exec_tick_parts_iff.mp h
    have hbegins : BeginsWith pid d w at' r w₁ := ⟨w₀, hnow, hread⟩
    cases r with
    | error e => exact ⟨_, .unread hbegins hobserve hfinish, rfl⟩
    | ok c =>
      obtain ⟨view, d₂, w₃, rfl, hreconcile, hrest⟩ := exec_observeRead_ok_iff.mp hobserve
      by_cases hclass : d.canonicalWatch.classify c = .changed
      · have hclass' : d.beginTick.clearLockBackoff.canonicalWatch.classify c = .changed := hclass
        obtain ⟨resolved, w₄, hresolve, hheal⟩ := (exec_reconcile_changed_iff hclass').mp hreconcile
        exact ⟨_, .changed hbegins hclass hresolve hheal hrest hfinish, rfl⟩
      · exact ⟨_, .settled hbegins hclass hreconcile hrest hfinish, rfl⟩
  · rintro ⟨x, hx, rfl⟩
    cases hx with
    | unread hbegins hobserve hfinish =>
      obtain ⟨w₀, hnow, hread⟩ := hbegins
      exact ⟨_, exec_tick_parts_iff.mpr ⟨_, _, _, _, _, _, _, hnow, hread, hobserve, hfinish⟩⟩
    | settled hbegins _ hreconcile hrest hfinish =>
      obtain ⟨w₀, hnow, hread⟩ := hbegins
      have hobserve := exec_observeRead_ok_iff.mpr ⟨_, _, _, rfl, hreconcile, hrest⟩
      exact ⟨_, exec_tick_parts_iff.mpr ⟨_, _, _, _, _, _, _, hnow, hread, hobserve, hfinish⟩⟩
    | @changed _ c _ _ _ _ _ _ _ _ _ _ _ hbegins hclass hresolve hheal hrest hfinish =>
      obtain ⟨w₀, hnow, hread⟩ := hbegins
      have hclass' : d.beginTick.clearLockBackoff.canonicalWatch.classify c = .changed := hclass
      have hreconcile := (exec_reconcile_changed_iff hclass').mpr ⟨_, _, hresolve, hheal⟩
      have hobserve := exec_observeRead_ok_iff.mpr ⟨_, _, _, rfl, hreconcile, hrest⟩
      exact ⟨_, exec_tick_parts_iff.mpr ⟨_, _, _, _, _, _, _, hnow, hread, hobserve, hfinish⟩⟩

/-- Ticks, and between them whatever others do to the world. -/
inductive WatchStep (pid : ℕ) : Daemon × World → Option TickRecord → Daemon × World → Prop
  | outside (d : Daemon) (w w' : World) : WatchStep pid (d, w) none (d, w')
  | tick {d : Daemon} {w w' : World} {x : TickRecord} : TickOf pid d w x w' →
      WatchStep pid (d, w) (some x) (x.after, w')

/-! ## What one tick does -/

/-- What each tick does with the watch. -/
structure Watched (d : Daemon) (x : TickRecord) : Prop where
  watch : x.before.canonicalWatch = d.canonicalWatch
  reported : x.reported = x.reconciled.core.externalChanges
  unreported : (∀ c, ¬ x.Changed c) → x.reported = []
  healed : ∀ c, x.Changed c → ∀ i, x.resolved = some i →
    (∃ nowSecs oauth, x.reconciled = x.before.restashed i c nowSecs ∧
      x.reported = [.reStash (x.before.account i).label] ∧
      x.stores.stash (x.before.account i).stash = .ok ⟨c, oauth⟩) ∨
    (x.reconciled = x.before ∧ x.reported = [] ∧
      RestashAfter x.world (x.before.account i) c false x.stores)
  surfaced : ∀ c, x.Changed c → x.resolved = none → ∃ accountUuid,
    x.reconciled = x.before.uncaptured accountUuid c ∧ x.reported = [.uncapturedLogin accountUuid] ∧
      x.stores = x.world.stores

/-- After the reconciliation no external change is reported. -/
theorem externalChanges_rest {c : Option Credential} {absent : Bool} {at' : Nanos}
    {active : Option ℕ} {view : TickView} {action : TickAction} {d₁ d₂ d₃ : Daemon}
    {w₁ w₂ w₃ : World}
    (hrest : Exec (surroundings pid) ((observeReconciled at' active c absent).run d₁) w₁ (view, d₂) w₂)
    (hfinish : Exec (surroundings pid) ((finishTick (some view)).run d₂) w₂ (action, d₃) w₃) :
    d₃.core.externalChanges = d₁.core.externalChanges := by
  have h₁ := exec_steady (fun _ _ => steady_observeReconciled at' active c absent) hrest
  have h₂ := exec_steady (fun _ _ => steady_finishTick (some view)) hfinish
  exact h₂.2.trans h₁.2

omit [Sha256] in
theorem externalChanges_settled {c : Credential} {t' : Stores} (hr : Reconciled d w c d' t')
    (hclass : d.canonicalWatch.classify c ≠ .changed) :
    d'.core.externalChanges = d.core.externalChanges := by
  cases hr with
  | primed => rfl
  | unchanged => rfl
  | restashed h _ _ => exact absurd h hclass
  | failed h _ _ => exact absurd h hclass
  | uncaptured h => exact absurd h hclass

omit [Sha256] in
/-- A change that resolves to an account is re-stashed and noted, or the state stays as it was. -/
theorem exec_healChange_some {c : Credential} {i : ℕ}
    (h : Exec (surroundings pid) ((healChange c (some i)).run d) w ((), d') w') :
    (d' = d ∧ RestashAfter w (d.account i) c false w'.stores) ∨
    ∃ nowSecs oauth, d' = d.restashed i c nowSecs ∧
      w'.stores.stash (d.account i).stash = .ok ⟨c, oauth⟩ := by
  have hallowed : RestashAllowed (fun _ _ _ => True) w.stores (d.account i) c :=
    ⟨fun _ _ => trivial, fun _ _ _ => trivial⟩
  have hwp := wp_healChange_some pid (fun _ _ _ => trivial) d c i hallowed
  have hr := wp_exec hwp h
  rcases hr with hfailed | ⟨nowSecs, oauth, hd, -, hs⟩
  · exact .inl hfailed
  · refine .inr ⟨nowSecs, oauth, hd, ?_⟩
    rw [hs]
    exact Stores.stash_written (a := ⟨c, oauth⟩)

omit [Sha256] in
theorem exec_healChange_none {c : Credential}
    (h : Exec (surroundings pid) ((healChange c none).run d) w ((), d') w') :
    w' = w ∧ ∃ accountUuid, d' = d.uncaptured accountUuid c := by
  have hwp := wp_healChange_none pid (P := fun _ _ _ => True) (w := w) (fun _ _ _ => trivial) d c
  have hr := wp_exec hwp h
  exact hr

theorem watched_tick {x : TickRecord} (hx : TickOf pid d w x w') : Watched d x := by
  cases hx with
  | @unread at' e observed action d₁ d₂ w₁ w₂ w₃ hbegins hobserve hfinish =>
    have h₁ := exec_steady (fun _ _ => steady_observeRead_error at' d.active e) hobserve
    have h₂ := exec_steady (fun _ _ => steady_finishTick observed) hfinish
    exact {
      watch := rfl
      reported := h₂.2.trans h₁.2
      unreported := fun _ => h₂.2.trans h₁.2
      healed := fun c hc => by cases hc.1
      surfaced := fun c hc => by cases hc.1 }
  | @settled at' c view action d₁ d₂ d₃ w₁ w₂ w₃ w₄ hbegins hclass hreconcile hrest hfinish =>
    have hchanges := externalChanges_rest hrest hfinish
    have hr : Reconciled d.beginTick.clearLockBackoff w₁ c d₁ w₂.stores :=
      exec_reconcileCanonicalChange hreconcile
    have hsettled : d₁.core.externalChanges = [] := externalChanges_settled hr hclass
    have hno : ∀ c', ¬ TickRecord.Changed
        ⟨some c, none, d.beginTick.clearLockBackoff, w₁, d₁, w₂.stores, d₃⟩ c' := by
      rintro c' ⟨hc, hchanged⟩
      cases hc
      exact hclass hchanged
    exact {
      watch := rfl
      reported := hchanges
      unreported := fun _ => hchanges.trans hsettled
      healed := fun c' hc' => absurd hc' (hno c')
      surfaced := fun c' hc' => absurd hc' (hno c') }
  | @changed at' c resolved view action d₁ d₂ d₃ w₁ w₂ w₃ w₄ w₅ hbegins hclass hresolve hheal hrest
      hfinish =>
    have hchanges := externalChanges_rest hrest hfinish
    have hyes : TickRecord.Changed
        ⟨some c, resolved, d.beginTick.clearLockBackoff, w₂, d₁, w₃.stores, d₃⟩ c := ⟨rfl, hclass⟩
    refine { watch := rfl, reported := hchanges, unreported := ?_, healed := ?_, surfaced := ?_ }
    · intro hno
      exact absurd hyes (hno c)
    · rintro c' ⟨hc, -⟩ i hi
      cases hc
      dsimp only at hi
      subst hi
      rcases exec_healChange_some hheal with ⟨hd, hafter⟩ | ⟨nowSecs, oauth, hd, hs⟩
      · refine .inr ⟨hd, hchanges.trans ?_, hafter⟩
        rw [hd]
        rfl
      · refine .inl ⟨nowSecs, oauth, hd, hchanges.trans ?_, hs⟩
        rw [hd, Daemon.restashed_core]
        rfl
    · rintro c' ⟨hc, -⟩ hi
      cases hc
      dsimp only at hi
      subst hi
      obtain ⟨rfl, accountUuid, hd⟩ := exec_healChange_none hheal
      refine ⟨accountUuid, hd, hchanges.trans ?_, rfl⟩
      rw [hd, Daemon.uncaptured_core]
      rfl

omit [Sha256] in
theorem Watched.changed_of_reported {x : TickRecord} (h : Watched d x) {c : Credential}
    (hread : x.read = some c) (hreported : x.reported ≠ []) : x.Changed c := by
  by_contra hc
  apply hreported
  apply h.unreported
  intro c' hc'
  apply hc
  cases hread.symm.trans hc'.1
  exact hc'

omit [Sha256] in
/-- A tick reports one change at the most, and the baseline is then the credential it has read. -/
theorem Watched.reported_once {x : TickRecord} (h : Watched d x) : x.reported.length ≤ 1 ∧
    ∀ c, x.Changed c → x.reported ≠ [] → x.reconciled.canonicalWatch.last = some c := by
  have hchanged : ∀ c, x.Changed c → x.reported.length ≤ 1 ∧
      (x.reported ≠ [] → x.reconciled.canonicalWatch.last = some c) := by
    intro c hc
    cases hresolved : x.resolved with
    | some i =>
      rcases h.healed c hc i hresolved with ⟨nowSecs, oauth, hd, hr, -⟩ | ⟨-, hr, -⟩
      · rw [hr, hd]
        exact ⟨le_refl _, fun _ => rfl⟩
      · rw [hr]
        exact ⟨Nat.zero_le _, fun hne => absurd rfl hne⟩
    | none =>
      obtain ⟨accountUuid, hd, hr, -⟩ := h.surfaced c hc hresolved
      rw [hr, hd]
      exact ⟨le_refl _, fun _ => rfl⟩
  refine ⟨?_, fun c hc => (hchanged c hc).2⟩
  by_cases hsome : ∃ c, x.Changed c
  · obtain ⟨c, hc⟩ := hsome
    exact (hchanged c hc).1
  · rw [h.unreported (fun c hc => hsome ⟨c, hc⟩)]
    exact Nat.zero_le _

/-! ## Runs -/

variable {s s' : Daemon × World} {tr : List (Option TickRecord)}

theorem watched_run (hrun : Runs (WatchStep pid) s tr s') : ∀ x, some x ∈ tr → ∃ d, Watched d x := by
  intro x hx
  apply hrun.labels (P := fun l => ∀ x, l = some x → ∃ d, Watched d x) ?_ (some x) hx x rfl
  intro s l s' hs x hl
  cases hs with
  | outside => cases hl
  | tick htick =>
    cases hl
    exact ⟨_, watched_tick htick⟩

/-- Through ticks that hold it and commit nothing, the baseline stays. -/
theorem baseline_held (hrun : Runs (WatchStep pid) s tr s')
    (hheld : ∀ z, some z ∈ tr → z.Held ∧ ¬ z.OwnCommit) :
    s'.1.canonicalWatch = s.1.canonicalWatch := by
  revert hheld
  apply hrun.invariant (I := fun tr s' => (∀ z, some z ∈ tr → z.Held ∧ ¬ z.OwnCommit) →
    s'.1.canonicalWatch = s.1.canonicalWatch)
  · intro _
    rfl
  · intro tr s₁ l s₂ ih hs hheld
    have hbefore := ih (fun z hz => hheld z (List.mem_append_left _ hz))
    cases hs with
    | outside => exact hbefore
    | @tick d w w' x htick =>
      obtain ⟨hx, hown⟩ := hheld x (List.mem_append_right _ (List.mem_singleton_self _))
      calc x.after.canonicalWatch = x.reconciled.canonicalWatch := not_not.mp hown
        _ = x.before.canonicalWatch := by rw [hx]
        _ = d.canonicalWatch := (watched_tick htick).watch
        _ = s.1.canonicalWatch := hbefore

/-- What every tick leaves of the baseline, the run leaves of it. -/
theorem baseline_left {P : CanonicalWatch → Prop} (hrun : Runs (WatchStep pid) s tr s')
    (h0 : P s.1.canonicalWatch) (hleft : ∀ z, some z ∈ tr → P z.after.canonicalWatch) :
    P s'.1.canonicalWatch := by
  revert hleft
  apply hrun.invariant (I := fun tr s' => (∀ z, some z ∈ tr → P z.after.canonicalWatch) →
    P s'.1.canonicalWatch)
  · intro _
    exact h0
  · intro tr s₁ l s₂ ih hs hleft
    cases hs with
    | outside => exact ih (fun z hz => hleft z (List.mem_append_left _ hz))
    | @tick d w w' x htick => exact hleft x (List.mem_append_right _ (List.mem_singleton_self _))

/-- The states between two ticks of a run. -/
theorem runs_between {tr₁ tr₂ tr₃ : List (Option TickRecord)} {x y : TickRecord}
    (hrun : Runs (WatchStep pid) s (tr₁ ++ some x :: tr₂ ++ some y :: tr₃) s') :
    ∃ s₁ s₂ d w, WatchStep pid s₁ (some x) s₂ ∧ Runs (WatchStep pid) s₂ tr₂ (d, w) ∧ Watched d y := by
  obtain ⟨⟨d, w⟩, hrun, hy⟩ := runs_append_iff.mp hrun
  obtain ⟨s₁, -, hrun⟩ := runs_append_iff.mp hrun
  obtain ⟨s₂, hx, hrun⟩ := runs_cons_iff.mp hrun
  obtain ⟨s₃, hy, -⟩ := runs_cons_iff.mp hy
  cases hy with
  | tick htick => exact ⟨s₁, s₂, d, w, hx, hrun, watched_tick htick⟩

/-- Two ticks, between which others do as they like. -/
theorem runs_of_ticks {action action' : TickAction} {d₁ d₂ : Daemon} {w₁ w₂ w₃ : World}
    (h₁ : Exec (surroundings pid) (tick.run d) w (action, d₁) w₁)
    (h₂ : Exec (surroundings pid) (tick.run d₁) w₂ (action', d₂) w₃) :
    ∃ x y, x.after = d₁ ∧ y.after = d₂ ∧
      Runs (WatchStep pid) (d, w) [some x, none, some y] (d₂, w₃) := by
  obtain ⟨x, hx, rfl⟩ := exists_tickOf_iff.mp ⟨action, h₁⟩
  obtain ⟨y, hy, rfl⟩ := exists_tickOf_iff.mp ⟨action', h₂⟩
  refine ⟨x, y, rfl, rfl, ?_⟩
  apply runs_cons_iff.mpr
  refine ⟨(x.after, w₁), .tick hx, ?_⟩
  apply runs_cons_iff.mpr
  exact ⟨(x.after, w₂), .outside x.after w₁ w₂, runs_single (.tick hy)⟩

/-- A change whose re-stash failed is found again by the next tick that reads it, unless the daemon
has moved the baseline itself. -/
theorem changed_again {tr₁ tr₂ tr₃ : List (Option TickRecord)} {x y : TickRecord} {c : Credential}
    (hrun : Runs (WatchStep pid) s (tr₁ ++ some x :: tr₂ ++ some y :: tr₃) s') (hx : x.Changed c)
    (hheld : ∀ z, some z ∈ some x :: tr₂ → z.Held ∧ ¬ z.OwnCommit) (hy : y.read = some c) :
    y.Changed c := by
  obtain ⟨s₁, s₂, d, w, hstep, hrest, hwatched⟩ := runs_between hrun
  have hkept := baseline_held (runs_cons_iff.mpr ⟨s₂, hstep, hrest⟩) hheld
  refine ⟨hy, ?_⟩
  cases hstep with
  | tick htick =>
    rw [hwatched.watch, hkept, ← (watched_tick htick).watch]
    exact hx.2

/-- Between two reports of one credential the baseline has been moved off it. -/
theorem moved_between {tr₁ tr₂ tr₃ : List (Option TickRecord)} {x y : TickRecord} {c : Credential}
    (hrun : Runs (WatchStep pid) s (tr₁ ++ some x :: tr₂ ++ some y :: tr₃) s') (hy : y.Changed c) :
    ∃ z, some z ∈ some x :: tr₂ ∧ z.after.canonicalWatch.last ≠ some c := by
  obtain ⟨s₁, s₂, d, w, hstep, hrest, hwatched⟩ := runs_between hrun
  by_contra hall
  push Not at hall
  have hx : s₂.1.canonicalWatch.last = some c := by
    cases hstep with
    | tick htick => exact hall x List.mem_cons_self
  have hlast := baseline_left (P := fun watch => watch.last = some c) hrest hx
    (fun z hz => hall z (List.mem_cons_of_mem _ hz))
  obtain ⟨prev, hprev, hne⟩ := CanonicalWatch.classify_changed_iff.mp hy.2
  rw [hwatched.watch, hlast] at hprev
  exact hne (Option.some.inj hprev).symm

/-- The watch over a run of ticks. A change that resolves to an account is committed only with the
account's stash written to exactly the credential read; otherwise the reconciliation leaves the
state as it was, and the change is found again by the next tick that reads it, unless the daemon has
moved the baseline itself. A tick reports one change at the most, and between two reports of one
credential the baseline has been moved off it. -/
theorem watch_protocol (pid : ℕ) (s s' : Daemon × World) (tr : List (Option TickRecord))
    (hrun : Runs (WatchStep pid) s tr s') :
    (∀ x, some x ∈ tr → ∀ c i, x.Changed c → x.resolved = some i →
      x.reconciled.canonicalWatch.last = some c →
        ∃ oauth, x.stores.stash (x.before.account i).stash = .ok ⟨c, oauth⟩) ∧
    (∀ x, some x ∈ tr → ∀ c i, x.Changed c → x.resolved = some i →
      x.reconciled.canonicalWatch.last ≠ some c →
        x.reconciled = x.before ∧ RestashAfter x.world (x.before.account i) c false x.stores) ∧
    (∀ tr₁ x tr₂ y tr₃ c, tr = tr₁ ++ some x :: tr₂ ++ some y :: tr₃ → x.Changed c →
      (∀ z, some z ∈ some x :: tr₂ → z.Held ∧ ¬ z.OwnCommit) → y.read = some c → y.Changed c) ∧
    (∀ x, some x ∈ tr → x.reported.length ≤ 1) ∧
    (∀ tr₁ x tr₂ y tr₃ c, tr = tr₁ ++ some x :: tr₂ ++ some y :: tr₃ →
      x.read = some c → x.reported ≠ [] → y.read = some c → y.reported ≠ [] →
        x.reconciled.canonicalWatch.last = some c ∧
        ∃ z, some z ∈ some x :: tr₂ ∧ z.after.canonicalWatch.last ≠ some c) := by
  have hwatched := watched_run hrun
  refine ⟨?_, ?_, ?_, ?_, ?_⟩
  · intro x hx c i hc hi hcommitted
    obtain ⟨d, h⟩ := hwatched x hx
    rcases h.healed c hc i hi with ⟨-, oauth, -, -, hs⟩ | ⟨hd, -, -⟩
    · exact ⟨oauth, hs⟩
    · obtain ⟨prev, hprev, hne⟩ := CanonicalWatch.classify_changed_iff.mp hc.2
      rw [hd, hprev] at hcommitted
      exact absurd (Option.some.inj hcommitted) hne
  · intro x hx c i hc hi hcommitted
    obtain ⟨d, h⟩ := hwatched x hx
    rcases h.healed c hc i hi with ⟨nowSecs, -, hd, -, -⟩ | ⟨hd, -, hafter⟩
    · rw [hd] at hcommitted
      exact absurd rfl hcommitted
    · exact ⟨hd, hafter⟩
  · rintro tr₁ x tr₂ y tr₃ c rfl hx hheld hy
    exact changed_again hrun hx hheld hy
  · intro x hx
    obtain ⟨d, h⟩ := hwatched x hx
    exact h.reported_once.1
  · rintro tr₁ x tr₂ y tr₃ c rfl hxread hxreported hyread hyreported
    obtain ⟨d, hx⟩ := hwatched x (by simp)
    obtain ⟨d', hy⟩ := hwatched y (by simp)
    exact ⟨hx.reported_once.2 c (hx.changed_of_reported hxread hxreported) hxreported,
      moved_between hrun (hy.changed_of_reported hyread hyreported)⟩

end Step

section Sample

local instance watchJson : SerdeJson := sampleJson

local instance watchSha : Sha256 := ⟨fun _ => 0⟩

/-- Another login puts its credential in the canonical item. -/
def World.loggedIn (w : World) (c : Credential) : World := w.setStores (w.stores.setCanonical c)

def primedTick : (TickAction × Daemon) × World :=
  run (calmly 0) (tick.run startedDaemon) (sampleWorld ⟨[1]⟩ "A")

def secondTick : (TickAction × Daemon) × World :=
  run (calmly 0) (tick.run primedTick.1.2) (primedTick.2.loggedIn ⟨[2]⟩)

def thirdTick : (TickAction × Daemon) × World :=
  run (calmly 0) (tick.run secondTick.1.2) (secondTick.2.loggedIn ⟨[1]⟩)

def fourthTick : (TickAction × Daemon) × World :=
  run (calmly 0) (tick.run thirdTick.1.2) (thirdTick.2.loggedIn ⟨[2]⟩)

/-- Everything works but the write of the second account's stash. -/
def unwritable : Script :=
  { Script.calm with
    fails := fun
      | .addCredential service _ => service == (sampleAccount "B").stash
      | _ => false }

/-- The active account is dead; the display names the second account. -/
def deadDaemon : Daemon :=
  { sampleDaemon with
    canonicalWatch := ⟨some ⟨[1]⟩⟩
    pollSchedule := [0]
    accounts := fun i =>
      if i = 0 then { health := { quarantined := true } }
      else { lastReading := some ⟨some (1 / 10), some (1 / 10), none, none⟩
             lastReadingAt := some 0
             polledOnce := true } }

def failedTick : (TickAction × Daemon) × World :=
  run (unwritable.handler 0) (tick.run deadDaemon) (sampleWorld ⟨[9]⟩ "B")

def nextTick : (TickAction × Daemon) × World :=
  run (calmly 0) (tick.run failedTick.1.2) failedTick.2

/-- A credential that comes back is reported a second time. A change whose re-stash failed is not
found again when the tick goes on to swap away, and its credential never reaches the stash. -/
theorem watch_overstated :
    (Exec (surroundings 0) (tick.run startedDaemon) (sampleWorld ⟨[1]⟩ "A") primedTick.1
        primedTick.2 ∧
      Exec (surroundings 0) (tick.run primedTick.1.2) (primedTick.2.loggedIn ⟨[2]⟩) secondTick.1
        secondTick.2 ∧
      Exec (surroundings 0) (tick.run secondTick.1.2) (secondTick.2.loggedIn ⟨[1]⟩) thirdTick.1
        thirdTick.2 ∧
      Exec (surroundings 0) (tick.run thirdTick.1.2) (thirdTick.2.loggedIn ⟨[2]⟩) fourthTick.1
        fourthTick.2 ∧
      .reStash "B" ∈ secondTick.1.2.events ∧ .reStash "B" ∈ fourthTick.1.2.events) ∧
    (Exec (surroundings 0) (tick.run deadDaemon) (sampleWorld ⟨[9]⟩ "B") failedTick.1 failedTick.2 ∧
      deadDaemon.canonicalWatch.classify ⟨[9]⟩ = .changed ∧
      failedTick.2.stores.credentialItem (sampleAccount "B").stash ≠ some [9] ∧
      Exec (surroundings 0) (tick.run failedTick.1.2) failedTick.2 nextTick.1 nextTick.2 ∧
      nextTick.1.2.core.externalChanges = [] ∧
      nextTick.2.stores.credentialItem (sampleAccount "B").stash ≠ some [9]) := by
  have hrefines : (unwritable.handler 0).Refines (surroundings 0) :=
    Script.handler_refines unwritable ⟨by decide, by decide⟩ 0
  constructor
  · refine ⟨exec_of_run (calmly_refines 0) _ _, exec_of_run (calmly_refines 0) _ _, ?_⟩
    refine ⟨exec_of_run (calmly_refines 0) _ _, exec_of_run (calmly_refines 0) _ _, ?_⟩
    exact ⟨by decide +kernel, by decide +kernel⟩
  · refine ⟨exec_of_run hrefines _ _, by decide, by decide +kernel, ?_⟩
    exact ⟨exec_of_run (calmly_refines 0) _ _, by decide +kernel, by decide +kernel⟩

theorem watch_protocol_second : ∃ x y, x.after = primedTick.1.2 ∧ y.after = secondTick.1.2 ∧
    Runs (WatchStep 0) (startedDaemon, sampleWorld ⟨[1]⟩ "A") [some x, none, some y]
      (secondTick.1.2, secondTick.2) ∧
    y.reported = [.reStash "B"] ∧ y.reported.length ≤ 1 := by
  obtain ⟨x, y, hx, hy, hrun⟩ := runs_of_ticks
    (exec_of_run (calmly_refines 0) (tick.run startedDaemon) (sampleWorld ⟨[1]⟩ "A"))
    (exec_of_run (calmly_refines 0) (tick.run primedTick.1.2) (primedTick.2.loggedIn ⟨[2]⟩))
  obtain ⟨-, -, -, hone, -⟩ := watch_protocol 0 _ _ _ hrun
  refine ⟨x, y, hx, hy, hrun, ?_, hone y (by simp)⟩
  unfold TickRecord.reported
  rw [hy]
  decide +kernel

end Sample

end Sessiometer
