import Sessiometer.Daemon.Rehearsal

/-! # The back-off windows

A throttled account is not polled until its window is over. How long the window may be is decided by
the role of the account when it is throttled, and the window stays when the role changes. -/

namespace Sessiometer

open Effects

/-! ## One window -/

section Window

variable {now wait : Nanos}

theorem backoffWait_le_active (interval : Nanos) (streak : ℕ) :
    backoffWait interval streak true none ≤ activePollBackoffCap := by
  unfold backoffWait
  exact min_le_right _ _

theorem backoffWait_le_peer (interval : Nanos) (streak : ℕ) (retryAfter : Option Nanos) :
    backoffWait interval streak false retryAfter ≤ pollBackoffCap := by
  unfold backoffWait
  cases retryAfter with
  | none => exact min_le_right _ _
  | some ra => exact min_le_right _ _

/-- A zero directive asks for nothing. -/
theorem backoffWait_zero (interval : Nanos) (streak : ℕ) (isActive : Bool) :
    backoffWait interval streak isActive (some 0) = backoffWait interval streak isActive none := by
  unfold backoffWait
  cases isActive with
  | true => exact max_eq_left (Nat.zero_le _)
  | false =>
    dsimp only
    rw [max_eq_left (Nat.zero_le _)]
    exact min_eq_left (min_le_right _ _)

theorem backoffUntil_of_le (h : now + wait ≤ instantMax) : backoffUntil now wait = now + wait := by
  unfold backoffUntil checkedAdd
  rw [if_pos h, Option.getD_some]

/-- The armed instant is one, or the one that a peer's cap gives. -/
theorem backoffUntil_le (now wait : Nanos) :
    backoffUntil now wait ≤ instantMax ∨ backoffUntil now wait = now + pollBackoffCap := by
  by_cases h : now + wait ≤ instantMax
  · rw [backoffUntil_of_le h]
    exact .inl h
  · right
    unfold backoffUntil checkedAdd
    rw [if_neg h, Option.getD_none]

theorem backoffUntil_le_peer (h : wait ≤ pollBackoffCap) :
    backoffUntil now wait ≤ now + pollBackoffCap := by
  unfold backoffUntil checkedAdd
  split
  · exact Nat.add_le_add_left h now
  · exact le_refl _

end Window

/-! ## The windows of a daemon -/

/-- The window of an account, and the `Retry-After` that is kept beside it. -/
def AccountRuntime.window (a : AccountRuntime) : Option Nanos × Option Nanos :=
  (a.health.pollBackoffUntil, a.health.pollBackoffRetryAfter)

def Daemon.windows (d : Daemon) (i : ℕ) : Option Nanos × Option Nanos := (d.accounts i).window

section Windows

variable {d d' : Daemon}

theorem windows_of_latches (h : d'.latches = d.latches) : d'.windows = d.windows :=
  congrArg (fun (l : Latches) i => ((l.slots i).pollBackoffUntil, (l.slots i).pollBackoffRetryAfter)) h

theorem storeReading_windows (d : Daemon) (i : ℕ) (active : Option ℕ)
    (result : Except Error Usage) (now : Nanos) :
    (d.storeReading i active result now).windows = d.windows := by
  funext j
  unfold Daemon.windows
  rw [storeReading_accounts]
  by_cases hj : j = i
  · rw [hj, Function.update_self]
    cases result <;> rfl
  · rw [Function.update_of_ne hj]

/-- Nothing but a poll and a reload touches a window. -/
theorem Moves.windows {k : Phase} (h : Moves k d d') (hk : k ≠ .reload) :
    d'.windows = d.windows :=
  funext (h.kept hk (fun s => (s.pollBackoffUntil, s.pollBackoffRetryAfter)) (fun _ _ => rfl))

/-- What a poll makes of its account's window: it is gone, or armed anew. -/
inductive Rewound (isActive : Bool) (t : Nanos) : Option Nanos × Option Nanos → Prop
  | cleared : Rewound isActive t (none, none)
  | armed (interval now : Nanos) (streak : ℕ) (retryAfter : Option Nanos) : now ≤ t →
      Rewound isActive t
        (some (backoffUntil now (backoffWait interval streak isActive retryAfter)),
          retryAfter.filter (fun ra => decide (ra ≠ 0)))

theorem BackoffNoted.rewound {i : ℕ} {isActive : Bool} {result : Except Error Usage} {t : Nanos}
    (h : BackoffNoted i isActive result t d d') : Rewound isActive t (d'.windows i) ∧
      (backoffSignal result = none → d'.windows i = (none, none)) := by
  cases h with
  | cleared _ hd =>
    have hcleared : d'.windows i = (none, none) := by
      rw [windows_of_latches hd]
      unfold Daemon.clearBackoff Daemon.setHealth Daemon.windows
      rw [emitIf_accounts, Daemon.setAccount_self]
      rfl
    rw [hcleared]
    exact ⟨.cleared, fun _ => rfl⟩
  | armed streak interval now hsignal hnow hd =>
    rw [windows_of_latches hd]
    unfold Daemon.armBackoff Daemon.setHealth Daemon.windows
    rw [Daemon.setAccount_self]
    refine ⟨.armed interval now streak _ hnow, ?_⟩
    intro hnone
    rw [hsignal] at hnone
    cases hnone

/-- A poll rewinds the window of the account it polls as its role has it. An answer that is a reading
leaves none. -/
theorem Polled.windows {p q : Daemon} {x : Option Answer} {t : Nanos} (h : Polled p x q t) (i : ℕ) :
    q.windows i = p.windows i ∧ (q.accounts i).lastReading = (p.accounts i).lastReading ∨
      Rewound (decide (p.active = some i)) t (q.windows i) ∧
        ((q.accounts i).lastReading.isSome = true → q.windows i = (none, none)) := by
  have hother : (x = none ∨ (p.nextPollIndex p.active).1 ≠ some i) →
      q.windows i = p.windows i ∧ (q.accounts i).lastReading = (p.accounts i).lastReading := by
    intro hi
    have hslot := h.other hi
    exact ⟨congrArg (fun s : Slot => (s.pollBackoffUntil, s.pollBackoffRetryAfter)) hslot,
      congrArg Slot.lastReading hslot⟩
  by_cases hi : (p.nextPollIndex p.active).1 = some i
  · cases x with
    | none => exact .inl (hother (.inl rfl))
    | some answer =>
      have hreading : (q.accounts i).lastReading = answer.result.toOption := h.lastReading hi
      cases h with
      | @polled _ _ j s₁ s₂ s₃ s₄ s₅ result now nowSecs _ hpick h₁ h₂ h₃ h₄ h₅ hq =>
        cases hpick.symm.trans hi
        have hq₂ : q.windows = s₂.windows :=
          calc q.windows
            _ = (s₅.noteExhaustedPoll i p.active now nowSecs).windows := windows_of_latches hq
            _ = s₅.windows := funext (noteExhaustedPoll_kept _ (fun _ _ => rfl) s₅ i _ now nowSecs)
            _ = (s₄.storeReading i p.active result now).windows := windows_of_latches h₅
            _ = s₄.windows := storeReading_windows s₄ i _ result now
            _ = (s₃.noteBlindEpisode i p.active result now).windows := windows_of_latches h₄
            _ = s₃.windows := funext (noteBlindEpisode_kept _ (fun _ _ => rfl) s₃ i _ result now)
            _ = s₂.windows := windows_of_latches h₃
        obtain ⟨hrewound, hcleared⟩ := h₂.rewound
        right
        rw [hq₂]
        refine ⟨hrewound, ?_⟩
        rw [hreading]
        intro hread
        apply hcleared
        cases result with
        | error e => cases hread
        | ok fresh => rfl
  · exact .inl (hother (.inr hi))

end Windows

/-! ## The bounds -/

/-- A kept `Retry-After` has its window, an account with a reading has none, and an armed window ends
at an instant, or within a peer's cap. -/
structure WindowsKept (d : Daemon) (t : Nanos) : Prop where
  armed : ∀ i, (d.windows i).2.isSome = true → (d.windows i).1.isSome = true
  unread : ∀ i, (d.accounts i).lastReading.isSome = true → (d.windows i).1 = none
  instant : ∀ i until', (d.windows i).1 = some until' →
    until' ≤ instantMax ∨ until' ≤ t + pollBackoffCap

/-- Without a `Retry-After` the active account's window ends within its cap, as long as a peer's cap
is an instant, and any other account's within the cap of a peer. -/
structure RolesBounded (d : Daemon) (t : Nanos) : Prop where
  active : ∀ i until', t + pollBackoffCap ≤ instantMax → d.active = some i →
    d.windows i = (some until', none) → until' ≤ t + activePollBackoffCap
  peer : ∀ i until', d.active ≠ some i → (d.windows i).1 = some until' →
    until' ≤ t + pollBackoffCap

/-- A change of the active account that leaves every window within the cap of its account's new
role. -/
structure Handover (d d' : Daemon) (t : Nanos) : Prop where
  promoted : ∀ i until', d'.active = some i → d.active ≠ some i →
    d.windows i = (some until', none) → until' ≤ t + activePollBackoffCap
  demoted : ∀ i until', d.active = some i → d'.active ≠ some i → (d.windows i).1 = some until' →
    until' ≤ t + pollBackoffCap

section Bounds

variable {d d' : Daemon} {t t' : Nanos}

theorem WindowsKept.mono (h : WindowsKept d t) (ht : t ≤ t') (hwindows : d'.windows = d.windows)
    (hreadings : ∀ i, (d'.accounts i).lastReading = (d.accounts i).lastReading) :
    WindowsKept d' t' := by
  refine ⟨?_, ?_, ?_⟩
  · rw [hwindows]
    exact h.armed
  · intro i hi
    rw [hreadings] at hi
    rw [hwindows]
    exact h.unread i hi
  · rw [hwindows]
    intro i until' hi
    rcases h.instant i until' hi with hle | hle
    · exact .inl hle
    · exact .inr (le_trans hle (Nat.add_le_add_right ht _))

theorem RolesBounded.handover (h : RolesBounded d t) (ht : t ≤ t') (hwindows : d'.windows = d.windows)
    (hroles : Handover d d' t') : RolesBounded d' t' := by
  refine ⟨?_, ?_⟩
  · rw [hwindows]
    intro i until' hinstant hactive hi
    by_cases hbefore : d.active = some i
    · have hle := h.active i until' (le_trans (Nat.add_le_add_right ht _) hinstant) hbefore hi
      exact le_trans hle (Nat.add_le_add_right ht _)
    · exact hroles.promoted i until' hactive hbefore hi
  · rw [hwindows]
    intro i until' hactive hi
    by_cases hbefore : d.active = some i
    · exact hroles.demoted i until' hbefore hactive hi
    · exact le_trans (h.peer i until' hbefore hi) (Nat.add_le_add_right ht _)

theorem RolesBounded.mono (h : RolesBounded d t) (ht : t ≤ t') (hwindows : d'.windows = d.windows)
    (hactive : d'.active = d.active) : RolesBounded d' t' := by
  apply h.handover ht hwindows
  refine ⟨?_, ?_⟩
  · intro i until' hafter hbefore
    rw [hactive] at hafter
    exact absurd hafter hbefore
  · intro i until' hbefore hafter
    rw [hactive] at hafter
    exact absurd hbefore hafter

/-- A refilled window is within the cap of the role it was armed in. -/
theorem Rewound.bounded {isActive : Bool} {window : Option Nanos × Option Nanos}
    (h : Rewound isActive t window) :
    (window.2.isSome = true → window.1.isSome = true) ∧
      (∀ until', window.1 = some until' → until' ≤ instantMax ∨ until' ≤ t + pollBackoffCap) ∧
      (isActive = false → ∀ until', window.1 = some until' → until' ≤ t + pollBackoffCap) ∧
      (isActive = true → t + pollBackoffCap ≤ instantMax → ∀ until', window = (some until', none) →
        until' ≤ t + activePollBackoffCap) := by
  cases h with
  | cleared =>
    refine ⟨id, ?_, ?_, ?_⟩
    · intro until' h
      cases h
    · intro _ until' h
      cases h
    · intro _ _ until' h
      cases h
  | armed interval now streak retryAfter hnow =>
    refine ⟨fun _ => rfl, ?_, ?_, ?_⟩
    · rintro until' ⟨⟩
      rcases backoffUntil_le now (backoffWait interval streak isActive retryAfter) with hle | heq
      · exact .inl hle
      · rw [heq]
        exact .inr (Nat.add_le_add_right hnow _)
    · rintro rfl until' ⟨⟩
      have hle : backoffUntil now (backoffWait interval streak false retryAfter) ≤
          now + pollBackoffCap :=
        backoffUntil_le_peer (backoffWait_le_peer interval streak retryAfter)
      exact le_trans hle (Nat.add_le_add_right hnow _)
    · rintro rfl hinstant until' hwindow
      obtain ⟨huntil, hfilter⟩ := Prod.mk.inj hwindow
      cases huntil
      have hzero : backoffWait interval streak true retryAfter =
          backoffWait interval streak true none := by
        cases retryAfter with
        | none => rfl
        | some ra =>
          have hra : ra = 0 := by
            by_contra hne
            rw [Option.filter_some, if_pos (decide_eq_true hne)] at hfilter
            cases hfilter
          rw [hra]
          exact backoffWait_zero interval streak true
      have hwait := backoffWait_le_active interval streak
      have hcaps : activePollBackoffCap ≤ pollBackoffCap := by decide
      rw [hzero, backoffUntil_of_le]
      · exact Nat.add_le_add hnow hwait
      · exact le_trans (Nat.add_le_add hnow (le_trans hwait hcaps)) hinstant

theorem WindowsKept.polled {p q : Daemon} {x : Option Answer} (hp : WindowsKept p t)
    (h : Polled p x q t') (ht : t ≤ t') : WindowsKept q t' := by
  have hkept := hp.mono ht rfl (fun _ => rfl)
  refine ⟨?_, ?_, ?_⟩
  · intro i
    rcases h.windows i with ⟨hsame, -⟩ | ⟨hrewound, -⟩
    · rw [hsame]
      exact hkept.armed i
    · exact hrewound.bounded.1
  · intro i
    rcases h.windows i with ⟨hsame, hreading⟩ | ⟨-, hread⟩
    · rw [hsame, hreading]
      exact hkept.unread i
    · intro hi
      rw [hread hi]
  · intro i
    rcases h.windows i with ⟨hsame, -⟩ | ⟨hrewound, -⟩
    · rw [hsame]
      exact hkept.instant i
    · exact hrewound.bounded.2.1

theorem RolesBounded.polled {p q : Daemon} {x : Option Answer} (hp : RolesBounded p t)
    (h : Polled p x q t') (ht : t ≤ t') : RolesBounded q t' := by
  have hkept := hp.mono ht rfl rfl
  have hactive := h.keeps.1
  refine ⟨?_, ?_⟩
  · intro i until' hinstant hi hwindow
    rw [hactive] at hi
    rcases h.windows i with ⟨hsame, -⟩ | ⟨hrewound, -⟩
    · exact hkept.active i until' hinstant hi (hsame ▸ hwindow)
    · exact hrewound.bounded.2.2.2 (decide_eq_true hi) hinstant until' hwindow
  · intro i until' hi hwindow
    rw [hactive] at hi
    rcases h.windows i with ⟨hsame, -⟩ | ⟨hrewound, -⟩
    · exact hkept.peer i until' hi (hsame ▸ hwindow)
    · exact hrewound.bounded.2.2.1 (decide_eq_false hi) until' hwindow

theorem WindowsKept.reloaded (h : WindowsKept d t) (newRoster : List Account)
    (intent : ReloadIntent) : WindowsKept (d.reconcileRoster newRoster intent) t := by
  by_cases hrefuses : d.rosterState.refuses newRoster intent
  · rw [d.reconcileRoster_of_refuses hrefuses]
    exact h
  · have haccounts : (d.reconcileRoster newRoster intent).accounts = d.carryOver newRoster := by
      rw [d.reconcileRoster_of_adopts hrefuses]
    refine ⟨?_, ?_, ?_⟩
    all_goals
      intro j
      unfold Daemon.windows
      rw [haccounts]
      rcases carryOver_cases d newRoster j with hfresh | ⟨-, i, -, -, hcarried⟩
    · rw [hfresh]
      exact id
    · rw [hcarried]
      exact h.armed i
    · rw [hfresh]
      intro hread
      cases hread
    · rw [hcarried]
      exact h.unread i
    · rw [hfresh]
      intro until' huntil
      cases huntil
    · rw [hcarried]
      exact h.instant i

/-- A reload gives no account another role. -/
theorem RolesBounded.reloaded (h : RolesBounded d t) (hd : d.Listed) (hunique : UniqueUuids d.roster)
    {newRoster : List Account} {intent : ReloadIntent}
    (hnew : UniqueUuids (d.reconcileRoster newRoster intent).roster) :
    RolesBounded (d.reconcileRoster newRoster intent) t := by
  by_cases hrefuses : d.rosterState.refuses newRoster intent
  · rw [d.reconcileRoster_of_refuses hrefuses]
    exact h
  · have hroster : (d.reconcileRoster newRoster intent).roster = newRoster := by
      rw [d.reconcileRoster_of_adopts hrefuses]
    have haccounts : (d.reconcileRoster newRoster intent).accounts = d.carryOver newRoster := by
      rw [d.reconcileRoster_of_adopts hrefuses]
    rw [hroster] at hnew
    refine ⟨?_, ?_⟩
    · intro j until' hinstant hj
      obtain ⟨i, account, hactive, hget, huuid⟩ := active_reconcileRoster hrefuses hj
      unfold Daemon.windows
      rw [haccounts, carryOver_of_uuid hunique (hd.active i hactive) hget huuid]
      exact h.active i until' hinstant hactive
    · intro j until' hj
      unfold Daemon.windows
      rw [haccounts]
      rcases carryOver_cases d newRoster j with hfresh | ⟨account, i, hget, hposition, hcarried⟩
      · rw [hfresh]
        intro huntil
        cases huntil
      · rw [hcarried]
        apply h.peer i until'
        intro hactive
        exact hj (active_reconcileRoster_of_persists hrefuses hnew hactive hget hposition)

/-- What the roles of a turn change to: as the tick designates, and once more after its poll. A reload
changes no role. -/
def RolesKept (d : Daemon) (log : Option PollLog) (d' : Daemon) (t : Nanos) : Prop :=
  match log with
  | none => d'.roster = d.roster → Handover d d' t
  | some x => Handover d x.consulted t ∧ Handover x.folded d' t

theorem settle_windows (d : Daemon) (action : TickAction) :
    (d.settle action).windows = d.windows ∧
      ∀ i, ((d.settle action).accounts i).lastReading = (d.accounts i).lastReading := by
  have hsettled := settle_latches d action
  refine ⟨congrArg (fun (l : Latches) i =>
    ((l.slots i).pollBackoffUntil, (l.slots i).pollBackoffRetryAfter)) hsettled, ?_⟩
  exact fun i => congrArg (fun l : Latches => (l.slots i).lastReading) hsettled

theorem Course.windowsKept {l : Turn} {log : Option PollLog} (h : Course d t l log d' t')
    (hd : WindowsKept d t) : WindowsKept d' t' := by
  cases h with
  | between hmoves ht =>
    have hcommand : Phase.command ≠ .reload := by intro h; cases h
    exact hd.mono ht (hmoves.windows hcommand) (hmoves.kept hcommand Slot.lastReading (fun _ _ => rfl))
  | reloaded newRoster intent => exact hd.reloaded newRoster intent
  | locked hd' ht =>
    exact hd.mono ht (windows_of_latches (d := d.beginTick) hd')
      (fun i => lastReading_of_latches (d := d.beginTick) hd' i)
  | @observed r r' e t₁ _ x _ action hbegan hat hp hpolled ht' hr hr' he =>
    have hobserve : Phase.observe ≠ .reload := by intro h; cases h
    have hrecover : Phase.recover ≠ .reload := by intro h; cases h
    have hdecide : Phase.decide ≠ .reload := by intro h; cases h
    have hconsulted : WindowsKept x.consulted t := hd.mono (le_refl t) (hp.windows hobserve)
      (hp.kept hobserve Slot.lastReading (fun _ _ => rfl))
    have hfolded := hconsulted.polled hpolled (le_trans hbegan hat)
    obtain ⟨hwindows, hreadings⟩ := settle_windows e action
    refine hfolded.mono ht' ?_ ?_
    · rw [hwindows, he.windows hdecide, hr'.moves.windows hrecover, hr.windows hobserve]
    · intro i
      rw [hreadings]
      calc (e.accounts i).lastReading
        _ = (r'.accounts i).lastReading := he.kept hdecide Slot.lastReading (fun _ _ => rfl) i
        _ = (r.accounts i).lastReading := hr'.moves.kept hrecover Slot.lastReading (fun _ _ => rfl) i
        _ = (x.folded.accounts i).lastReading := hr.kept hobserve Slot.lastReading (fun _ _ => rfl) i

theorem Course.rolesBounded {l : Turn} {log : Option PollLog} (h : Course d t l log d' t')
    (hlisted : d.Listed) (hunique : UniqueUuids d.roster) (hunique' : UniqueUuids d'.roster)
    (hroles : RolesKept d log d' t') (hd : RolesBounded d t) : RolesBounded d' t' := by
  cases h with
  | between hmoves ht =>
    have hcommand : Phase.command ≠ .reload := by intro h; cases h
    exact hd.handover ht (hmoves.windows hcommand) (hroles (hmoves.roster hcommand))
  | reloaded newRoster intent => exact hd.reloaded hlisted hunique hunique'
  | locked hd' ht =>
    exact hd.mono ht (windows_of_latches (d := d.beginTick) hd')
      (Daemon.active_of_latches (d := d.beginTick) hd')
  | @observed r r' e t₁ _ x _ action hbegan hat hp hpolled ht' hr hr' he =>
    have hobserve : Phase.observe ≠ .reload := by intro h; cases h
    have hrecover : Phase.recover ≠ .reload := by intro h; cases h
    have hdecide : Phase.decide ≠ .reload := by intro h; cases h
    have hconsulted : RolesBounded x.consulted t' :=
      hd.handover (le_trans (le_trans hbegan hat) ht') (hp.windows hobserve) hroles.1
    have hfolded := hconsulted.polled (hpolled.mono ht') (le_refl t')
    refine hfolded.handover (le_refl t') ?_ hroles.2
    rw [(settle_windows e action).1, he.windows hdecide, hr'.moves.windows hrecover, hr.windows hobserve]

end Bounds

section Runs

variable [SerdeJson] [Sha256] {pid : ℕ} {s s' : Daemon × World}
  {tr : List (Turn × Option PollLog)}

theorem windowsKept_run (hrun : Runs (LoadedStep ((surroundings pid).under Elapses)) s tr s')
    (h₀ : s.1.Started) : WindowsKept s'.1 s'.2.clock := by
  apply hrun.state_invariant (I := fun s => WindowsKept s.1 s.2.clock)
  · have hslot : ∀ i, (s.1.accounts i).slot = ({} : AccountRuntime).slot := fun i =>
      congrArg (fun l : Latches => l.slots i) h₀.fresh
    have hwindow : ∀ i, s.1.windows i = (none, none) := fun i =>
      congrArg (fun a : Slot => (a.pollBackoffUntil, a.pollBackoffRetryAfter)) (hslot i)
    refine ⟨?_, ?_, ?_⟩
    all_goals
      intro i
      rw [hwindow]
    · exact id
    · exact fun _ => rfl
    · intro until' h
      cases h
  · rintro ⟨d, w⟩ ⟨l, log⟩ ⟨d', w'⟩ hd ⟨hstep, -⟩
    exact (course_of_logged hstep).windowsKept hd

/-- A turn that leaves every window within the cap of its account's new role. -/
def RoledStep (D : Device Seams World) (s : Daemon × World) (l : Turn × Option PollLog)
    (s' : Daemon × World) : Prop :=
  LoadedStep D s l s' ∧ RolesKept s.1 l.2 s'.1 s'.2.clock

theorem rolesBounded_run (hrun : Runs (RoledStep ((surroundings pid).under Elapses)) s tr s')
    (h₀ : s.1.Started) : RolesBounded s'.1 s'.2.clock := by
  have h : RolesBounded s'.1 s'.2.clock ∧ s'.1.Listed ∧ UniqueUuids s'.1.roster := by
    apply hrun.state_invariant (I := fun s => RolesBounded s.1 s.2.clock ∧ s.1.Listed ∧
      UniqueUuids s.1.roster)
    · have hwindow : ∀ i, (s.1.windows i).1 = none := fun i =>
        congrArg (fun l : Latches => (l.slots i).pollBackoffUntil) h₀.fresh
      refine ⟨⟨?_, ?_⟩, h₀.listed, h₀.loaded⟩
      · intro i until' _ _ hi
        have hnone := hwindow i
        rw [hi] at hnone
        cases hnone
      · intro i until' _ hi
        rw [hwindow] at hi
        cases hi
    · rintro ⟨d, w⟩ ⟨l, log⟩ ⟨d', w'⟩ ⟨hd, hlisted, hunique⟩ ⟨⟨hstep, hunique'⟩, hroles⟩
      have hcourse := course_of_logged hstep
      exact ⟨hcourse.rolesBounded hlisted hunique hunique' hroles hd, (hcourse.listed hlisted).1,
        hunique'⟩
  exact h.1

/-- In every state that a started daemon reaches, a kept `Retry-After` has its window, an account with
a reading has none, and no window ends past the greatest instant. And where no turn gives the active
role to an account, or takes it from one, with more left of its window than its new role allows, the
active account's window without a `Retry-After` ends within its cap, and every other within a
peer's. -/
theorem backoff_windows_bounded (pid : ℕ) (s s' : Daemon × World)
    (tr : List (Turn × Option PollLog)) (h₀ : s.1.Started)
    (hrun : Runs (LoadedStep ((surroundings pid).under Elapses)) s tr s')
    (hclock : s'.2.clock + pollBackoffCap ≤ instantMax) :
    (∀ i, (s'.1.windows i).2.isSome = true → (s'.1.windows i).1.isSome = true) ∧
    (∀ i, (s'.1.accounts i).lastReading.isSome = true → (s'.1.windows i).1 = none) ∧
    (∀ i until', (s'.1.windows i).1 = some until' → until' ≤ instantMax) ∧
    (Runs (RoledStep ((surroundings pid).under Elapses)) s tr s' →
      (∀ i until', s'.1.active = some i → s'.1.windows i = (some until', none) →
        until' ≤ s'.2.clock + activePollBackoffCap) ∧
      ∀ i until', s'.1.active ≠ some i → (s'.1.windows i).1 = some until' →
        until' ≤ s'.2.clock + pollBackoffCap) := by
  have hkept := windowsKept_run hrun h₀
  refine ⟨hkept.armed, hkept.unread, ?_, ?_⟩
  · intro i until' hi
    rcases hkept.instant i until' hi with hle | hle
    · exact hle
    · exact le_trans hle hclock
  · intro hroled
    have hbounded := rolesBounded_run hroled h₀
    exact ⟨fun i until' => hbounded.active i until' hclock, hbounded.peer⟩

end Runs

section Sample

local instance throttleJson : SerdeJson := sampleJson

local instance throttleSha : Sha256 := ⟨fun _ => 0⟩

/-- Two ticks poll the active account and the second one, and both are throttled. -/
def throttledOnce : (Turn × Option PollLog) × (Daemon × World) :=
  rehearse (calmly 0) sampleDaemon (sampleWorld ⟨[1]⟩ "A")

def throttledTwice : (Turn × Option PollLog) × (Daemon × World) :=
  rehearse (calmly 0) throttledOnce.2.1 throttledOnce.2.2

/-- Then somebody logs in to the second account. -/
def loginTick : (Turn × Option PollLog) × (Daemon × World) :=
  rehearse (calmly 0) throttledTwice.2.1 (sampleWorld ⟨[2]⟩ "B")

/-- The whole window of a peer is left to the active account. -/
theorem backoff_windows_unbounded :
    ¬ ∀ (s s' : Daemon × World) (tr : List (Turn × Option PollLog)), s.1.Started →
      Runs (LoadedStep ((surroundings 0).under Elapses)) s tr s' →
      ∀ i until', s'.1.active = some i → s'.1.windows i = (some until', none) →
        until' ≤ s'.2.clock + activePollBackoffCap := by
  intro hclaim
  have hrefines := calmly_refines 0
  have hunique := sampleDaemon_started.loaded
  have hunique₁ : UniqueUuids throttledOnce.2.1.roster := by
    rw [show throttledOnce.2.1.roster = _ from roster_rehearse hrefines]
    exact hunique
  have hunique₂ : UniqueUuids throttledTwice.2.1.roster := by
    rw [show throttledTwice.2.1.roster = _ from roster_rehearse hrefines]
    exact hunique₁
  have hclock : throttledTwice.2.2.clock = 0 := by decide +kernel
  have hrun₁ := runs_rehearse (sampleDaemon, sampleWorld ⟨[1]⟩ "A") _ _ .refl hrefines hunique
    (le_refl (sampleWorld ⟨[1]⟩ "A").clock)
  have hrun₂ := runs_rehearse _ throttledOnce.2 _ hrun₁ hrefines hunique₁
    (le_refl throttledOnce.2.2.clock)
  have hrun₃ := runs_rehearse _ throttledTwice.2 (sampleWorld ⟨[2]⟩ "B") hrun₂ hrefines hunique₂
    hclock.le
  have hactive : loginTick.2.1.active = some 1 := by decide +kernel
  have hwindow : loginTick.2.1.windows 1 = (some (secs 600), none) := by decide +kernel
  have hlate : ¬ secs 600 ≤ loginTick.2.2.clock + activePollBackoffCap := by decide +kernel
  exact hlate (hclaim _ _ _ sampleDaemon_started hrun₃ 1 _ hactive hwindow)

/-- The tick that throttles the active account leaves it a window of its own cap. -/
theorem backoff_windows_bounded_throttled : throttledOnce.2.1.active = some 0 ∧
    throttledOnce.2.1.windows 0 = (some (secs 120), none) ∧
    (∀ i until', throttledOnce.2.1.active = some i →
      throttledOnce.2.1.windows i = (some until', none) →
      until' ≤ throttledOnce.2.2.clock + activePollBackoffCap) := by
  have hstep : LoadedStep ((surroundings 0).under Elapses) (sampleDaemon, sampleWorld ⟨[1]⟩ "A")
      throttledOnce.1 throttledOnce.2 := by
    refine ⟨loggedStep_rehearse (calmly_refines 0) (le_refl (sampleWorld ⟨[1]⟩ "A").clock), ?_⟩
    rw [show throttledOnce.2.1.roster = _ from roster_rehearse (calmly_refines 0)]
    exact sampleDaemon_started.loaded
  have hlog : throttledOnce.1.2.isSome = true := by decide +kernel
  obtain ⟨x, hx⟩ := Option.isSome_iff_exists.mp hlog
  have hconsulted : throttledOnce.1.2.map (fun x => x.consulted.active) = some (some 0) := by
    decide +kernel
  have hfolded : throttledOnce.1.2.map (fun x => x.folded.active) = some (some 0) := by
    decide +kernel
  have hactive : throttledOnce.2.1.active = some 0 := by decide +kernel
  have hclock : throttledOnce.2.2.clock + pollBackoffCap ≤ instantMax := by decide +kernel
  have hwindow : throttledOnce.2.1.windows 0 = (some (secs 120), none) := by decide +kernel
  rw [hx] at hconsulted hfolded
  have hroles : RolesKept sampleDaemon throttledOnce.1.2 throttledOnce.2.1 throttledOnce.2.2.clock := by
    have hsame : ∀ d d' : Daemon, d.active = some 0 → d'.active = some 0 →
        Handover d d' throttledOnce.2.2.clock := by
      intro d d' hd hd'
      refine ⟨?_, ?_⟩
      · intro i until' hafter hbefore
        exact absurd (hd.trans (hd'.symm.trans hafter)) hbefore
      · intro i until' hbefore hafter
        exact absurd (hd'.trans (hd.symm.trans hbefore)) hafter
    rw [hx]
    exact ⟨hsame _ _ rfl (Option.some.inj hconsulted), hsame _ _ (Option.some.inj hfolded) hactive⟩
  have hbounded := backoff_windows_bounded 0 _ _ _ sampleDaemon_started (runs_single hstep) hclock
  exact ⟨hactive, hwindow, (hbounded.2.2.2 (runs_single ⟨hstep, hroles⟩)).1⟩

end Sample

end Sessiometer
