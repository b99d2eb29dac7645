import Sessiometer.Daemon.Config
import Sessiometer.Daemon.Moves
import Sessiometer.Daemon.Relief

/-! # The next swap

What the status shows as the next swap is computed apart from the tick, off the configured ceilings instead of the
drawn ones. Without jitter a tick that leaves an account leaves it for the account that was shown. -/

namespace Sessiometer

open Effects

inductive NoTargetCause where
  | session
  | weekly
deriving DecidableEq

inductive NextSwap where
  | target (to' : String) (reason : Option NextSwapReason)
  | noViableTarget (cause : Option NoTargetCause) (resetsAt : Option Int)
  | awaitingData
deriving DecidableEq

def NoTargetCause.swapReason : NoTargetCause → SwapReason
  | .session => .session
  | .weekly => .weekly

def SwapReason.noTargetCause : SwapReason → Option NoTargetCause
  | .session => some .session
  | .weekly => some .weekly
  | _ => none

namespace Daemon

variable (d : Daemon)

/-- The other accounts of a rotation away from an account. -/
def others (i : ℕ) : List ℕ :=
  (List.range d.roster.length).filter fun j => j ≠ i ∧ d.enabledMask j = true ∧ (d.accounts j).health.quarantined = false

def nextSwap (active : Option ℕ) (readings : ℕ → Option Usage) : Option NextSwap :=
  match active with
  | none => none
  | some i =>
    match pickTargetWithReasonRanked d.roster.length i readings d.enabledMask (some d.settings.targetMaxSessionUsage)
        (some d.settings.sessionCeilingBase) d.weeklyRotationLine d.selectionTiebreak with
    | some (target, reason) => some (.target (d.account target).label (some reason))
    | none =>
      let anyOtherEnabled := !(d.others i).isEmpty
      let allUnpolled := (d.others i).all fun j => (readings j).isNone
      if anyOtherEnabled && allUnpolled then some .awaitingData
      else
        let boundary := viabilityBoundary d.settings.sessionCeilingBase d.settings.targetMaxSessionUsage
          d.settings.weeklyCeilingBase
        let relief := allExhaustedRelief d.roster.length i readings d.enabledMask (some boundary.session) boundary.weekly
        some (.noViableTarget relief.1.noTargetCause relief.2.2)

/-- What a tick selects a target from under the ceilings that a strategy without jitter draws. -/
def ballot (i : ℕ) (readings : ℕ → Option Usage) : Ballot where
  n := d.roster.length
  active := i
  readings := readings
  enabled := d.enabledMask
  floor := some d.settings.targetMaxSessionUsage
  sessionCeiling := some (clamp d.settings.sessionCeilingStrategy.base sessionCeilingPctLo sessionCeilingPctHi / 100)
  weeklyCeiling := weeklyEffectiveCeiling
    (clamp d.settings.weeklyCeilingStrategy.base weeklyCeilingPctLo weeklyCeilingPctHi / 100)
  sel := d.selectionTiebreak

/-- The hint of a tick under those ceilings. -/
def relief (i : ℕ) (readings : ℕ → Option Usage) : SwapReason × ℕ × Option Int := (d.ballot i readings).relieving.hint

end Daemon

/-! ## Ceilings without jitter -/

theorem drawDownward_fixed {s : Strategy} (h : s.jitter = .none) (lo hi : ℚ) :
    s.drawDownward lo hi = pure (clamp s.base lo hi) := by
  unfold Strategy.drawDownward
  rw [h]

/-- The settings draw both ceilings without jitter, and have the configured ones as their bases. -/
structure Settings.JitterFree (s : Settings) : Prop where
  session : s.sessionCeilingStrategy.jitter = .none
  weekly : s.weeklyCeilingStrategy.jitter = .none
  sessionBase : s.sessionCeilingBase =
    clamp s.sessionCeilingStrategy.base sessionCeilingPctLo sessionCeilingPctHi / 100
  weeklyBase : s.weeklyCeilingBase =
    clamp s.weeklyCeilingStrategy.base weeklyCeilingPctLo weeklyCeilingPctHi / 100

theorem range_ok {field : String} {value lo hi : Int} {u : Unit} (h : range field value lo hi = .ok u) :
    lo ≤ value ∧ value ≤ hi := by
  unfold range at h
  by_cases hin : lo ≤ value ∧ value ≤ hi
  · exact hin
  · rw [if_neg hin] at h
    cases h

theorem bind_eq_ok {ε α β : Type} {x : Except ε α} {f : α → Except ε β} {b : β} (h : (x >>= f) = .ok b) :
    ∃ a, x = .ok a ∧ f a = .ok b := by
  cases x with
  | error e => cases h
  | ok a => exact ⟨a, rfl, h⟩

theorem clamp_int {value : Int} (hlo : 50 ≤ value) (hhi : value ≤ 99) :
    ((value.toNat : ℕ) : ℚ) / 100 = clamp value 50 99 / 100 := by
  have hcast : ((value.toNat : ℕ) : ℚ) = value := by
    have hnat : ((value.toNat : ℕ) : Int) = value := Int.toNat_of_nonneg (by omega)
    exact_mod_cast congrArg (Int.cast : Int → ℚ) hnat
  have hlo' : (50 : ℚ) ≤ value := by exact_mod_cast hlo
  have hhi' : (value : ℚ) ≤ 99 := by exact_mod_cast hhi
  unfold clamp
  rw [hcast, max_eq_left hlo', min_eq_left hhi']

/-- An admitted configuration without jitter on its ceilings. -/
theorem validate_jitterFree {raw : RawTunables} {jitter : RawJitter} {t : Tunables} (h : validate raw jitter = .ok t)
    (hsession : t.sessionCeilingStrategy.jitter = .none) (hweekly : t.weeklyCeilingStrategy.jitter = .none) :
    (Settings.new t).JitterFree := by
  unfold validate at h
  obtain ⟨_, hs, hrest⟩ := bind_eq_ok h
  obtain ⟨_, hw, hrest⟩ := bind_eq_ok hrest
  clear h
  iterate 5 obtain ⟨_, -, hrest⟩ := bind_eq_ok hrest
  obtain ⟨_, -, hrest⟩ := bind_eq_ok hrest
  obtain ⟨_, -, hrest⟩ := bind_eq_ok hrest
  dsimp only at hrest
  -- the two polling checks and the runway bound
  iterate 3
    split at hrest
    · cases hrest
  iterate 7 obtain ⟨_, -, hrest⟩ := bind_eq_ok hrest
  have ht := Except.ok.inj hrest
  obtain ⟨hs₁, hs₂⟩ := range_ok hs
  obtain ⟨hw₁, hw₂⟩ := range_ok hw
  subst ht
  constructor
  · exact hsession
  · exact hweekly
  · exact clamp_int hs₁ hs₂
  · exact clamp_int hw₁ hw₂

/-! ## What a decision reports -/

def Event.exhaustion : Event → Option (SwapReason × Option Int)
  | .allExhausted _ cause resetsAt => some (cause, resetsAt)
  | _ => none

/-- The all-exhausted events that have been pushed, by cause and reset. -/
def Daemon.exhaustions (d : Daemon) : List (SwapReason × Option Int) := d.events.filterMap Event.exhaustion

theorem exhaustions_edges (d : Daemon) : d.exhaustions = (d.events.filter Event.isEdge).filterMap Event.exhaustion := by
  unfold Daemon.exhaustions
  rw [List.filterMap_filter]
  congr 1
  funext e
  cases e <;> rfl

theorem exhaustions_of_latches {d d' : Daemon} (h : d'.latches = d.latches) : d'.exhaustions = d.exhaustions := by
  rw [exhaustions_edges, exhaustions_edges, Daemon.edges_of_latches h]

/-- The method reports no exhaustion. -/
def Unreported {α : Type} (m : DaemonM α) : Prop := Keeps (fun d d' => d'.exhaustions = d.exhaustions) m

/-- What a decision about account `i` comes to: it leaves for the target of the selection, or finds none and may
report the hint. -/
structure Decided (d : Daemon) (i : ℕ) (target : Option ℕ) (relief : SwapReason × ℕ × Option Int)
    (r : TickAction × Daemon) : Prop where
  leaves : ∀ i' j, r.1 = .swapped i' j ∨ r.1 = .velocityPreemptivelySwapped i' j → i' = i ∧ target = some j
  exhausted : r.1 = .noViableTarget → target = none
  reports : r.2.exhaustions = d.exhaustions ∨
    r.2.exhaustions = d.exhaustions ++ [(relief.1, relief.2.2)] ∧ target = none

/-- Neither an arm that leaves an account it can read nor a terminal one. -/
def TickAction.Aside (a : TickAction) : Prop :=
  (∀ i j, a ≠ .swapped i j) ∧ (∀ i j, a ≠ .velocityPreemptivelySwapped i j) ∧ a ≠ .noViableTarget

section Decisions

variable {α β : Type} {d e : Daemon} {i : ℕ} {target : Option ℕ} {relief : SwapReason × ℕ × Option Int}
  {readings : ℕ → Option Usage} {at' : Nanos}

theorem Idles.unreported {m : DaemonM α} (h : Idles m) : Unreported m :=
  Keeps.mono h fun _ _ hl => exhaustions_of_latches hl

theorem unreported_recordSwap (target : ℕ) (incoming : String) (at' : Nanos) :
    Unreported (recordSwap target incoming at') := by
  intro d
  apply (returns_recordSwap target incoming at').mono
  rintro ⟨u, e⟩ he
  have hrecorded : (d.swapRecorded target at').exhaustions = d.exhaustions := rfl
  exact (exhaustions_of_latches he).trans hrecorded

/-- A step that reports nothing leaves the rest to prove. -/
theorem returns_unreported_bind {P : β × Daemon → Prop} {m : DaemonM α} {f : α → DaemonM β} (hm : Unreported m)
    (he : e.exhaustions = d.exhaustions)
    (hf : ∀ a e', e'.exhaustions = d.exhaustions → Returns P ((f a).run e')) : Returns P ((m >>= f).run e) := by
  rw [returns_state_bind]
  apply (hm e).mono
  rintro ⟨a, e'⟩ he'
  exact hf a e' (he'.trans he)

theorem returns_unreported_modify {P : β × Daemon → Prop} {g : Daemon → Daemon} {f : PUnit → DaemonM β}
    (he : e.exhaustions = d.exhaustions) (hg : (g e).exhaustions = e.exhaustions)
    (hf : ∀ e', e'.exhaustions = d.exhaustions → Returns P ((f ⟨⟩).run e')) :
    Returns P ((modify g >>= f).run e) := by
  rw [returns_state_bind, returns_modify]
  exact hf (g e) (hg.trans he)

theorem decided_aside {a : TickAction} (ha : a.Aside) (he : e.exhaustions = d.exhaustions) :
    Returns (Decided d i target relief) ((pure a : DaemonM TickAction).run e) := by
  obtain ⟨hswapped, hprojected, hterminal⟩ := ha
  constructor
  · rintro i' j (h | h)
    · exact absurd h (hswapped i' j)
    · exact absurd h (hprojected i' j)
  · intro h
    exact absurd h hterminal
  · exact .inl he

theorem decided_left {a : TickAction} {j : ℕ} (ha : a = .swapped i j ∨ a = .velocityPreemptivelySwapped i j)
    (htarget : target = some j) (he : e.exhaustions = d.exhaustions) :
    Returns (Decided d i target relief) ((pure a : DaemonM TickAction).run e) := by
  constructor
  · intro i' j' h
    have hsame : i' = i ∧ j' = j := by
      rcases ha with rfl | rfl
      · simpa [eq_comm] using h
      · simpa [eq_comm] using h
    obtain ⟨rfl, rfl⟩ := hsame
    exact ⟨rfl, htarget⟩
  · intro h
    rcases ha with rfl | rfl
    · cases h
    · cases h
  · exact .inl he

theorem aside_held : TickAction.Aside .held := by
  unfold TickAction.Aside
  simp

theorem aside_swapFailed : TickAction.Aside .swapFailed := by
  unfold TickAction.Aside
  simp

theorem aside_skippedCooldown : TickAction.Aside .skippedCooldown := by
  unfold TickAction.Aside
  simp

theorem aside_skippedActiveUnavailable : TickAction.Aside .skippedActiveUnavailable := by
  unfold TickAction.Aside
  simp

variable [SerdeJson]

theorem unreported_lockedSwap (outgoing incoming : String) : Unreported (lockedSwap outgoing incoming false) :=
  (idles_lockedSwap outgoing incoming false).unreported

theorem decided_emergencySwap : Returns (Decided d i target relief) ((emergencySwap at' i readings).run d) := by
  unfold emergencySwap
  rw [returns_state_bind, returns_get]
  apply returns_unreported_bind (idles_draw _ _ _).unreported rfl
  intro drawn e he
  dsimp only
  split
  · split
    · apply decided_aside (by simp [TickAction.Aside])
      have hemitted : (e.emit (.activeDeadNoTarget (d.account i).label
          (allExhaustedRelief d.roster.length i readings d.enabledMask none (drawn / 100)).1
          (allExhaustedRelief d.roster.length i readings d.enabledMask none (drawn / 100)).2.2)).exhaustions =
          e.exhaustions := by
        simp [Daemon.emit, Daemon.exhaustions, Event.exhaustion]
      exact hemitted.trans he
    · exact decided_aside (by simp [TickAction.Aside]) he
  · apply returns_unreported_bind (unreported_lockedSwap _ _) he
    intro r e₁ he₁
    cases r with
    | error err => exact decided_aside aside_swapFailed he₁
    | ok report =>
      apply returns_unreported_bind (unreported_recordSwap _ _ _) he₁
      intro _ e₂ he₂
      apply returns_unreported_bind (idles_emit rfl).unreported he₂
      intro _ e₃ he₃
      exact decided_aside (by simp [TickAction.Aside]) he₃

theorem decided_performBlindSwap (target' : ℕ) (anchor : LastGood) (retryAfter : Option Nanos)
    (he : e.exhaustions = d.exhaustions) :
    Returns (Decided d i target relief) ((performBlindSwap at' i target' anchor retryAfter).run e) := by
  unfold performBlindSwap
  rw [returns_state_bind, returns_get]
  apply returns_unreported_bind (unreported_lockedSwap _ _) he
  intro r e₁ he₁
  cases r with
  | error err => exact decided_aside aside_swapFailed he₁
  | ok report =>
    apply returns_unreported_bind (unreported_recordSwap _ _ _) he₁
    intro _ e₂ he₂
    apply returns_unreported_bind (idles_emit rfl).unreported he₂
    intro _ e₃ he₃
    apply returns_unreported_modify he₃ rfl
    intro e₄ he₄
    split
    · apply returns_unreported_modify he₄ rfl
      intro e₅ he₅
      exact decided_aside (by simp [TickAction.Aside]) he₅
    · exact decided_aside (by simp [TickAction.Aside]) he₄

theorem decided_blindSwap : Returns (Decided d i target relief) ((blindSwap at' i readings).run d) := by
  unfold blindSwap
  rw [returns_state_bind, returns_get]
  split
  · exact decided_aside aside_skippedActiveUnavailable rfl
  · split
    · exact decided_aside aside_skippedActiveUnavailable rfl
    · split
      · exact decided_aside aside_skippedActiveUnavailable rfl
      · apply returns_unreported_bind idles_drawCooldown.unreported rfl
        intro cooldown e he
        split
        · exact decided_aside aside_skippedCooldown he
        · apply returns_unreported_bind (idles_walkBreaker _ _ _).unreported he
          intro walk e₁ he₁
          split
          · exact decided_aside aside_skippedActiveUnavailable he₁
          · split
            · exact decided_aside aside_skippedActiveUnavailable he₁
            · apply returns_unreported_bind (idles_reserveBreaker _ _ _ _).unreported he₁
              intro reserve e₂ he₂
              split
              · exact decided_aside aside_skippedActiveUnavailable he₂
              · exact decided_performBlindSwap _ _ _ he₂

/-- An arm that can read the account leaves it for the target of its selection. -/
theorem decided_velocitySwap {sessionCeiling weeklyThreshold : ℚ} (he : e.exhaustions = d.exhaustions)
    (htarget : target = e.pickRanked i readings (some e.settings.targetMaxSessionUsage) (some sessionCeiling)
      weeklyThreshold) :
    Returns (Decided d i target relief) ((velocitySwap at' i sessionCeiling weeklyThreshold readings).run e) := by
  unfold velocitySwap
  rw [returns_state_bind, returns_get]
  dsimp only
  split
  · exact decided_aside aside_held he
  · split
    · split
      · exact decided_aside aside_held he
      · split
        · exact decided_aside aside_held he
        · split
          · exact decided_aside aside_held he
          · apply returns_unreported_bind idles_drawCooldown.unreported he
            intro cooldown e₁ he₁
            split
            · exact decided_aside aside_skippedCooldown he₁
            · split
              · exact decided_aside aside_held he₁
              · next j hpick =>
                apply returns_unreported_bind (unreported_lockedSwap _ _) he₁
                intro r e₂ he₂
                cases r with
                | error err => exact decided_aside aside_swapFailed he₂
                | ok report =>
                  apply returns_unreported_bind (unreported_recordSwap _ _ _) he₂
                  intro _ e₃ he₃
                  apply returns_unreported_bind (idles_emit rfl).unreported he₃
                  intro _ e₄ he₄
                  exact decided_left (.inr rfl) (htarget.trans hpick) he₄
    · exact decided_aside aside_held he

/-- The reactive arm reports the hint under its own lines when the selection finds nothing. -/
theorem decided_reactiveSwap {usage : Usage} {sessionCeiling weeklyCeiling : ℚ} (he : e.exhaustions = d.exhaustions)
    (htarget : target = e.pickRanked i readings (some e.settings.targetMaxSessionUsage) (some sessionCeiling)
      (weeklyEffectiveCeiling weeklyCeiling))
    (hrelief : relief = allExhaustedRelief e.roster.length i readings e.enabledMask
      (some (viabilityBoundary sessionCeiling e.settings.targetMaxSessionUsage weeklyCeiling).session)
      (weeklyEffectiveCeiling weeklyCeiling)) :
    Returns (Decided d i target relief) ((reactiveSwap at' i usage sessionCeiling weeklyCeiling readings).run e) := by
  unfold reactiveSwap
  rw [returns_state_bind, returns_get]
  dsimp only
  split
  · exact decided_aside aside_held he
  · apply returns_unreported_bind idles_drawCooldown.unreported he
    intro cooldown e₁ he₁
    split
    · exact decided_aside aside_skippedCooldown he₁
    · split
      · next hpick =>
        have hnone : target = none := htarget.trans hpick
        split
        · constructor
          · rintro i' j (h | h)
            · cases h
            · cases h
          · exact fun _ => hnone
          · right
            refine ⟨?_, hnone⟩
            rw [← he₁, hrelief]
            simp [Daemon.emit, Daemon.exhaustions, Event.exhaustion, viabilityBoundary]
        · constructor
          · rintro i' j (h | h)
            · cases h
            · cases h
          · exact fun _ => hnone
          · exact .inl he₁
      · next j hpick =>
        apply returns_unreported_bind (unreported_lockedSwap _ _) he₁
        intro r e₂ he₂
        cases r with
        | error err => exact decided_aside aside_swapFailed he₂
        | ok report =>
          apply returns_unreported_bind (unreported_recordSwap _ _ _) he₂
          intro _ e₃ he₃
          apply returns_unreported_bind (idles_emit rfl).unreported he₃
          intro _ e₄ he₄
          split
          · apply returns_unreported_modify he₄ rfl
            intro e₅ he₅
            exact decided_left (.inl rfl) (htarget.trans hpick) he₅
          · exact decided_left (.inl rfl) (htarget.trans hpick) he₄

/-- Without jitter a decision selects by the ballot. -/
theorem decided_decideAction (hfree : d.settings.JitterFree) :
    Returns (Decided d i ((d.ballot i readings).pick.map (·.1)) (d.relief i readings))
      ((decideAction at' (some i) readings).run d) := by
  unfold decideAction
  dsimp only
  rw [returns_state_bind, returns_get]
  split
  · split
    · exact decided_emergencySwap
    · exact decided_aside aside_held rfl
  · split
    · exact decided_blindSwap
    · rw [returns_state_bind, returns_modify, drawDownward_fixed hfree.session, drawDownward_fixed hfree.weekly,
        pure_bind, pure_bind]
      unfold decideReadable
      rw [returns_state_bind, returns_get]
      dsimp only
      split
      · exact decided_velocitySwap rfl rfl
      · exact decided_reactiveSwap rfl rfl rfl

end Decisions

/-! ## What was shown -/

section Shown

variable {d : Daemon} {i : ℕ} {readings : ℕ → Option Usage}

theorem shown_pick (hfree : d.settings.JitterFree) :
    pickTargetWithReasonRanked d.roster.length i readings d.enabledMask (some d.settings.targetMaxSessionUsage)
      (some d.settings.sessionCeilingBase) d.weeklyRotationLine d.selectionTiebreak = (d.ballot i readings).pick := by
  unfold Daemon.weeklyRotationLine
  rw [hfree.sessionBase, hfree.weeklyBase]
  rfl

theorem shown_relief (hfree : d.settings.JitterFree) :
    allExhaustedRelief d.roster.length i readings d.enabledMask
      (some (viabilityBoundary d.settings.sessionCeilingBase d.settings.targetMaxSessionUsage
        d.settings.weeklyCeilingBase).session)
      (viabilityBoundary d.settings.sessionCeilingBase d.settings.targetMaxSessionUsage
        d.settings.weeklyCeilingBase).weekly = d.relief i readings := by
  rw [hfree.sessionBase, hfree.weeklyBase]
  rfl

theorem nextSwap_target {j : ℕ} {why : NextSwapReason} (hfree : d.settings.JitterFree)
    (h : (d.ballot i readings).pick = some (j, why)) :
    d.nextSwap (some i) readings = some (.target (d.account j).label (some why)) := by
  unfold Daemon.nextSwap
  dsimp only
  rw [shown_pick hfree, h]

theorem awaiting_iff : ((!(d.others i).isEmpty) && (d.others i).all fun j => (readings j).isNone) = true ↔
    (∃ j, j ∈ d.others i) ∧ ∀ j ∈ d.others i, readings j = none := by
  rw [Bool.and_eq_true, Bool.not_eq_true', List.all_eq_true]
  simp only [Option.isNone_iff_eq_none]
  rw [← Bool.not_eq_true, List.isEmpty_iff, List.eq_nil_iff_forall_not_mem]
  push Not
  rfl

/-- Without a target the status waits for data or shows the hint. -/
theorem nextSwap_none (hfree : d.settings.JitterFree) (h : (d.ballot i readings).pick = none) :
    d.nextSwap (some i) readings =
      if ((!(d.others i).isEmpty) && (d.others i).all fun j => (readings j).isNone) = true then some .awaitingData
      else some (.noViableTarget (d.relief i readings).1.noTargetCause (d.relief i readings).2.2) := by
  unfold Daemon.nextSwap
  dsimp only
  rw [shown_pick hfree, h]
  dsimp only
  rw [shown_relief hfree]

/-- A hint names one of the two windows. -/
theorem hint_cause (r : Relieving) : ∃ cause : NoTargetCause, r.hint.1 = cause.swapReason := by
  by_cases hreturns : ∃ i at' cause, r.Returns i at' cause
  · obtain ⟨i, at', cause, hi⟩ := hreturns
    obtain ⟨j, at'', cause', hhint, ⟨usage, -, -, -, hcause⟩, -⟩ := hint_of_returns hi
    rw [hhint]
    rcases hcause with ⟨rfl, -⟩ | ⟨rfl, -⟩
    · exact ⟨.weekly, rfl⟩
    · exact ⟨.session, rfl⟩
  · push Not at hreturns
    by_cases hblocked : ∃ i usage, r.Blocked i usage
    · obtain ⟨i, usage, hi⟩ := hblocked
      obtain ⟨j, usage', cause, hhint, -, -, hcause⟩ := hint_of_blocked hreturns hi
      rw [hhint]
      rcases hcause with ⟨rfl, -⟩ | ⟨rfl, -⟩
      · exact ⟨.weekly, rfl⟩
      · exact ⟨.session, rfl⟩
    · push Not at hblocked
      rw [hint_of_unblocked hblocked]
      exact ⟨.weekly, rfl⟩

theorem noTargetCause_swapReason (cause : NoTargetCause) : cause.swapReason.noTargetCause = some cause := by
  cases cause <;> rfl

/-- Without a target the status shows none, and a hint that it shows is the daemon's. -/
theorem nextSwap_untargeted (hfree : d.settings.JitterFree) (h : (d.ballot i readings).pick = none) :
    (∀ to' why, d.nextSwap (some i) readings ≠ some (.target to' why)) ∧
    ∀ cause resetsAt, d.nextSwap (some i) readings = some (.noViableTarget cause resetsAt) →
      ∃ c : NoTargetCause, cause = some c ∧ (d.relief i readings).1 = c.swapReason ∧
        resetsAt = (d.relief i readings).2.2 := by
  rw [nextSwap_none hfree h]
  split
  · exact ⟨fun to' why => by simp, fun cause resetsAt => by simp⟩
  · refine ⟨fun to' why => by simp, ?_⟩
    intro cause resetsAt hshown
    obtain ⟨c, hc⟩ := hint_cause (d.ballot i readings).relieving
    have hrelief : (d.relief i readings).1 = c.swapReason := hc
    have hinj := NextSwap.noViableTarget.inj (Option.some.inj hshown)
    refine ⟨c, ?_, hrelief, hinj.2.symm⟩
    rw [← hinj.1, hrelief, noTargetCause_swapReason]

theorem nextSwap_awaiting (hfree : d.settings.JitterFree) : d.nextSwap (some i) readings = some .awaitingData ↔
    (∃ j, j ∈ d.others i) ∧ (∀ j ∈ d.others i, readings j = none) ∧
      ∀ j usage, ¬ (d.ballot i readings).Viable j usage := by
  rw [← pick_eq_none]
  cases hpick : (d.ballot i readings).pick with
  | some p =>
    obtain ⟨j, why⟩ := p
    rw [nextSwap_target hfree hpick]
    simp
  | none =>
    rw [nextSwap_none hfree hpick, ← and_assoc, ← awaiting_iff]
    by_cases hwait : ((!(d.others i).isEmpty) && (d.others i).all fun j => (readings j).isNone) = true
    · rw [if_pos hwait]
      simp only [hwait, and_self]
    · rw [if_neg hwait]
      simp [hwait]

end Shown

/-- Without jitter the next swap that is shown is the one the next decision makes, and the hint that is shown is the
one it reports. -/
theorem preview_agrees [SerdeJson] {d : Daemon} (hfree : d.settings.JitterFree) (active : Option ℕ)
    (readings : ℕ → Option Usage) :
    (∀ pid at' w action d' w',
      Exec (surroundings pid) ((decideAction at' active readings).run d) w (action, d') w' →
      (∀ i j, action = .swapped i j ∨ action = .velocityPreemptivelySwapped i j → active = some i ∧
        ∃ why, (d.ballot i readings).pick = some (j, why) ∧
          d.nextSwap active readings = some (.target (d.account j).label (some why))) ∧
      (action = .noViableTarget → ∀ to' why, d.nextSwap active readings ≠ some (.target to' why)) ∧
      ∃ reported, d'.exhaustions = d.exhaustions ++ reported ∧ ∀ cause resetsAt, (cause, resetsAt) ∈ reported →
        (∀ to' why, d.nextSwap active readings ≠ some (.target to' why)) ∧
        ∀ cause' resetsAt', d.nextSwap active readings = some (.noViableTarget cause' resetsAt') →
          ∃ c : NoTargetCause, cause' = some c ∧ cause = c.swapReason ∧ resetsAt' = resetsAt) ∧
    (d.nextSwap active readings = some .awaitingData ↔ ∃ i, active = some i ∧ (∃ j, j ∈ d.others i) ∧
      (∀ j ∈ d.others i, readings j = none) ∧ ∀ j usage, ¬ (d.ballot i readings).Viable j usage) := by
  cases active with
  | none =>
    refine ⟨?_, by simp [Daemon.nextSwap]⟩
    intro pid at' w action d' w' he
    obtain ⟨hr, -⟩ := exec_pure_iff.mp he
    cases hr
    exact ⟨by simp, by simp, [], by simp, by simp⟩
  | some i =>
    refine ⟨?_, ?_⟩
    · intro pid at' w action d' w' he
      have hdecided : Decided d i ((d.ballot i readings).pick.map (·.1)) (d.relief i readings)
          (action, d') := (decided_decideAction hfree).exec he
      refine ⟨?_, ?_, ?_⟩
      · intro i' j haction
        obtain ⟨rfl, hpick⟩ := hdecided.leaves i' j haction
        obtain ⟨⟨j', why⟩, hranked, rfl⟩ := Option.map_eq_some_iff.mp hpick
        exact ⟨rfl, why, hranked, nextSwap_target hfree hranked⟩
      · intro haction
        have hpick := Option.map_eq_none_iff.mp (hdecided.exhausted haction)
        exact (nextSwap_untargeted hfree hpick).1
      · rcases hdecided.reports with hsame | ⟨hreport, hnone⟩
        · exact ⟨[], by simpa using hsame, by simp⟩
        · have hpick := Option.map_eq_none_iff.mp hnone
          obtain ⟨huntargeted, hhint⟩ := nextSwap_untargeted hfree hpick
          refine ⟨_, hreport, ?_⟩
          intro cause resetsAt hmem
          obtain ⟨rfl, rfl⟩ := Prod.mk.inj (List.mem_singleton.mp hmem)
          exact ⟨huntargeted, hhint⟩
    · rw [nextSwap_awaiting hfree]
      simp

section Pair

local instance previewJson : SerdeJson := sampleJson

theorem default_jitterFree : (Settings.new Tunables.default').JitterFree :=
  validate_jitterFree validate_default rfl rfl

/-- An account at its ceiling is left for its only peer, and that is what was shown. -/
theorem preview_agrees_pair : ∃ action d' w',
    Exec (surroundings 0) ((decideAction 0 (some 0) (pairReadings (96 / 100) (50 / 100))).run
      (pairDaemon (Settings.new Tunables.default'))) pairWorld (action, d') w' ∧ action = .swapped 0 1 ∧
    ∃ why, (pairDaemon (Settings.new Tunables.default')).nextSwap (some 0) (pairReadings (96 / 100) (50 / 100)) =
      some (.target "B" (some why)) := by
  have hreaches : Reaches (surroundings 0) ((decideAction 0 (some 0) (pairReadings (96 / 100) (50 / 100))).run
      (pairDaemon (Settings.new Tunables.default'))) pairWorld (fun r _ => r.1 = .swapped 0 1) :=
    ⟨_, _, exec_of_run (calmly_refines 0) _ _, by decide +kernel⟩
  obtain ⟨⟨action, d'⟩, w', he, haction⟩ := hreaches
  have hfree : (pairDaemon (Settings.new Tunables.default')).settings.JitterFree := default_jitterFree
  obtain ⟨hruns, -⟩ := preview_agrees hfree (some 0) (pairReadings (96 / 100) (50 / 100))
  obtain ⟨hleaves, -⟩ := hruns 0 0 pairWorld action d' w' he
  obtain ⟨-, why, -, hshown⟩ := hleaves 0 1 (.inl haction)
  exact ⟨action, d', w', he, haction, why, hshown⟩

end Pair

end Sessiometer
