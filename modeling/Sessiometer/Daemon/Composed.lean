import Mathlib.Tactic.Linarith
import Mathlib.Algebra.Order.Ring.Unbundled.Rat
import Sessiometer.Daemon.Swaps

/-! # The composed trigger

The reactive arm and the projection guard different windows; together they fire on one line, the effective ceiling
brought forward over the larger of the two. -/

namespace Sessiometer

/-- No lower, where a missing value is below every other. -/
def Up (x y : Option ℚ) : Prop := ∀ v, x = some v → ∃ w, y = some w ∧ v ≤ w

namespace Daemon

variable (d : Daemon) (i : ℕ)

def velocity : Option ℚ := (d.accounts i).sustainedSessionVelocity.map (·.rate)

/-- The reactive arm decides to leave. -/
def Reacts (usage : Usage) (sessionCeiling weeklyCeiling : ℚ) : Prop :=
  usage.decide (d.sessionThreshold i sessionCeiling)
    (viabilityBoundary sessionCeiling d.settings.targetMaxSessionUsage weeklyCeiling).weekly = .swap

instance (usage : Usage) (sessionCeiling weeklyCeiling : ℚ) : Decidable (d.Reacts i usage sessionCeiling weeklyCeiling) :=
  inferInstanceAs (Decidable (_ = _))

/-- The guards of the projection pass: it is on, the velocity is sustained, the session is near the limit and
projected to the effective ceiling. -/
def Projects (usage : Usage) (sessionCeiling : ℚ) : Prop :=
  d.settings.sessionVelocityHorizonSecs ≠ 0 ∧ ∃ session, usage.session = some session ∧ ∃ rate, d.velocity i = some rate ∧
    d.settings.sessionVelocityMinProjectAbove ≤ session ∧
    effectiveCeiling sessionCeiling ≤ session + rate * d.settings.sessionVelocityHorizonSecs

def Fires (usage : Usage) (sessionCeiling weeklyCeiling : ℚ) : Prop :=
  d.Reacts i usage sessionCeiling weeklyCeiling ∨ d.Projects i usage sessionCeiling

/-- The window that one of the arms looks ahead over. -/
def lookahead : ℚ := composedSwapLookaheadSecs d.settings.nearLimitPollSecs d.settings.sessionVelocityHorizonSecs

end Daemon

/-- A reading and a configuration that are nowhere lower; fast polling stays on or off. -/
structure Raises (i : ℕ) (d d' : Daemon) (usage usage' : Usage) : Prop where
  session : Up usage.session usage'.session
  weekly : Up usage.weekly usage'.weekly
  velocity : Up (d.velocity i) (d'.velocity i)
  climbs : ∀ rate, d'.velocity i = some rate → 0 ≤ rate
  nearLimit : d.settings.nearLimitPollSecs = d'.settings.nearLimitPollSecs ∨
    0 < d.settings.nearLimitPollSecs ∧ d.settings.nearLimitPollSecs ≤ d'.settings.nearLimitPollSecs
  horizon : d.settings.sessionVelocityHorizonSecs ≤ d'.settings.sessionVelocityHorizonSecs
  minProjectAbove : d'.settings.sessionVelocityMinProjectAbove = d.settings.sessionVelocityMinProjectAbove

section Lines

variable {d d' : Daemon} {i : ℕ} {usage usage' : Usage} {sessionCeiling weeklyCeiling : ℚ}

theorem atLeast_iff {x : Option ℚ} {line : ℚ} : atLeast x line = true ↔ ∃ v, x = some v ∧ line ≤ v := by
  unfold atLeast
  cases x with
  | none => simp
  | some v => simp

theorem decide_swap {sessionThreshold weeklyThreshold : ℚ} : usage.decide sessionThreshold weeklyThreshold = .swap ↔
    (∃ s, usage.session = some s ∧ sessionThreshold ≤ s) ∨ ∃ w, usage.weekly = some w ∧ weeklyThreshold ≤ w := by
  rw [← atLeast_iff, ← atLeast_iff]
  unfold Usage.decide
  by_cases hover : (atLeast usage.session sessionThreshold || atLeast usage.weekly weeklyThreshold) = true
  · rw [if_pos hover]
    rw [Bool.or_eq_true] at hover
    simp [hover]
  · rw [if_neg hover]
    rw [Bool.or_eq_true] at hover
    simp [hover]

theorem reacts_iff : d.Reacts i usage sessionCeiling weeklyCeiling ↔
    (∃ s, usage.session = some s ∧ effectiveCeiling sessionCeiling -
      (d.velocity i).getD 0 * reactivePollGapSecs d.settings.nearLimitPollSecs ≤ s) ∨
    ∃ w, usage.weekly = some w ∧ weeklyEffectiveCeiling weeklyCeiling ≤ w := decide_swap

theorem reactivePollGapSecs_nonneg (n : ℕ) : 0 ≤ reactivePollGapSecs n := by
  unfold reactivePollGapSecs
  by_cases hoff : n = 0
  · rw [if_pos hoff]
  · rw [if_neg hoff]
    apply le_max_of_le_right
    norm_num [reactiveReobservationGapSecs]

theorem reactivePollGapSecs_mono {n m : ℕ} (h : n = m ∨ 0 < n ∧ n ≤ m) :
    reactivePollGapSecs n ≤ reactivePollGapSecs m := by
  rcases h with rfl | ⟨hpos, hle⟩
  · exact le_rfl
  · have hn : n ≠ 0 := by omega
    have hm : m ≠ 0 := by omega
    have hcast : (n : ℚ) ≤ m := by exact_mod_cast hle
    unfold reactivePollGapSecs
    rw [if_neg hn, if_neg hm]
    apply max_le_max_right
    linarith

/-- With a sustained velocity and a session that the projection looks at, one line decides. -/
theorem fires_iff {rate : ℚ} (hrate : d.velocity i = some rate) (hclimbs : 0 ≤ rate)
    (habove : ∀ s, usage.session = some s → d.settings.sessionVelocityMinProjectAbove ≤ s) :
    d.Fires i usage sessionCeiling weeklyCeiling ↔
      (∃ w, usage.weekly = some w ∧ weeklyEffectiveCeiling weeklyCeiling ≤ w) ∨
      ∃ s, usage.session = some s ∧ effectiveCeiling sessionCeiling - rate * d.lookahead ≤ s := by
  have hgap := mul_le_mul_of_nonneg_left
    (le_max_left (reactivePollGapSecs d.settings.nearLimitPollSecs) (d.settings.sessionVelocityHorizonSecs : ℚ)) hclimbs
  have hhorizon := mul_le_mul_of_nonneg_left
    (le_max_right (reactivePollGapSecs d.settings.nearLimitPollSecs) (d.settings.sessionVelocityHorizonSecs : ℚ)) hclimbs
  unfold Daemon.Fires Daemon.lookahead composedSwapLookaheadSecs
  rw [reacts_iff, hrate, Option.getD_some]
  constructor
  · rintro ((⟨s, hs, hle⟩ | hweekly) | ⟨-, s, hs, rate', hrate', -, hle⟩)
    · exact .inr ⟨s, hs, by linarith⟩
    · exact .inl hweekly
    · rw [hrate] at hrate'
      rw [← Option.some.inj hrate'] at hle
      exact .inr ⟨s, hs, by linarith⟩
  · rintro (hweekly | ⟨s, hs, hle⟩)
    · exact .inl (.inr hweekly)
    · by_cases hlarger : (d.settings.sessionVelocityHorizonSecs : ℚ) ≤ reactivePollGapSecs d.settings.nearLimitPollSecs
      · rw [max_eq_left hlarger] at hle
        exact .inl (.inl ⟨s, hs, hle⟩)
      · rw [max_eq_right (le_of_not_ge hlarger)] at hle
        have hon : d.settings.sessionVelocityHorizonSecs ≠ 0 := by
          intro hoff
          apply hlarger
          rw [hoff]
          exact_mod_cast reactivePollGapSecs_nonneg _
        exact .inr ⟨hon, s, hs, rate, hrate, habove s hs, by linarith⟩

/-- The climb over the reactive gap is no lower. -/
theorem Raises.climb_le (h : Raises i d d' usage usage') :
    (d.velocity i).getD 0 * reactivePollGapSecs d.settings.nearLimitPollSecs ≤
      (d'.velocity i).getD 0 * reactivePollGapSecs d'.settings.nearLimitPollSecs := by
  have hgap := reactivePollGapSecs_mono h.nearLimit
  have hgap₀ := reactivePollGapSecs_nonneg d.settings.nearLimitPollSecs
  have hgap₁ := reactivePollGapSecs_nonneg d'.settings.nearLimitPollSecs
  cases hrate : d.velocity i with
  | none =>
    have hclimbs : 0 ≤ (d'.velocity i).getD 0 := by
      cases hrate' : d'.velocity i with
      | none => exact le_rfl
      | some rate' => exact h.climbs rate' hrate'
    rw [Option.getD_none, zero_mul]
    exact mul_nonneg hclimbs hgap₁
  | some rate =>
    obtain ⟨rate', hrate', hle⟩ := h.velocity rate hrate
    rw [hrate', Option.getD_some, Option.getD_some]
    calc rate * reactivePollGapSecs d.settings.nearLimitPollSecs
        ≤ rate' * reactivePollGapSecs d.settings.nearLimitPollSecs := mul_le_mul_of_nonneg_right hle hgap₀
      _ ≤ rate' * reactivePollGapSecs d'.settings.nearLimitPollSecs :=
          mul_le_mul_of_nonneg_left hgap (h.climbs rate' hrate')

theorem Raises.fires (h : Raises i d d' usage usage') (hfires : d.Fires i usage sessionCeiling weeklyCeiling) :
    d'.Fires i usage' sessionCeiling weeklyCeiling := by
  rcases hfires with hreacts | ⟨hon, s, hs, rate, hrate, habove, hle⟩
  · left
    rw [reacts_iff] at hreacts ⊢
    rcases hreacts with ⟨s, hs, hle⟩ | ⟨w, hw, hle⟩
    · obtain ⟨s', hs', hss'⟩ := h.session s hs
      have hclimb := h.climb_le
      exact .inl ⟨s', hs', by linarith⟩
    · obtain ⟨w', hw', hww'⟩ := h.weekly w hw
      exact .inr ⟨w', hw', hle.trans hww'⟩
  · right
    obtain ⟨s', hs', hss'⟩ := h.session s hs
    obtain ⟨rate', hrate', hrr'⟩ := h.velocity rate hrate
    have hhorizon := h.horizon
    have hon' : d'.settings.sessionVelocityHorizonSecs ≠ 0 := by omega
    have hcast : (d.settings.sessionVelocityHorizonSecs : ℚ) ≤ d'.settings.sessionVelocityHorizonSecs := by
      exact_mod_cast hhorizon
    have hclimb : rate * d.settings.sessionVelocityHorizonSecs ≤ rate' * d'.settings.sessionVelocityHorizonSecs :=
      mul_le_mul hrr' hcast (by positivity) (h.climbs rate' hrate')
    refine ⟨hon', s', hs', rate', hrate', ?_, by linarith⟩
    rw [h.minProjectAbove]
    exact habove.trans hss'

/-- A higher reading of one window is raised to no less. -/
theorem plausibleSession_up (mark : Option SessionHighWater) (hstamp : usage'.sessionResetsAt = usage.sessionResetsAt)
    (hsession : Up usage.session usage'.session) :
    Up (plausibleSession mark usage).session (plausibleSession mark usage').session := by
  have happlies : mark.bind (·.appliesTo usage') = mark.bind (·.appliesTo usage) := by
    unfold SessionHighWater.appliesTo
    rw [hstamp]
  intro v hv
  unfold plausibleSession at hv ⊢
  rw [happlies]
  cases happ : mark.bind (·.appliesTo usage) with
  | none =>
    rw [happ] at hv
    exact hsession v hv
  | some highWater =>
    rw [happ] at hv
    cases hs : usage.session with
    | none =>
      rw [hs] at hv
      dsimp only at hv
      rw [hs] at hv
      cases hv
    | some s =>
      obtain ⟨s', hs', hle⟩ := hsession s hs
      rw [hs] at hv
      rw [hs']
      dsimp only at hv ⊢
      by_cases hlow : s < highWater
      · rw [if_pos hlow] at hv
        obtain rfl : highWater = v := Option.some.inj hv
        by_cases hlow' : s' < highWater
        · rw [if_pos hlow']
          exact ⟨highWater, rfl, le_rfl⟩
        · rw [if_neg hlow']
          exact ⟨s', hs', not_lt.mp hlow'⟩
      · rw [if_neg hlow, hs] at hv
        obtain rfl : s = v := Option.some.inj hv
        have hlow' : ¬ s' < highWater := fun hlt => hlow (lt_of_le_of_lt hle hlt)
        rw [if_neg hlow']
        exact ⟨s', hs', hle⟩

end Lines

/-! ## What a tick does with it -/

/-- The projection once its guards have passed: the warm-up, the cooldown and a target, as for the reactive arm. -/
def preempt [SerdeJson] (at' : Nanos) (i : ℕ) (session rate sessionCeiling weeklyThreshold : ℚ)
    (readings : ℕ → Option Usage) : DaemonM TickAction := do
  let d ← get
  let horizon := d.settings.sessionVelocityHorizonSecs
  if ¬ d.warmedUp then pure .held
  else do
    let cooldown ← drawCooldown
    if d.withinCooldown at' cooldown then pure .skippedCooldown
    else
      match d.pickRanked i readings (some d.settings.targetMaxSessionUsage) (some sessionCeiling) weeklyThreshold with
      | none => pure .held
      | some target => do
        match ← lockedSwap (d.account i).stash (d.account target).stash false with
        | .ok _ => do
          recordSwap target (d.account target).stash at'
          emit (.swap (d.account i).label (d.account target).label .velocityPreempt
            (some (toPct session)) (some {
              projectedPct := toPctExact (session + rate * horizon)
              ratePctPerSec := toPctExact rate
              horizonSecs := horizon
              ceilingPct := toPctExact (effectiveCeiling sessionCeiling) }))
          pure (.velocityPreemptivelySwapped i target)
        | .error _ => pure .swapFailed

theorem run_get_bind {α : Type} (d : Daemon) (f : Daemon → DaemonM α) :
    (do let d ← get; f d : DaemonM α).run d = (f d).run d := rfl

theorem velocity_sustained {d : Daemon} {i : ℕ} {rate : ℚ} (h : d.velocity i = some rate) :
    ∃ vel, (d.accounts i).sustainedSessionVelocity = some vel ∧ vel.rate = rate := Option.map_eq_some_iff.mp h

section Arms

variable [SerdeJson] {d : Daemon} {i : ℕ} {usage : Usage} {at' : Nanos} {sessionCeiling weeklyCeiling weeklyThreshold : ℚ}
  {readings : ℕ → Option Usage}

/-- With its guards passed the projection goes on to leave. -/
theorem velocitySwap_projects (hread : readings i = some usage) {session rate : ℚ}
    (hs : (d.plausibleActiveUsage i usage).session = some session) (hrate : d.velocity i = some rate)
    (h : d.Projects i (d.plausibleActiveUsage i usage) sessionCeiling) :
    (velocitySwap at' i sessionCeiling weeklyThreshold readings).run d =
      (preempt at' i session rate sessionCeiling weeklyThreshold readings).run d := by
  obtain ⟨hon, s, hs', rate', hrate', habove, hproj⟩ := h
  obtain rfl : session = s := Option.some.inj (hs.symm.trans hs')
  obtain rfl : rate = rate' := Option.some.inj (hrate.symm.trans hrate')
  obtain ⟨vel, hvel, rfl⟩ := velocity_sustained hrate
  unfold velocitySwap preempt
  rw [run_get_bind, run_get_bind]
  dsimp only
  rw [if_neg hon, hread, hvel, Option.map_some, Option.bind_some, hs]
  dsimp only
  rw [if_neg (not_lt.mpr habove)]
  exact congrArg (StateT.run · d) (if_neg (not_lt.mpr hproj))

/-- Without them the projection holds and does nothing. -/
theorem velocitySwap_holds (hread : readings i = some usage)
    (h : ¬ d.Projects i (d.plausibleActiveUsage i usage) sessionCeiling) :
    (velocitySwap at' i sessionCeiling weeklyThreshold readings).run d = pure (.held, d) := by
  unfold velocitySwap
  rw [run_get_bind]
  dsimp only
  by_cases hon : d.settings.sessionVelocityHorizonSecs = 0
  · rw [if_pos hon]
    rfl
  · rw [if_neg hon, hread, Option.map_some, Option.bind_some]
    cases hs : (d.plausibleActiveUsage i usage).session with
    | none => rfl
    | some session =>
      cases hvel : (d.accounts i).sustainedSessionVelocity with
      | none => rfl
      | some vel =>
        dsimp only
        by_cases habove : session < d.settings.sessionVelocityMinProjectAbove
        · rw [if_pos habove]
          rfl
        · by_cases hproj : session + vel.rate * d.settings.sessionVelocityHorizonSecs < effectiveCeiling sessionCeiling
          · rw [if_neg habove, if_pos hproj]
            rfl
          · have hrate : d.velocity i = some vel.rate := by
              unfold Daemon.velocity
              rw [hvel, Option.map_some]
            exact absurd ⟨hon, session, hs, vel.rate, hrate, not_lt.mp habove, not_lt.mp hproj⟩ h

theorem decideReadable_reacts (h : d.Reacts i usage sessionCeiling weeklyCeiling) :
    (decideReadable at' i usage sessionCeiling weeklyCeiling readings).run d =
      (reactiveSwap at' i usage sessionCeiling weeklyCeiling readings).run d := by
  unfold Daemon.Reacts at h
  unfold decideReadable
  rw [run_get_bind]
  dsimp only
  rw [h]

theorem decideReadable_projects (h : ¬ d.Reacts i usage sessionCeiling weeklyCeiling) :
    (decideReadable at' i usage sessionCeiling weeklyCeiling readings).run d =
      (velocitySwap at' i sessionCeiling (weeklyEffectiveCeiling weeklyCeiling) readings).run d := by
  unfold Daemon.Reacts at h
  unfold decideReadable
  rw [run_get_bind]
  dsimp only
  cases hdecide : usage.decide (d.sessionThreshold i sessionCeiling)
      (viabilityBoundary sessionCeiling d.settings.targetMaxSessionUsage weeklyCeiling).weekly with
  | swap => exact absurd hdecide h
  | hold => rfl

end Arms

/-! ## The composed trigger -/

/-- Together the arms fire on the line over the larger window, never less on higher inputs, and a tick that they
do not fire on holds. -/
theorem composed_trigger [SerdeJson] (i : ℕ) (sessionCeiling weeklyCeiling : ℚ) :
    (∀ (d : Daemon) usage rate, d.velocity i = some rate → 0 ≤ rate →
      (∀ s, usage.session = some s → d.settings.sessionVelocityMinProjectAbove ≤ s) →
      (d.Fires i usage sessionCeiling weeklyCeiling ↔
        (∃ w, usage.weekly = some w ∧ weeklyEffectiveCeiling weeklyCeiling ≤ w) ∨
        ∃ s, usage.session = some s ∧ effectiveCeiling sessionCeiling - rate * d.lookahead ≤ s)) ∧
    (∀ (d d' : Daemon) usage usage', Raises i d d' usage usage' → d.Fires i usage sessionCeiling weeklyCeiling →
      d'.Fires i usage' sessionCeiling weeklyCeiling) ∧
    (∀ (mark : Option SessionHighWater) usage usage', usage'.sessionResetsAt = usage.sessionResetsAt →
      Up usage.session usage'.session → Up (plausibleSession mark usage).session (plausibleSession mark usage').session) ∧
    ∀ (d : Daemon) at' readings raw usage, readings i = some raw → d.plausibleActiveUsage i raw = usage →
      (d.Reacts i usage sessionCeiling weeklyCeiling →
        (decideReadable at' i usage sessionCeiling weeklyCeiling readings).run d =
          (reactiveSwap at' i usage sessionCeiling weeklyCeiling readings).run d) ∧
      (¬ d.Reacts i usage sessionCeiling weeklyCeiling → d.Projects i usage sessionCeiling →
        ∃ session rate, usage.session = some session ∧ d.velocity i = some rate ∧
          (decideReadable at' i usage sessionCeiling weeklyCeiling readings).run d =
            (preempt at' i session rate sessionCeiling (weeklyEffectiveCeiling weeklyCeiling) readings).run d) ∧
      (¬ d.Fires i usage sessionCeiling weeklyCeiling →
        (decideReadable at' i usage sessionCeiling weeklyCeiling readings).run d = pure (.held, d)) := by
  refine ⟨fun d usage rate hrate hclimbs habove => fires_iff hrate hclimbs habove, fun d d' usage usage' h => h.fires,
    fun mark usage usage' hstamp hsession => plausibleSession_up mark hstamp hsession, ?_⟩
  rintro d at' readings raw usage hread rfl
  refine ⟨decideReadable_reacts, ?_, ?_⟩
  · intro hreacts hprojects
    obtain ⟨-, session, hs, rate, hrate, -⟩ := id hprojects
    refine ⟨session, rate, hs, hrate, ?_⟩
    rw [decideReadable_projects hreacts]
    exact velocitySwap_projects hread hs hrate hprojects
  · intro hfires
    have hreacts : ¬ d.Reacts i (d.plausibleActiveUsage i raw) sessionCeiling weeklyCeiling := fun h => hfires (.inl h)
    rw [decideReadable_projects hreacts]
    exact velocitySwap_holds hread fun h => hfires (.inr h)

end Sessiometer
