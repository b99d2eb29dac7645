import Sessiometer.Daemon.FrameRules

/-! # What may make a tick leave the active account

The arms of the decision, read as conditions on the state they start from: the account may be left
for a target exactly when some draw passes the guards of one arm. -/

namespace Sessiometer

open Effects

/-! ## Draws -/

namespace Strategy

/-- The values that a draw may come to. -/
def MayDraw (s : Strategy) (lo hi x : ℚ) : Prop :=
  match s.jitter with
  | .none => x = clamp s.base lo hi
  | .uniform spread => ∃ u, IsUnit01 u ∧ x = clamp (s.base + (2 * u - 1) * spread) lo hi
  | .normal stddev => ∃ z, x = clamp (s.base + z * stddev) lo hi

def MayDrawDownward (s : Strategy) (lo hi x : ℚ) : Prop :=
  match s.jitter with
  | .none => x = clamp s.base lo hi
  | .uniform spread => ∃ u, IsUnit01 u ∧ x = clamp (s.base - u * spread) lo hi
  | .normal stddev => ∃ z, x = clamp (s.base - |z| * stddev) lo hi

end Strategy

section Draws

variable {pid : ℕ} {P : Op → Stores → Stores → Prop} {d : Daemon} {w : World} {lo hi : ℚ}

/-- The guarantee asks nothing of the operations that leave the stores alone. -/
def FreeQuiet (P : Op → Stores → Stores → Prop) : Prop := ∀ o t, o.isQuiet = true → P o t t

theorem wp_draw (hfree : FreeQuiet P) (s : Strategy) {Q : ℚ × Daemon → World → Prop} :
    wp (surroundings pid) (onStores P) ((s.draw lo hi).run d) w Q ↔ ∀ x, s.MayDraw lo hi x → Q (x, d) w := by
  unfold Strategy.draw Strategy.MayDraw
  cases s.jitter with
  | none =>
    constructor
    · rintro h x rfl
      exact h
    · intro h
      exact h _ rfl
  | uniform spread =>
    constructor
    · rintro h x ⟨u, hu, rfl⟩
      exact (h u w ⟨rfl, hu⟩).2
    · rintro h u w' ⟨rfl, hu⟩
      exact ⟨hfree _ _ rfl, h _ ⟨u, hu, rfl⟩⟩
  | normal stddev =>
    constructor
    · rintro h x ⟨z, rfl⟩
      exact (h z w rfl).2
    · intro h z w' hd
      have hw : w' = w := hd
      subst hw
      exact ⟨hfree _ _ rfl, h _ ⟨z, rfl⟩⟩

theorem wp_drawDownward (hfree : FreeQuiet P) (s : Strategy) {Q : ℚ × Daemon → World → Prop} :
    wp (surroundings pid) (onStores P) ((s.drawDownward lo hi).run d) w Q ↔
      ∀ x, s.MayDrawDownward lo hi x → Q (x, d) w := by
  unfold Strategy.drawDownward Strategy.MayDrawDownward
  cases s.jitter with
  | none =>
    constructor
    · rintro h x rfl
      exact h
    · intro h
      exact h _ rfl
  | uniform spread =>
    constructor
    · rintro h x ⟨u, hu, rfl⟩
      exact (h u w ⟨rfl, hu⟩).2
    · rintro h u w' ⟨rfl, hu⟩
      exact ⟨hfree _ _ rfl, h _ ⟨u, hu, rfl⟩⟩
  | normal stddev =>
    constructor
    · rintro h x ⟨z, rfl⟩
      exact (h z w rfl).2
    · intro h z w' hd
      have hw : w' = w := hd
      subst hw
      exact ⟨hfree _ _ rfl, h _ ⟨z, rfl⟩⟩

/-- The cooldowns that a draw may come to. -/
def Daemon.MayCooldown (d : Daemon) (cooldown : Nanos) : Prop :=
  ∃ x, d.settings.cooldownStrategy.MayDraw cooldownSecsLo cooldownSecsHi x ∧ cooldown = fromSecs x

theorem wp_drawCooldown (hfree : FreeQuiet P) {Q : Nanos × Daemon → World → Prop} :
    wp (surroundings pid) (onStores P) (drawCooldown.run d) w Q ↔
      ∀ cooldown, d.MayCooldown cooldown → Q (cooldown, d) w := by
  unfold drawCooldown
  rw [wp_state_bind, wp_get, wp_state_bind, wp_draw hfree]
  constructor
  · rintro h cooldown ⟨x, hx, rfl⟩
    exact h x hx
  · intro h x hx
    exact h _ ⟨x, hx, rfl⟩

/-- What follows a method and only reads is no concern of the guarantee. -/
theorem wp_then_quiet {α β : Type} (hfree : FreeQuiet P) {m : DaemonM α} {f : α → DaemonM β}
    (hf : ∀ a s, Only (Op.isQuiet · = true) ((f a).run s)) :
    wp (surroundings pid) (onStores P) ((m >>= f).run d) w (fun _ _ => True) ↔
      wp (surroundings pid) (onStores P) (m.run d) w (fun _ _ => True) := by
  rw [wp_state_bind]
  constructor
  · intro h
    exact wp_mono h (fun _ _ _ => trivial)
  · intro h
    apply wp_mono h
    intro r w' _
    exact wp_mono (wp_quiet (hf r.1 r.2) hfree) (fun _ _ _ => trivial)

end Draws

/-! ## The arms -/

theorem quiet_recordSwap (target : ℕ) (incoming : String) (at' : Nanos) (d : Daemon) :
    Only (Op.isQuiet · = true) ((recordSwap target incoming at').run d) := by
  unfold recordSwap
  apply only_state_bind only_modify
  intro _
  apply only_state_bind (only_state_lift (quiet_stashRead incoming))
  intro r s
  cases r with
  | ok stashed => exact only_modify s
  | error e => exact only_state_pure s

section Arms

variable [SerdeJson] {pid : ℕ} {P : Op → Stores → Stores → Prop} {d : Daemon} {w : World}
  {at' : Nanos} {i : ℕ} {readings : ℕ → Option Usage} {Safe : ℕ → Prop}

/-- Whether a swap out of the account is guaranteed is a question of its target alone. -/
def SwapsSafely (pid : ℕ) (P : Op → Stores → Stores → Prop) (d : Daemon) (w : World) (i : ℕ)
    (Safe : ℕ → Prop) : Prop :=
  ∀ target d', d'.roster = d.roster → (wp (surroundings pid) (onStores P)
    ((lockedSwap (d.account i).stash (d.account target).stash false).run d') w (fun _ _ => True) ↔
      Safe target)

/-- What follows a swap only reads. -/
theorem wp_lockedSwap_then (hfree : FreeQuiet P) (hsafe : SwapsSafely pid P d w i Safe) {d' : Daemon}
    {target : ℕ} (hroster : d'.roster = d.roster) {β : Type} {f : Except Error SwapReport → DaemonM β}
    (hf : ∀ r s, Only (Op.isQuiet · = true) ((f r).run s)) :
    wp (surroundings pid) (onStores P)
      ((lockedSwap (d.account i).stash (d.account target).stash false >>= f).run d') w
      (fun _ _ => True) ↔ Safe target := by
  rw [wp_then_quiet hfree hf, hsafe target d' hroster]

omit [SerdeJson] in
theorem quiet_recorded {target : ℕ} {incoming : String} {β : Type}
    {f : Except Error SwapReport → DaemonM β} {b : Error → β} {g : Unit → DaemonM β}
    (herror : ∀ e, f (.error e) = pure (b e))
    (hok : ∀ report, f (.ok report) = (recordSwap target incoming at' >>= g))
    (hg : ∀ u s, Only (Op.isQuiet · = true) ((g u).run s)) (r : Except Error SwapReport)
    (s : Daemon) : Only (Op.isQuiet · = true) ((f r).run s) := by
  cases r with
  | error e =>
    rw [herror]
    exact only_state_pure s
  | ok report =>
    rw [hok]
    exact only_state_bind (quiet_recordSwap _ _ _) hg s

omit [SerdeJson] in
/-- An arm that does not swap is guaranteed. -/
theorem wp_stays (hfree : FreeQuiet P) {α : Type} {m : DaemonM α}
    (hm : ∀ s, Only (Op.isQuiet · = true) (m.run s)) :
    wp (surroundings pid) (onStores P) (m.run d) w (fun _ _ => True) :=
  wp_mono (wp_quiet (hm d) hfree) (fun _ _ _ => trivial)

theorem wp_emergencySwap (hfree : FreeQuiet P) (hsafe : SwapsSafely pid P d w i Safe) :
    wp (surroundings pid) (onStores P) ((emergencySwap at' i readings).run d) w (fun _ _ => True) ↔
      ∀ weekly, d.settings.weeklyCeilingStrategy.MayDraw weeklyCeilingPctLo weeklyCeilingPctHi weekly →
        ∀ target, d.pickRanked i readings none none (weekly / 100) = some target → Safe target := by
  unfold emergencySwap
  rw [wp_state_bind, wp_get, wp_state_bind, wp_draw hfree]
  apply forall_congr'
  intro weekly
  apply imp_congr_right
  intro _
  dsimp only
  cases hpick : d.pickRanked i readings none none (weekly / 100) with
  | none =>
    simp only [reduceCtorEq, false_implies, implies_true, iff_true]
    apply wp_stays hfree
    intro s
    split <;> exact trivial
  | some target =>
    simp only [Option.some.injEq, forall_eq']
    apply wp_lockedSwap_then hfree hsafe rfl
    exact quiet_recorded (fun _ => rfl) (fun _ => rfl) (fun _ _ => trivial)

theorem wp_velocitySwap (hfree : FreeQuiet P) (hsafe : SwapsSafely pid P d w i Safe)
    {sessionCeiling weeklyThreshold : ℚ} :
    wp (surroundings pid) (onStores P)
      ((velocitySwap at' i sessionCeiling weeklyThreshold readings).run d) w (fun _ _ => True) ↔
      (d.settings.sessionVelocityHorizonSecs ≠ 0 → ∀ session,
        ((readings i).map (d.plausibleActiveUsage i)).bind (·.session) = some session → ∀ vel,
        (d.accounts i).sustainedSessionVelocity = some vel →
        d.settings.sessionVelocityMinProjectAbove ≤ session →
        effectiveCeiling sessionCeiling ≤
          session + vel.rate * d.settings.sessionVelocityHorizonSecs →
        d.warmedUp = true → ∀ cooldown, d.MayCooldown cooldown →
        d.withinCooldown at' cooldown = false → ∀ target,
        d.pickRanked i readings (some d.settings.targetMaxSessionUsage) (some sessionCeiling)
          weeklyThreshold = some target → Safe target) := by
  have hstay : ∀ a : TickAction, wp (surroundings pid) (onStores P)
      ((pure a : DaemonM TickAction).run d) w (fun _ _ => True) := fun _ => trivial
  unfold velocitySwap
  rw [wp_state_bind, wp_get]
  dsimp only
  split
  · next hzero => exact iff_of_true (hstay _) (fun h => absurd hzero h)
  · next hpos =>
    rw [imp_iff_right hpos]
    split
    · next session vel hsession hvel =>
      simp only [hsession, hvel, Option.some.injEq, forall_eq']
      by_cases hmin : session < d.settings.sessionVelocityMinProjectAbove
      · rw [if_pos hmin]
        exact iff_of_true (hstay _) (fun h => absurd hmin (not_lt.mpr h))
      · rw [if_neg hmin, imp_iff_right (not_lt.mp hmin)]
        by_cases hproj : session + vel.rate * d.settings.sessionVelocityHorizonSecs <
            effectiveCeiling sessionCeiling
        · rw [if_pos hproj]
          exact iff_of_true (hstay _) (fun h => absurd hproj (not_lt.mpr h))
        · rw [if_neg hproj, imp_iff_right (not_lt.mp hproj)]
          by_cases hwarm : d.warmedUp = true
          · rw [if_neg (not_not.mpr hwarm), imp_iff_right hwarm, wp_state_bind,
              wp_drawCooldown hfree]
            apply forall_congr'
            intro cooldown
            apply imp_congr_right
            intro _
            dsimp only
            cases hwithin : d.withinCooldown at' cooldown with
            | true => exact iff_of_true (hstay _) (fun h => by cases h)
            | false =>
              rw [if_neg Bool.false_ne_true, imp_iff_right rfl]
              cases hpick : d.pickRanked i readings (some d.settings.targetMaxSessionUsage)
                  (some sessionCeiling) weeklyThreshold with
              | none => exact iff_of_true (hstay _) (fun _ h => by cases h)
              | some target =>
                simp only [Option.some.injEq, forall_eq']
                apply wp_lockedSwap_then hfree hsafe rfl
                exact quiet_recorded (fun _ => rfl) (fun _ => rfl) (fun _ _ => trivial)
          · rw [if_pos hwarm]
            exact iff_of_true (hstay _) (fun h => absurd h hwarm)
    · next hnone =>
      refine iff_of_true (hstay _) ?_
      intro session hsession vel hvel
      exact absurd hvel (hnone session vel hsession)

theorem wp_reactiveSwap (hfree : FreeQuiet P) (hsafe : SwapsSafely pid P d w i Safe)
    {activeUsage : Usage} {sessionCeiling weeklyCeiling : ℚ} :
    wp (surroundings pid) (onStores P)
      ((reactiveSwap at' i activeUsage sessionCeiling weeklyCeiling readings).run d) w
      (fun _ _ => True) ↔
      (d.warmedUp = true → ∀ cooldown, d.MayCooldown cooldown →
        (d.withinCooldown at' cooldown && !atLeast activeUsage.session sessionCeiling) = false →
        ∀ target, d.pickRanked i readings (some d.settings.targetMaxSessionUsage)
          (some sessionCeiling) (viabilityBoundary sessionCeiling
            d.settings.targetMaxSessionUsage weeklyCeiling).weekly = some target → Safe target) := by
  unfold reactiveSwap
  rw [wp_state_bind, wp_get]
  dsimp only
  by_cases hwarm : d.warmedUp = true
  · rw [if_neg (not_not.mpr hwarm), imp_iff_right hwarm, wp_state_bind, wp_drawCooldown hfree]
    apply forall_congr'
    intro cooldown
    apply imp_congr_right
    intro _
    dsimp only
    cases hwithin : d.withinCooldown at' cooldown && !atLeast activeUsage.session sessionCeiling with
    | true => exact iff_of_true trivial (fun h => by cases h)
    | false =>
      rw [if_neg Bool.false_ne_true, imp_iff_right rfl]
      cases hpick : d.pickRanked i readings (some d.settings.targetMaxSessionUsage)
          (some sessionCeiling) (viabilityBoundary sessionCeiling
            d.settings.targetMaxSessionUsage weeklyCeiling).weekly with
      | none =>
        refine iff_of_true ?_ (fun _ h => by cases h)
        apply wp_stays hfree
        intro s
        dsimp only
        split <;> exact trivial
      | some target =>
        simp only [Option.some.injEq, forall_eq']
        apply wp_lockedSwap_then hfree hsafe rfl
        refine quiet_recorded (fun _ => rfl) (fun _ => rfl) ?_
        intro _ s
        cases activeUsage.session.filter
          (fun s => decide (d.sessionThreshold i sessionCeiling ≤ s)) <;> exact trivial
  · rw [if_pos hwarm]
    exact iff_of_true trivial (fun h => absurd h hwarm)

/-- Whether the walk breaker holds a swap back. -/
def Daemon.walkHolds (d : Daemon) (at' : Nanos) (speculative : Option Nanos) : Bool :=
  speculative.isSome &&
    decide (retryAfterWalkMax ≤ (d.pruneRetryAfterSwaps at').retryAfterSwaps.length)

/-- Whether the reserve breaker holds a swap back. -/
def reserveHolds (speculative : Option Nanos) (reason : NextSwapReason) : Bool :=
  speculative.isSome && decide (reason = .onlyCandidate)

omit [SerdeJson] in
theorem run_walkBreaker (speculative : Option Nanos) : ∃ d', d'.roster = d.roster ∧
    (walkBreaker at' i speculative).run d = .pure (d.walkHolds at' speculative, d') := by
  let pruned := d.pruneRetryAfterSwaps at'
  cases speculative with
  | none => exact ⟨pruned, rfl, rfl⟩
  | some ra =>
    let swaps := pruned.retryAfterSwaps.length
    have hrun : (walkBreaker at' i (some ra)).run d =
        (if retryAfterWalkMax ≤ swaps then do
          let d ← get
          if ¬ d.signaledRetryAfterWalk then
            emit (.retryAfterWalk (d.account i).accountUuid swaps (asSecs retryAfterWalkWindow)
              (asSecs ra))
            modify (fun d => { d with signaledRetryAfterWalk := true })
          pure true
        else pure false : DaemonM Bool).run pruned := rfl
    rw [hrun, show d.walkHolds at' (some ra) = decide (retryAfterWalkMax ≤ swaps) from rfl]
    by_cases hmax : retryAfterWalkMax ≤ swaps
    · rw [if_pos hmax, decide_eq_true hmax]
      by_cases hsignaled : pruned.signaledRetryAfterWalk = true
      · refine ⟨pruned, rfl, ?_⟩
        change (ite (¬ pruned.signaledRetryAfterWalk = true) _ _ : DaemonM Bool).run pruned = _
        rw [if_neg (not_not.mpr hsignaled)]
        rfl
      · refine ⟨{ pruned.emit (.retryAfterWalk (pruned.account i).accountUuid swaps
          (asSecs retryAfterWalkWindow) (asSecs ra)) with signaledRetryAfterWalk := true }, rfl, ?_⟩
        change (ite (¬ pruned.signaledRetryAfterWalk = true) _ _ : DaemonM Bool).run pruned = _
        rw [if_pos hsignaled]
        rfl
    · rw [if_neg hmax, decide_eq_false hmax]
      exact ⟨pruned, rfl, rfl⟩

omit [SerdeJson] in
theorem run_reserveBreaker (speculative : Option Nanos) (reason : NextSwapReason)
    (blindElapsed : ℕ) : ∃ d', d'.roster = d.roster ∧
    (reserveBreaker i speculative reason blindElapsed).run d =
      .pure (reserveHolds speculative reason, d') := by
  cases speculative with
  | none => exact ⟨d, rfl, rfl⟩
  | some ra =>
    rw [show reserveHolds (some ra) reason = decide (reason = .onlyCandidate) from rfl]
    unfold reserveBreaker
    dsimp only
    by_cases honly : reason = .onlyCandidate
    · rw [if_pos honly, decide_eq_true honly]
      by_cases hsignaled : d.signaledRetryAfterReserve = true
      · refine ⟨d, rfl, ?_⟩
        change (ite (¬ d.signaledRetryAfterReserve = true) _ _ : DaemonM Bool).run d = _
        rw [if_neg (not_not.mpr hsignaled)]
        rfl
      · refine ⟨{ d.emit (.blindPreemptReserveHold (d.account i).accountUuid (asSecs ra)
          blindElapsed) with signaledRetryAfterReserve := true }, rfl, ?_⟩
        change (ite (¬ d.signaledRetryAfterReserve = true) _ _ : DaemonM Bool).run d = _
        rw [if_pos hsignaled]
        rfl
    · rw [if_neg honly, decide_eq_false honly]
      exact ⟨d, rfl, rfl⟩

theorem wp_performBlindSwap (hfree : FreeQuiet P) (hsafe : SwapsSafely pid P d w i Safe)
    {d' : Daemon} (hroster : d'.roster = d.roster) {target : ℕ} {anchor : LastGood}
    {retryAfter : Option Nanos} :
    wp (surroundings pid) (onStores P)
      ((performBlindSwap at' i target anchor retryAfter).run d') w (fun _ _ => True) ↔
      Safe target := by
  have haccount : d'.account = d.account := by
    funext j
    unfold Daemon.account
    rw [hroster]
  unfold performBlindSwap
  rw [wp_state_bind, wp_get]
  dsimp only
  rw [haccount]
  apply wp_lockedSwap_then hfree hsafe hroster
  refine quiet_recorded (fun _ => rfl) (fun _ => rfl) ?_
  intro _ s
  cases retryAfter <;> exact trivial

theorem wp_blindSwap (hfree : FreeQuiet P) (hsafe : SwapsSafely pid P d w i Safe) :
    wp (surroundings pid) (onStores P) ((blindSwap at' i readings).run d) w (fun _ _ => True) ↔
      ∀ anchor, d.lastGood = some anchor → d.blindSwapArmed i at' anchor = true →
        d.warmedUp = true → ∀ cooldown, d.MayCooldown cooldown →
        d.withinCooldown at' cooldown = false →
        d.walkHolds at' (d.speculative i at' anchor) = false → ∀ target reason,
        d.pickBlind i readings = some (target, reason) →
        reserveHolds (d.speculative i at' anchor) reason = false → Safe target := by
  have hstay : ∀ (a : TickAction) (d' : Daemon), wp (surroundings pid) (onStores P)
      ((pure a : DaemonM TickAction).run d') w (fun _ _ => True) := fun _ _ => trivial
  unfold blindSwap
  rw [wp_state_bind, wp_get]
  dsimp only
  cases hanchor : d.lastGood with
  | none => exact iff_of_true (hstay _ _) (fun _ h => by cases h)
  | some anchor =>
    simp only [Option.some.injEq, forall_eq']
    by_cases harmed : d.blindSwapArmed i at' anchor = true
    · rw [if_neg (not_not.mpr harmed), imp_iff_right harmed]
      by_cases hwarm : d.warmedUp = true
      · rw [if_neg (not_not.mpr hwarm), imp_iff_right hwarm, wp_state_bind, wp_drawCooldown hfree]
        apply forall_congr'
        intro cooldown
        apply imp_congr_right
        intro _
        dsimp only
        cases hwithin : d.withinCooldown at' cooldown with
        | true => exact iff_of_true (hstay _ _) (fun h => by cases h)
        | false =>
          obtain ⟨d₁, hroster₁, hwalk⟩ : ∃ d₁, d₁.roster = d.roster ∧
              (walkBreaker at' i (d.speculative i at' anchor)).run d =
                .pure (d.walkHolds at' (d.speculative i at' anchor), d₁) :=
            run_walkBreaker (d.speculative i at' anchor)
          rw [if_neg Bool.false_ne_true, imp_iff_right rfl, wp_state_bind, hwalk, wp_pure]
          dsimp only
          cases hholds : d.walkHolds at' (d.speculative i at' anchor) with
          | true => exact iff_of_true (hstay _ _) (fun h => by cases h)
          | false =>
            rw [if_neg Bool.false_ne_true, imp_iff_right rfl]
            cases hpick : d.pickBlind i readings with
            | none => exact iff_of_true (hstay _ _) (fun _ _ h => by cases h)
            | some picked =>
              obtain ⟨target, reason⟩ := picked
              obtain ⟨d₂, hroster₂, hreserve⟩ := run_reserveBreaker (d := d₁) (i := i)
                (d.speculative i at' anchor) reason (asSecs (saturatingDurationSince at' anchor.at'))
              dsimp only
              rw [wp_state_bind, hreserve, wp_pure]
              dsimp only
              cases hheld : reserveHolds (d.speculative i at' anchor) reason with
              | true =>
                refine iff_of_true (hstay _ _) ?_
                intro target' reason' hp hr
                cases hp
                rw [hheld] at hr
                cases hr
              | false =>
                rw [if_neg Bool.false_ne_true,
                  wp_performBlindSwap hfree hsafe (hroster₂.trans hroster₁)]
                constructor
                · intro h target' reason' hp _
                  cases hp
                  exact h
                · intro h
                  exact h target reason rfl hheld
      · rw [if_pos hwarm]
        exact iff_of_true (hstay _ _) (fun h => absurd h hwarm)
    · rw [if_pos harmed]
      exact iff_of_true (hstay _ _) (fun h => absurd h harmed)

end Arms

/-! ## The decision -/

/-- The targets that a readable account may be left for, under the ceilings drawn. -/
inductive MayRotate (d : Daemon) (at' : Nanos) (i : ℕ) (usage : Usage)
    (sessionCeiling weeklyCeiling : ℚ) (readings : ℕ → Option Usage) (target : ℕ) : Prop
  | velocity {session : ℚ} {vel : VelocityEma} {cooldown : Nanos} :
      usage.decide (d.sessionThreshold i sessionCeiling) (viabilityBoundary sessionCeiling
        d.settings.targetMaxSessionUsage weeklyCeiling).weekly = .hold →
      d.settings.sessionVelocityHorizonSecs ≠ 0 →
      ((readings i).map (d.plausibleActiveUsage i)).bind (·.session) = some session →
      (d.accounts i).sustainedSessionVelocity = some vel →
      d.settings.sessionVelocityMinProjectAbove ≤ session →
      effectiveCeiling sessionCeiling ≤
        session + vel.rate * d.settings.sessionVelocityHorizonSecs →
      d.warmedUp = true → d.MayCooldown cooldown → d.withinCooldown at' cooldown = false →
      d.pickRanked i readings (some d.settings.targetMaxSessionUsage) (some sessionCeiling)
        (viabilityBoundary sessionCeiling d.settings.targetMaxSessionUsage weeklyCeiling).weekly =
          some target →
      MayRotate d at' i usage sessionCeiling weeklyCeiling readings target
  | reactive {cooldown : Nanos} :
      usage.decide (d.sessionThreshold i sessionCeiling) (viabilityBoundary sessionCeiling
        d.settings.targetMaxSessionUsage weeklyCeiling).weekly = .swap →
      d.warmedUp = true → d.MayCooldown cooldown →
      (d.withinCooldown at' cooldown && !atLeast usage.session sessionCeiling) = false →
      d.pickRanked i readings (some d.settings.targetMaxSessionUsage) (some sessionCeiling)
        (viabilityBoundary sessionCeiling d.settings.targetMaxSessionUsage weeklyCeiling).weekly =
          some target →
      MayRotate d at' i usage sessionCeiling weeklyCeiling readings target

/-- The targets that the active account may be left for: some draw passes the guards of an arm. -/
inductive MayLeave (d : Daemon) (at' : Nanos) (i : ℕ) (readings : ℕ → Option Usage)
    (target : ℕ) : Prop
  | emergency {weekly : ℚ} : (d.accounts i).health.quarantined = true → readings i = none →
      d.settings.weeklyCeilingStrategy.MayDraw weeklyCeilingPctLo weeklyCeilingPctHi weekly →
      d.pickRanked i readings none none (weekly / 100) = some target →
      MayLeave d at' i readings target
  | blind {anchor : LastGood} {cooldown : Nanos} {reason : NextSwapReason} :
      (d.accounts i).health.quarantined = false → readings i = none →
      d.lastGood = some anchor → d.blindSwapArmed i at' anchor = true → d.warmedUp = true →
      d.MayCooldown cooldown → d.withinCooldown at' cooldown = false →
      d.walkHolds at' (d.speculative i at' anchor) = false →
      d.pickBlind i readings = some (target, reason) →
      reserveHolds (d.speculative i at' anchor) reason = false →
      MayLeave d at' i readings target
  | readable {usage : Usage} {sessionPct weeklyPct : ℚ} :
      (d.accounts i).health.quarantined = false → readings i = some usage →
      d.settings.sessionCeilingStrategy.MayDrawDownward sessionCeilingPctLo sessionCeilingPctHi
        sessionPct →
      d.settings.weeklyCeilingStrategy.MayDrawDownward weeklyCeilingPctLo weeklyCeilingPctHi
        weeklyPct →
      MayRotate d at' i (d.plausibleActiveUsage i usage) (sessionPct / 100) (weeklyPct / 100)
        readings target →
      MayLeave d at' i readings target

section Decide

variable [SerdeJson] {pid : ℕ} {P : Op → Stores → Stores → Prop} {d : Daemon} {w : World}
  {at' : Nanos} {readings : ℕ → Option Usage}

theorem wp_decideReadable (hfree : FreeQuiet P) {i : ℕ} {Safe : ℕ → Prop}
    (hsafe : SwapsSafely pid P d w i Safe) {usage : Usage} {sessionCeiling weeklyCeiling : ℚ} :
    wp (surroundings pid) (onStores P)
      ((decideReadable at' i usage sessionCeiling weeklyCeiling readings).run d) w
      (fun _ _ => True) ↔
      ∀ target, MayRotate d at' i usage sessionCeiling weeklyCeiling readings target →
        Safe target := by
  unfold decideReadable
  rw [wp_state_bind, wp_get]
  dsimp only
  cases hdecide : usage.decide (d.sessionThreshold i sessionCeiling) (viabilityBoundary
      sessionCeiling d.settings.targetMaxSessionUsage weeklyCeiling).weekly with
  | hold =>
    dsimp only
    rw [wp_velocitySwap hfree hsafe]
    constructor
    · intro h target hleave
      cases hleave with
      | velocity _ hpos hsession hvel hmin hproj hwarm hcool hwithin hpick =>
        exact h hpos _ hsession _ hvel hmin hproj hwarm _ hcool hwithin target hpick
      | reactive hswap _ _ _ _ =>
        rw [hdecide] at hswap
        cases hswap
    · intro h hpos session hsession vel hvel hmin hproj hwarm cooldown hcool hwithin target hpick
      exact h target (.velocity hdecide hpos hsession hvel hmin hproj hwarm hcool hwithin hpick)
  | swap =>
    dsimp only
    rw [wp_reactiveSwap hfree hsafe]
    constructor
    · intro h target hleave
      cases hleave with
      | velocity hhold _ _ _ _ _ _ _ _ _ =>
        rw [hdecide] at hhold
        cases hhold
      | reactive _ hwarm hcool hwithin hpick => exact h hwarm _ hcool hwithin target hpick
    · intro h hwarm cooldown hcool hwithin target hpick
      exact h target (.reactive hdecide hwarm hcool hwithin hpick)

/-- A decision is guaranteed exactly when every swap it may come to is. -/
theorem wp_decideAction (hfree : FreeQuiet P) {Safe : ℕ → ℕ → Prop}
    (hsafe : ∀ i, SwapsSafely pid P d w i (Safe i)) (active : Option ℕ) :
    wp (surroundings pid) (onStores P) ((decideAction at' active readings).run d) w
      (fun _ _ => True) ↔
      ∀ i, active = some i → ∀ target, MayLeave d at' i readings target → Safe i target := by
  have hstay : ∀ (a : TickAction), wp (surroundings pid) (onStores P)
      ((pure a : DaemonM TickAction).run d) w (fun _ _ => True) := fun _ => trivial
  unfold decideAction
  cases active with
  | none => exact iff_of_true (hstay _) (fun _ h => by cases h)
  | some i =>
    simp only [Option.some.injEq, forall_eq']
    rw [wp_state_bind, wp_get]
    cases hquarantined : (d.accounts i).health.quarantined with
    | true =>
      rw [if_pos rfl]
      cases hreading : readings i with
      | none =>
        dsimp only
        rw [wp_emergencySwap hfree (hsafe i)]
        constructor
        · intro h target hleave
          cases hleave with
          | emergency _ _ hdraw hpick => exact h _ hdraw target hpick
          | blind hlive _ _ _ _ _ _ _ _ _ =>
            rw [hquarantined] at hlive
            cases hlive
          | readable hlive _ _ _ _ =>
            rw [hquarantined] at hlive
            cases hlive
        · intro h weekly hdraw target hpick
          exact h target (.emergency hquarantined hreading hdraw hpick)
      | some usage =>
        refine iff_of_true (hstay _) ?_
        intro target hleave
        cases hleave with
        | emergency _ hnone _ _ =>
          rw [hreading] at hnone
          cases hnone
        | blind hlive _ _ _ _ _ _ _ _ _ =>
          rw [hquarantined] at hlive
          cases hlive
        | readable hlive _ _ _ _ =>
          rw [hquarantined] at hlive
          cases hlive
    | false =>
      rw [if_neg Bool.false_ne_true]
      cases hreading : readings i with
      | none =>
        dsimp only
        rw [wp_blindSwap hfree (hsafe i)]
        constructor
        · intro h target hleave
          cases hleave with
          | emergency hdead _ _ _ =>
            rw [hquarantined] at hdead
            cases hdead
          | blind _ _ hanchor harmed hwarm hcool hwithin hwalk hpick hreserve =>
            exact h _ hanchor harmed hwarm _ hcool hwithin hwalk target _ hpick hreserve
          | readable _ hsome _ _ _ =>
            rw [hreading] at hsome
            cases hsome
        · intro h anchor hanchor harmed hwarm cooldown hcool hwithin hwalk target reason hpick hreserve
          exact h target (.blind hquarantined hreading hanchor harmed hwarm hcool hwithin hwalk hpick
            hreserve)
      | some usage =>
        dsimp only
        rw [wp_state_bind, wp_modify, wp_state_bind, wp_drawDownward hfree]
        let cleared : Daemon :=
          { d with signaledRetryAfterReserve := false, signaledRetryAfterWalk := false }
        have hcleared : SwapsSafely pid P cleared w i (Safe i) := fun target d' h => hsafe i target d' h
        constructor
        · intro h target hleave
          cases hleave with
          | emergency hdead _ _ _ =>
            rw [hquarantined] at hdead
            cases hdead
          | blind _ hnone _ _ _ _ _ _ _ _ =>
            rw [hreading] at hnone
            cases hnone
          | @readable usage' sessionPct weeklyPct _ hsome hsession hweekly hrotate =>
            cases hreading.symm.trans hsome
            have hs := h sessionPct hsession
            rw [wp_state_bind, wp_drawDownward hfree] at hs
            have hw := (wp_decideReadable hfree hcleared).mp (hs weeklyPct hweekly)
            apply hw target
            cases hrotate with
            | velocity a b c e f g j k l m => exact .velocity a b c e f g j k l m
            | reactive a b c e f => exact .reactive a b c e f
        · intro h sessionPct hsession
          rw [wp_state_bind, wp_drawDownward hfree]
          intro weeklyPct hweekly
          apply (wp_decideReadable hfree hcleared).mpr
          intro target hrotate
          apply h target
          refine .readable hquarantined hreading hsession hweekly ?_
          cases hrotate with
          | velocity a b c e f g j k l m => exact .velocity a b c e f g j k l m
          | reactive a b c e f => exact .reactive a b c e f

end Decide

end Sessiometer
