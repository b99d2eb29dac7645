import Sessiometer.Daemon.LockedSwap
import Sessiometer.Daemon.Swaps

/-! # Where the reactive and the velocity arm rotate to

The release side leaves an account at the effective ceiling, below the drawn one; the acquire side
admits a target below the drawn ceiling and the configured reserve. The two agree only while the
reserve keeps the tail margin. -/

namespace Sessiometer

open Effects

/-- The account that the reactive or the velocity arm has rotated to. -/
def TickAction.rotatesTo : TickAction → Option ℕ
  | .swapped _ target => some target
  | .velocityPreemptivelySwapped _ target => some target
  | _ => none

section Release

variable {usage : Usage} {session weekly : ℚ}

theorem atLeast_eq_false {x : Option ℚ} {line : ℚ} (h : ∀ v, x = some v → v < line) :
    atLeast x line = false := by
  cases x with
  | none => rfl
  | some v =>
    have hv := h v rfl
    simp only [atLeast, Option.any_some, decide_eq_false_iff_not, not_le]
    exact hv

theorem decide_hold_iff :
    usage.decide session weekly = .hold ↔
      (∀ v, usage.session = some v → v < session) ∧ (∀ v, usage.weekly = some v → v < weekly) := by
  constructor
  · intro h
    have key : ∀ (x : Option ℚ) (line : ℚ), atLeast x line = false → ∀ v, x = some v → v < line := by
      intro x line hx v hv
      rw [hv] at hx
      simpa [atLeast] using hx
    unfold Usage.decide at h
    split at h
    · cases h
    · next hn =>
      rw [Bool.or_eq_true, not_or, Bool.not_eq_true, Bool.not_eq_true] at hn
      exact ⟨key _ _ hn.1, key _ _ hn.2⟩
  · rintro ⟨hs, hw⟩
    unfold Usage.decide
    rw [atLeast_eq_false hs, atLeast_eq_false hw]
    rfl

theorem lt_of_isBelow {x : Option ℚ} {line v : ℚ} (h : isBelow x (some line) = true)
    (hv : x = some v) : v < line := by
  rw [hv] at h
  simpa [isBelow] using h

end Release

section Acquire

variable {d : Daemon} {i j : ℕ} {readings : ℕ → Option Usage}

/-- A picked target lies below the reserve, the drawn ceiling and the weekly line. -/
theorem pickRanked_below {reserve ceiling weekly : ℚ}
    (h : d.pickRanked i readings (some reserve) (some ceiling) weekly = some j) :
    ∃ usage, readings j = some usage ∧ (∀ v, usage.session = some v → v < min ceiling reserve) ∧
      (∀ v, usage.weekly = some v → v < weekly) := by
  unfold Daemon.pickRanked pickTargetRanked at h
  obtain ⟨⟨j', reason⟩, hp, rfl⟩ := Option.map_eq_some_iff.mp h
  obtain ⟨usage, -, hr, hv⟩ := pickTarget_viable hp
  unfold isViable at hv
  simp only [Bool.and_eq_true] at hv
  obtain ⟨⟨⟨-, hw⟩, hc⟩, hf⟩ := hv
  refine ⟨usage, hr, ?_, fun v hu => lt_of_isBelow hw hu⟩
  intro v hu
  exact lt_min (lt_of_isBelow hc hu) (lt_of_isBelow hf hu)

end Acquire

section Arms

/-- The arm rotates only to the account that the selection names. -/
def RotatesTo (target : Option ℕ) (r : TickAction × Daemon) : Prop :=
  ∀ j, r.1.rotatesTo = some j → target = some j

theorem returns_stays {target : Option ℕ} {a : TickAction} {d : Daemon}
    (h : a.rotatesTo = none) : Returns (RotatesTo target) ((pure a : DaemonM TickAction).run d) := by
  intro j hj
  rw [show (a, d).1.rotatesTo = none from h] at hj
  cases hj

variable [SerdeJson] {at' : Nanos} {i : ℕ} {readings : ℕ → Option Usage}

theorem returns_velocitySwap (d : Daemon) (sessionCeiling weeklyThreshold : ℚ) :
    Returns (RotatesTo (d.pickRanked i readings (some d.settings.targetMaxSessionUsage)
        (some sessionCeiling) weeklyThreshold))
      ((velocitySwap at' i sessionCeiling weeklyThreshold readings).run d) := by
  unfold velocitySwap
  rw [returns_state_bind, returns_get]
  dsimp only
  split
  · exact returns_stays rfl
  · split
    · split
      · exact returns_stays rfl
      · split
        · exact returns_stays rfl
        · split
          · exact returns_stays rfl
          · rw [returns_state_bind]
            apply returns_of_forall
            rintro ⟨cooldown, d₁⟩
            split
            · exact returns_stays rfl
            · split
              · exact returns_stays rfl
              · next target hpick =>
                rw [returns_state_bind]
                apply returns_of_forall
                rintro ⟨r, d₂⟩
                cases r with
                | error e => exact returns_stays rfl
                | ok report =>
                  rw [returns_state_bind]
                  apply returns_of_forall
                  rintro ⟨u, d₃⟩
                  intro j hj
                  rw [hpick]
                  exact hj
    · exact returns_stays rfl

theorem returns_reactiveSwap (d : Daemon) (activeUsage : Usage) (sessionCeiling weeklyCeiling : ℚ) :
    Returns (RotatesTo (d.pickRanked i readings (some d.settings.targetMaxSessionUsage)
        (some sessionCeiling) (weeklyEffectiveCeiling weeklyCeiling)))
      ((reactiveSwap at' i activeUsage sessionCeiling weeklyCeiling readings).run d) := by
  unfold reactiveSwap
  rw [returns_state_bind, returns_get]
  dsimp only
  split
  · exact returns_stays rfl
  · rw [returns_state_bind]
    apply returns_of_forall
    rintro ⟨cooldown, d₁⟩
    dsimp only
    split
    · exact returns_stays rfl
    · split
      · split
        · exact returns_stays rfl
        · exact returns_stays rfl
      · next target hpick =>
        rw [returns_state_bind]
        apply returns_of_forall
        rintro ⟨r, d₂⟩
        cases r with
        | error e => exact returns_stays rfl
        | ok report =>
          rw [returns_state_bind]
          apply returns_of_forall
          rintro ⟨u, d₃⟩
          dsimp only
          rw [returns_state_bind]
          apply returns_of_forall
          rintro ⟨u', d₄⟩
          have hj : RotatesTo (some target) (TickAction.swapped i target, d₄) := fun j hj => hj
          unfold viabilityBoundary at hpick
          rw [hpick]
          split
          · exact hj
          · exact hj

/-- What a tick does about a readable account rotates only to what the selection names under the
drawn ceilings. -/
theorem returns_decideReadable (d : Daemon) (activeUsage : Usage)
    (sessionCeiling weeklyCeiling : ℚ) :
    Returns (RotatesTo (d.pickRanked i readings (some d.settings.targetMaxSessionUsage)
        (some sessionCeiling) (weeklyEffectiveCeiling weeklyCeiling)))
      ((decideReadable at' i activeUsage sessionCeiling weeklyCeiling readings).run d) := by
  unfold decideReadable
  rw [returns_state_bind, returns_get]
  dsimp only
  split
  · exact returns_velocitySwap d sessionCeiling _
  · exact returns_reactiveSwap d activeUsage sessionCeiling weeklyCeiling

end Arms

section Draws

theorem keeps_nextUnit (d : Daemon) : Returns (fun r => r.2 = d) (nextUnit.run d) :=
  fun _ => rfl

theorem keeps_standardNormal (d : Daemon) : Returns (fun r => r.2 = d) (standardNormal.run d) :=
  fun _ => rfl

theorem keeps_draw (s : Strategy) (lo hi : ℚ) (d : Daemon) :
    Returns (fun r => r.2 = d) ((s.draw lo hi).run d) := by
  unfold Strategy.draw
  cases s.jitter with
  | none => exact rfl
  | uniform spread => exact fun _ => rfl
  | normal stddev => exact fun _ => rfl

theorem keeps_drawDownward (s : Strategy) (lo hi : ℚ) (d : Daemon) :
    Returns (fun r => r.2 = d) ((s.drawDownward lo hi).run d) := by
  unfold Strategy.drawDownward
  cases s.jitter with
  | none => exact rfl
  | uniform spread => exact fun _ => rfl
  | normal stddev => exact fun _ => rfl

theorem keeps_drawCooldown (d : Daemon) : Returns (fun r => r.2 = d) (drawCooldown.run d) := by
  unfold drawCooldown
  rw [returns_state_bind, returns_get, returns_state_bind]
  exact keeps_draw _ _ _ d

theorem quiet_draw (s : Strategy) (lo hi : ℚ) (d : Daemon) :
    Only (Op.isQuiet · = true) ((s.draw lo hi).run d) := by
  have hunit : Op.isQuiet .nextUnit = true := rfl
  have hnormal : Op.isQuiet .nextNormal = true := rfl
  unfold Strategy.draw
  cases s.jitter with
  | none => exact trivial
  | uniform spread => exact ⟨hunit, fun _ => trivial⟩
  | normal stddev => exact ⟨hnormal, fun _ => trivial⟩

theorem quiet_drawCooldown (d : Daemon) : Only (Op.isQuiet · = true) (drawCooldown.run d) := by
  unfold drawCooldown
  apply only_state_bind only_get
  intro d' d''
  exact only_state_bind (quiet_draw _ _ _) (fun _ => only_state_pure) d''

theorem clamp_bounds {raw lo hi : ℚ} (h : lo ≤ hi) : lo ≤ clamp raw lo hi ∧ clamp raw lo hi ≤ hi :=
  ⟨le_min (le_max_right raw lo) h, min_le_right _ _⟩

/-- A draw lies within its clamps. -/
theorem drawDownward_bounds (s : Strategy) {lo hi : ℚ} (h : lo ≤ hi) (d : Daemon) :
    Returns (fun r => lo ≤ r.1 ∧ r.1 ≤ hi) ((s.drawDownward lo hi).run d) := by
  unfold Strategy.drawDownward
  cases s.jitter with
  | none => exact clamp_bounds h
  | uniform spread => exact fun _ => clamp_bounds h
  | normal stddev => exact fun _ => clamp_bounds h

/-- A program on the surroundings always has a run. -/
theorem exec_exists {α : Type} (pid : ℕ) (p : Seam α) (w : World) :
    ∃ a w', Exec (surroundings pid) p w a w' :=
  ⟨_, _, exec_of_run (calmly_refines pid) p w⟩

end Draws

section Thrash

/-- Two accounts, warmed up, the first active. -/
def pairDaemon (settings : Settings) : Daemon where
  roster := [sampleAccount "A", sampleAccount "B"]
  settings := settings
  active := some 0
  warmedUp := true

def pairWorld : World :=
  atRest (captured (some ⟨[1]⟩) [(sampleAccount "A", ⟨[1]⟩), (sampleAccount "B", ⟨[2]⟩)]) "A"

def sessionUsage (session : ℚ) : Usage := ⟨some session, none, none, none⟩

def pairReadings (active other : ℚ) : ℕ → Option Usage
  | 0 => some (sessionUsage active)
  | 1 => some (sessionUsage other)
  | _ => none

theorem pairDaemon_picks {settings : Settings} {active other ceiling weekly : ℚ}
    (hc : other < ceiling) (hr : other < settings.targetMaxSessionUsage) :
    (pairDaemon settings).pickRanked 0 (pairReadings active other)
      (some settings.targetMaxSessionUsage) (some ceiling) weekly = some 1 := by
  have hviable : viableTargets 2 0 (pairReadings active other) (pairDaemon settings).enabledMask
      (some settings.targetMaxSessionUsage) (some ceiling) weekly = [(1, sessionUsage other)] := by
    have he : (pairDaemon settings).enabledMask 1 = true := rfl
    simp [viableTargets, List.range_succ, pairReadings, isViable, sessionUsage, isBelow, he, hc, hr]
  unfold Daemon.pickRanked pickTargetRanked pickTargetWithReasonRanked
  rw [show (pairDaemon settings).roster.length = 2 from rfl, hviable]
  rfl

theorem pairWorld_inputs :
    InputsOf pairWorld.stores (sampleAccount "A").stash (sampleAccount "B").stash
      ⟨⟨[1]⟩, ⟨⟨[1]⟩, ⟨identityDocument "A", "A", by decide⟩⟩,
        ⟨⟨[2]⟩, ⟨identityDocument "B", "B", by decide⟩⟩⟩ :=
  ⟨rfl, rfl, rfl, by decide⟩

theorem pairDaemon_threshold (settings : Settings) (ceiling : ℚ) :
    (pairDaemon settings).sessionThreshold 0 ceiling = effectiveCeiling ceiling := by
  have hv : ((pairDaemon settings).accounts 0).sustainedSessionVelocity = none := rfl
  simp [Daemon.sessionThreshold, reactiveSessionThreshold, hv]

/-- From an account at its ceiling, the reactive arm rotates to a target it is given. -/
theorem reaches_decideReadable_pair [SerdeJson] {settings : Settings}
    {active other ceiling weekly : ℚ} (ha : ceiling ≤ active)
    (he : effectiveCeiling ceiling ≤ active) (hc : other < ceiling)
    (hr : other < settings.targetMaxSessionUsage) :
    Reaches (surroundings 0) ((decideReadable 0 0 (sessionUsage active) ceiling weekly
      (pairReadings active other)).run (pairDaemon settings)) pairWorld
      (fun r _ => r.1 = .swapped 0 1) := by
  have hswap : (sessionUsage active).decide ((pairDaemon settings).sessionThreshold 0 ceiling)
      (viabilityBoundary ceiling (pairDaemon settings).settings.targetMaxSessionUsage
        weekly).weekly = .swap := by
    rw [pairDaemon_threshold]
    simp [Usage.decide, sessionUsage, atLeast, he]
  have hraw : atLeast (sessionUsage active).session ceiling = true := by
    simp [atLeast, sessionUsage, ha]
  obtain ⟨⟨cooldown, d₁⟩, w₁, hcool, hs, hl⟩ :=
    exec_quiet 0 (quiet_drawCooldown (pairDaemon settings)) pairWorld
  have hd₁ : d₁ = pairDaemon settings := (keeps_drawCooldown _).exec hcool
  subst hd₁
  have hx := pairWorld_inputs
  rw [← hs] at hx
  obtain ⟨report, d₂, w₂, hlocked⟩ := exec_lockedSwap 0 (d := pairDaemon settings) false
    ⟨sampleAccount "A", List.mem_cons_self .., rfl⟩ hl hx
  unfold decideReadable
  apply reaches_state_bind exec_get
  dsimp only
  rw [hswap]
  unfold reactiveSwap
  apply reaches_state_bind exec_get
  dsimp only
  have hwarm : (pairDaemon settings).warmedUp = true := rfl
  rw [if_neg (not_not.mpr hwarm)]
  apply reaches_state_bind hcool
  rw [hraw, Bool.not_true, Bool.and_false, if_neg (by decide)]
  rw [show (viabilityBoundary ceiling (pairDaemon settings).settings.targetMaxSessionUsage
    weekly).weekly = weeklyEffectiveCeiling weekly from rfl]
  rw [show (pairDaemon settings).settings = settings from rfl, pairDaemon_picks hc hr]
  apply reaches_state_bind hlocked
  obtain ⟨⟨u, d₃⟩, w₃, hrecord⟩ := exec_exists 0
    ((recordSwap 1 ((pairDaemon settings).account 1).stash 0).run d₂) w₂
  apply reaches_state_bind hrecord
  apply reaches_state_bind exec_modify
  split
  · exact reaches_state_bind exec_modify (reaches_pure rfl)
  · exact reaches_pure rfl

/-- Under the ceilings a tick has drawn, the reactive and the velocity arm never rotate onto an
account that the same thresholds say to leave, whatever the readings, exactly when no target at or
above the effective ceiling is admitted. -/
theorem rotation_holds_iff [SerdeJson] (settings : Settings) (ceiling weekly : ℚ) :
    (∀ pid d w at' i usage readings action d' w' j, d.settings = settings →
      Exec (surroundings pid) ((decideReadable at' i usage ceiling weekly readings).run d) w
        (action, d') w' →
      action.rotatesTo = some j → ∃ u, readings j = some u ∧
        u.decide (reactiveSessionThreshold (effectiveCeiling ceiling) 0
            (reactivePollGapSecs settings.nearLimitPollSecs))
          (weeklyEffectiveCeiling weekly) = .hold) ↔
    (viabilityBoundary ceiling settings.targetMaxSessionUsage weekly).session ≤
      effectiveCeiling ceiling := by
  have hzero : ∀ gap, reactiveSessionThreshold (effectiveCeiling ceiling) 0 gap =
      effectiveCeiling ceiling := by
    intro gap
    unfold reactiveSessionThreshold
    ring
  constructor
  · intro h
    by_contra hlt
    have hlt : effectiveCeiling ceiling < min ceiling settings.targetMaxSessionUsage :=
      not_le.mp hlt
    obtain ⟨hc, hr⟩ := lt_min_iff.mp hlt
    obtain ⟨⟨action, d'⟩, w', he, ha⟩ := reaches_decideReadable_pair 
      (le_refl ceiling) hc.le hc hr
    obtain ⟨u, hu, hhold⟩ := h 0 (pairDaemon settings) pairWorld 0 0 _ _ action d' w' 1 rfl he
      (by rw [show action = .swapped 0 1 from ha]; rfl)
    have hs : u.session = some (effectiveCeiling ceiling) := by
      cases hu
      rfl
    rw [hzero] at hhold
    exact lt_irrefl _ ((decide_hold_iff.mp hhold).1 _ hs)
  · intro hle pid d w at' i usage readings action d' w' j hd he hj
    have hpick := (returns_decideReadable d usage ceiling weekly).exec he j hj
    rw [hd] at hpick
    obtain ⟨u, hu, hsession, hweekly⟩ := pickRanked_below hpick
    refine ⟨u, hu, decide_hold_iff.mpr ⟨?_, hweekly⟩⟩
    rw [hzero]
    intro v hv
    exact lt_of_lt_of_le (hsession v hv) hle

local instance rotationJson : SerdeJson := sampleJson

/-- A reserve raised to the ceiling passes validation. -/
def raisedTunables : Tunables := { Tunables.default' with targetMaxSessionUsage := 95 }

/-- Under a reserve of 95 and a ceiling of 95, an account at 96 percent is left for one at 90, which
the same thresholds say to leave. -/
theorem rotation_thrashes :
    validate { targetMaxSessionUsage := some 95 } {} = .ok raisedTunables ∧
    Reaches (surroundings 0) ((decideAction 0 (some 0) (pairReadings (96 / 100) (90 / 100))).run
      (pairDaemon (Settings.new raisedTunables))) pairWorld (fun r _ => r.1 = .swapped 0 1) ∧
    (sessionUsage (90 / 100)).decide (reactiveSessionThreshold (effectiveCeiling (95 / 100)) 0
      (reactivePollGapSecs raisedTunables.nearLimitPollSecs)) (weeklyEffectiveCeiling (98 / 100)) =
      .swap := by
  refine ⟨by decide +kernel, ?_, by decide +kernel⟩
  exact ⟨_, _, exec_of_run (calmly_refines 0) _ _, by decide +kernel⟩

end Thrash

end Sessiometer
