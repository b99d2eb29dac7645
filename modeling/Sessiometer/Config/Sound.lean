import Mathlib.Tactic.Linarith
import Sessiometer.Config.Validate
import Sessiometer.Daemon.Preview

/-! # What the validator promises

The relations between settings that the daemon relies on, and the one that an accepted configuration
can break: a ceiling that is drawn below its base may leave no room for the fire point. -/

namespace Sessiometer

open Effects

/-! ## Peeling checks off -/

section Peel

variable {α : Type} {c : α} {bad : Prop} [Decidable bad] {e : ConfigError} {field : String}
  {value lo hi n : ℤ}

theorem reject_bind_ok {k : Unit → Except ConfigError α} :
    (reject bad e >>= k) = .ok c ↔ ¬bad ∧ k () = .ok c := by
  unfold reject
  by_cases h : bad
  · rw [if_pos h]
    constructor
    · intro habs
      cases habs
    · exact fun habs => absurd h habs.1
  · rw [if_neg h]
    exact ⟨fun hk => ⟨h, hk⟩, fun hk => hk.2⟩

theorem range_bind_ok {k : Unit → Except ConfigError α} :
    (range field value lo hi >>= k) = .ok c ↔ (lo ≤ value ∧ value ≤ hi) ∧ k () = .ok c := by
  unfold range
  by_cases h : lo ≤ value ∧ value ≤ hi
  · rw [if_pos h]
    exact ⟨fun hk => ⟨h, hk⟩, fun hk => hk.2⟩
  · rw [if_neg h]
    constructor
    · intro habs
      cases habs
    · exact fun habs => absurd habs.1 h

theorem token_bind_ok {β : Type} {read : Option α} {k : α → Except ConfigError β} {c : β} :
    (token read e >>= k) = .ok c ↔ ∃ a, read = some a ∧ k a = .ok c := by
  unfold token
  cases read with
  | none =>
    constructor
    · intro habs
      cases habs
    · rintro ⟨a, habs, -⟩
      cases habs
  | some a => simp [bind, Except.bind]

theorem bind_ok_iff {ε α β : Type} {x : Except ε α} {f : α → Except ε β} {b : β} :
    (x >>= f) = .ok b ↔ ∃ a, x = .ok a ∧ f a = .ok b := by
  constructor
  · exact bind_eq_ok
  · rintro ⟨a, rfl, h⟩
    exact h

theorem castU8_eq (hlo : 0 ≤ n) (hhi : n < 256) : (castU8 n : ℤ) = n := by
  unfold castU8
  omega

theorem castU32_eq (hlo : 0 ≤ n) (hhi : n < 2 ^ 32) : (castU32 n : ℤ) = n := by
  unfold castU32
  omega

theorem castU64_eq (hlo : 0 ≤ n) (hhi : n < 2 ^ 64) : (castU64 n : ℤ) = n := by
  unfold castU64
  omega

theorem castU8_int {n : ℤ} (h : 1 ≤ n ∧ n ≤ 100) : (castU8 n : ℤ) = n :=
  castU8_eq (by omega) (by omega)

theorem castU64_int {n : ℤ} (h : 0 ≤ n ∧ n ≤ 315360000) : (castU64 n : ℤ) = n :=
  castU64_eq (by omega) (by omega)

end Peel

/-! ## What is admitted -/

/-- The tunables that pass the checks. -/
structure RawTunablesTable.Admissible (t : RawTunablesTable) : Prop where
  sessionCeiling : 50 ≤ t.sessionCeiling ∧ t.sessionCeiling ≤ 99
  weeklyCeiling : 50 ≤ t.weeklyCeiling ∧ t.weeklyCeiling ≤ 99
  sessionBlindSwapSecs : 60 ≤ t.sessionBlindSwapSecs ∧ t.sessionBlindSwapSecs ≤ 86400
  sessionBlindRiskBand : 50 ≤ t.sessionBlindRiskBand ∧ t.sessionBlindRiskBand ≤ 99
  sessionVelocityHorizonSecs : 0 ≤ t.sessionVelocityHorizonSecs ∧ t.sessionVelocityHorizonSecs ≤ 600
  sessionVelocityMinProjectAbove :
    50 ≤ t.sessionVelocityMinProjectAbove ∧ t.sessionVelocityMinProjectAbove ≤ 99
  sessionVelocityEmaAlphaPct : 1 ≤ t.sessionVelocityEmaAlphaPct ∧ t.sessionVelocityEmaAlphaPct ≤ 100
  targetMaxSessionUsage : ∀ value ∈ t.targetMaxSessionUsage, 1 ≤ value ∧ value ≤ t.sessionCeiling
  pollSecs : 5 ≤ t.pollSecs ∧ t.pollSecs ≤ 3600
  exhaustedPollSecs : t.pollSecs ≤ t.exhaustedPollSecs ∧ t.exhaustedPollSecs ≤ 86400
  nearLimitPollSecs :
    t.nearLimitPollSecs = 0 ∨ 5 ≤ t.nearLimitPollSecs ∧ t.nearLimitPollSecs ≤ 3600
  peakRunway : 0 < peakRunwayBound t
  cooldownSecs : 5 ≤ t.cooldownSecs ∧ t.cooldownSecs ≤ 3600
  monitor401N : 1 ≤ t.monitor401N ∧ t.monitor401N ≤ 20
  monitorRecoveryM : 1 ≤ t.monitorRecoveryM ∧ t.monitorRecoveryM ≤ 20
  fleetRunwayWarnSecs : t.fleetRunwayWarnSecs = 0 ∨
    60 ≤ t.fleetRunwayWarnSecs ∧ t.fleetRunwayWarnSecs ≤ 604800

/-- The reserve of the targets, as it is set or by default. -/
def targetMaxOf (t : RawTunablesTable) : ℕ :=
  match t.targetMaxSessionUsage with
  | none => min defaultTargetMaxSessionUsage (castU8 t.sessionCeiling)
  | some value => castU8 value

section Tunables

variable {t : RawTunablesTable} {target : ℕ}

theorem admitTargetMax_ok : admitTargetMax t.targetMaxSessionUsage t.sessionCeiling = .ok target ↔
    (∀ value ∈ t.targetMaxSessionUsage, 1 ≤ value ∧ value ≤ t.sessionCeiling) ∧
      target = targetMaxOf t := by
  unfold admitTargetMax targetMaxOf
  cases t.targetMaxSessionUsage with
  | none => simp [eq_comm]
  | some value =>
    simp only [reject_bind_ok, Except.ok.injEq, Option.mem_def, Option.some.injEq, forall_eq']
    constructor
    · rintro ⟨hzero, hneg, habove, rfl⟩
      exact ⟨by omega, rfl⟩
    · rintro ⟨hrange, rfl⟩
      exact ⟨by omega, by omega, by omega, rfl⟩

theorem admitTunables_ok : admitTunables t = .ok target ↔ t.Admissible ∧ target = targetMaxOf t := by
  have hk : ∀ k : ℕ → Except ConfigError ℕ,
      (admitTargetMax t.targetMaxSessionUsage t.sessionCeiling >>= k) = .ok target ↔
        (∀ value ∈ t.targetMaxSessionUsage, 1 ≤ value ∧ value ≤ t.sessionCeiling) ∧
          k (targetMaxOf t) = .ok target := by
    intro k
    rw [bind_ok_iff]
    simp only [admitTargetMax_ok]
    constructor
    · rintro ⟨a, ⟨hvalue, rfl⟩, hrest⟩
      exact ⟨hvalue, hrest⟩
    · rintro ⟨hvalue, hrest⟩
      exact ⟨_, ⟨hvalue, rfl⟩, hrest⟩
  unfold admitTunables
  simp only [range_bind_ok, reject_bind_ok, hk, Except.ok.injEq]
  simp only [cooldownSecsFloor, fleetRunwayPlausibleMaxSecs, not_le]
  constructor
  · rintro ⟨h₁, h₂, h₃, h₄, h₅, h₆, h₇, h₈, h₉, h₁₀, h₁₁, h₁₂, h₁₃, h₁₄, h₁₅, h₁₆, rfl⟩
    refine ⟨⟨h₁, h₂, h₃, h₄, h₅, h₆, h₇, h₈, h₉, by omega, by omega, h₁₂, h₁₃, h₁₄, h₁₅, ?_⟩, rfl⟩
    omega
  · rintro ⟨h, rfl⟩
    refine ⟨h.sessionCeiling, h.weeklyCeiling, h.sessionBlindSwapSecs, h.sessionBlindRiskBand,
      h.sessionVelocityHorizonSecs, h.sessionVelocityMinProjectAbove, h.sessionVelocityEmaAlphaPct,
      h.targetMaxSessionUsage, h.pollSecs, ?_, ?_, h.peakRunway, h.cooldownSecs, h.monitor401N,
      h.monitorRecoveryM, ?_, rfl⟩
    · have := h.exhaustedPollSecs
      omega
    · have := h.nearLimitPollSecs
      omega
    · have := h.fleetRunwayWarnSecs
      omega

end Tunables

def RawAccount.account (a : RawAccount) : Account := ⟨a.accountUuid, a.label, a.enabled⟩

/-- An account that passes the checks on its own. -/
structure RawAccount.Admissible [StrDebug] (a : RawAccount) : Prop where
  accountUuid : isBlank a.accountUuid = false
  wellFormed : accountUuidViolation a.accountUuid = none
  label : isBlank a.label = false

section Roster

variable [StrDebug] {account : RawAccount} {accounts : List RawAccount} {roster : List Account}
  {seen : List String} {admitted : Account}

theorem admitAccount_ok : admitAccount seen account = .ok admitted ↔
    account.Admissible ∧ account.accountUuid ∉ seen ∧ admitted = account.account := by
  unfold admitAccount
  rw [reject_bind_ok]
  cases hrule : accountUuidViolation account.accountUuid with
  | some rule =>
    constructor
    · rintro ⟨-, habs⟩
      cases habs
    · rintro ⟨h, -⟩
      rw [h.wellFormed] at hrule
      cases hrule
  | none =>
    simp only [reject_bind_ok, Except.ok.injEq, Bool.not_eq_true]
    constructor
    · rintro ⟨huuid, hlabel, hseen, rfl⟩
      exact ⟨⟨huuid, hrule, hlabel⟩, hseen, rfl⟩
    · rintro ⟨h, hseen, rfl⟩
      exact ⟨h.accountUuid, h.label, hseen, rfl⟩

/-- The roster is admitted when its accounts are and no uuid comes twice. -/
theorem admitRoster_ok : admitRoster seen accounts = .ok roster ↔
    (∀ a ∈ accounts, a.Admissible ∧ a.accountUuid ∉ seen) ∧
      (accounts.map RawAccount.accountUuid).Nodup ∧ roster = accounts.map RawAccount.account := by
  induction accounts generalizing seen roster with
  | nil => simp [admitRoster, eq_comm]
  | cons a rest ih =>
    unfold admitRoster
    simp only [bind_ok_iff, admitAccount_ok, ih, List.mem_cons, not_or, List.map_cons,
      List.nodup_cons, List.mem_map, not_exists, not_and, forall_eq_or_imp, Except.ok.injEq]
    constructor
    · rintro ⟨_, ⟨ha, hseen, rfl⟩, _, ⟨hrest, hnodup, rfl⟩, rfl⟩
      exact ⟨⟨⟨ha, hseen⟩, fun b hb => ⟨(hrest b hb).1, (hrest b hb).2.2⟩⟩,
        ⟨fun b hb => (hrest b hb).2.1, hnodup⟩, rfl⟩
    · rintro ⟨⟨⟨ha, hseen⟩, hrest⟩, ⟨hfresh, hnodup⟩, rfl⟩
      exact ⟨_, ⟨ha, hseen, rfl⟩, _,
        ⟨fun b hb => ⟨(hrest b hb).1, hfresh b hb, (hrest b hb).2⟩, hnodup, rfl⟩, rfl⟩

end Roster

/-- Numbers are narrowed to what they are. -/
structure Verbatim (raw : RawConfig) (c : Config) : Prop where
  pollSecs : (c.tunables.pollSecs : ℤ) = raw.tunables.pollSecs
  exhaustedPollSecs : (c.tunables.exhaustedPollSecs : ℤ) = raw.tunables.exhaustedPollSecs
  nearLimitPollSecs : (c.tunables.nearLimitPollSecs : ℤ) = raw.tunables.nearLimitPollSecs
  cooldownSecs : (c.tunables.cooldownSecs : ℤ) = raw.tunables.cooldownSecs
  targetMaxSessionUsage : (c.tunables.targetMaxSessionUsage : ℤ) =
    raw.tunables.targetMaxSessionUsage.getD (min 80 raw.tunables.sessionCeiling)
  sessionCeiling : (c.tunables.sessionCeiling : ℤ) = raw.tunables.sessionCeiling
  weeklyCeiling : (c.tunables.weeklyCeiling : ℤ) = raw.tunables.weeklyCeiling
  sessionBlindSwapSecs : (c.tunables.sessionBlindSwapSecs : ℤ) = raw.tunables.sessionBlindSwapSecs
  sessionBlindRiskBand : (c.tunables.sessionBlindRiskBand : ℤ) = raw.tunables.sessionBlindRiskBand
  sessionVelocityHorizonSecs :
    (c.tunables.sessionVelocityHorizonSecs : ℤ) = raw.tunables.sessionVelocityHorizonSecs
  sessionVelocityMinProjectAbove :
    (c.tunables.sessionVelocityMinProjectAbove : ℤ) = raw.tunables.sessionVelocityMinProjectAbove
  sessionVelocityEmaAlphaPct :
    (c.tunables.sessionVelocityEmaAlphaPct : ℤ) = raw.tunables.sessionVelocityEmaAlphaPct
  monitor401N : (c.tunables.monitor401N : ℤ) = raw.tunables.monitor401N
  monitorRecoveryM : (c.tunables.monitorRecoveryM : ℤ) = raw.tunables.monitorRecoveryM
  fleetRunwayWarnSecs : (c.tunables.fleetRunwayWarnSecs : ℤ) = raw.tunables.fleetRunwayWarnSecs
  refreshCadenceSecs : (c.refresh.cadenceSecs : ℤ) = raw.refresh.cadenceSecs
  refreshIdleAfterSecs : (c.refresh.idleAfterSecs : ℤ) = raw.refresh.idleAfterSecs
  refreshTimeoutSecs : (c.refresh.timeoutSecs : ℤ) = raw.refresh.timeoutSecs
  systemicFailureN : (c.refresh.systemicFailureN : ℤ) = raw.refresh.systemicFailureN
  loginTimeoutSecs : (c.login.timeoutSecs : ℤ) = raw.login.timeoutSecs
  rawRetentionSecs : (c.stats.rawRetentionSecs : ℤ) = raw.stats.rawRetentionSecs
  hourlyRetentionSecs : (c.stats.hourlyRetentionSecs : ℤ) = raw.stats.hourlyRetentionSecs
  dailyRetentionSecs : (c.stats.dailyRetentionSecs : ℤ) = raw.stats.dailyRetentionSecs
  kdfMemoryKib : (c.migration.kdfMemoryKib : ℤ) = raw.migration.kdfMemoryKib
  kdfIterations : (c.migration.kdfIterations : ℤ) = raw.migration.kdfIterations
  expiryHorizonSecs : (c.credential.expiryHorizonSecs : ℤ) = raw.credential.expiryHorizonSecs
  expiryCohortWindowSecs :
    (c.credential.expiryCohortWindowSecs : ℤ) = raw.credential.expiryCohortWindowSecs

/-- What the checks of every section come to. -/
structure Accepted [StrDebug] (raw : RawConfig) (c : Config) : Prop where
  tunables : raw.tunables.Admissible
  jitter : ∃ jitter, admitJitter raw.jitter = .ok jitter ∧
    c.tunables = narrowTunables raw.tunables (targetMaxOf raw.tunables) jitter
  accounts : ∀ a ∈ raw.account, a.Admissible
  distinct : (raw.account.map RawAccount.accountUuid).Nodup
  roster : c.roster = raw.account.map RawAccount.account
  verbatim : Verbatim raw c

section Accept

variable [StrDebug] {raw : RawConfig} {c : Config}

omit [StrDebug] in
theorem targetMaxOf_int (h : raw.tunables.Admissible) : (targetMaxOf raw.tunables : ℤ) =
    raw.tunables.targetMaxSessionUsage.getD (min 80 raw.tunables.sessionCeiling) := by
  have hceiling := h.sessionCeiling
  unfold targetMaxOf
  cases htarget : raw.tunables.targetMaxSessionUsage with
  | none =>
    have hcast := castU8_int (n := raw.tunables.sessionCeiling) (by omega)
    simp only [Option.getD_none, defaultTargetMaxSessionUsage]
    omega
  | some value =>
    have hvalue := h.targetMaxSessionUsage value htarget
    simp only [Option.getD_some]
    exact castU8_int (by omega)

theorem accepted_of_validate (h : Config.validate raw = .ok c) : Accepted raw c := by
  unfold Config.validate at h
  simp only [bind_ok_iff, admitTunables_ok] at h
  obtain ⟨_, ⟨ht, rfl⟩, jitter, hjitter, _, hroster, refresh, hrefresh, login, hlogin, stats, hstats,
    migration, hmigration, credential, hcredential, hc⟩ := h
  obtain ⟨haccounts, hdistinct, rfl⟩ := admitRoster_ok.mp hroster
  obtain rfl := Except.ok.inj hc
  unfold admitRefresh at hrefresh
  simp only [range_bind_ok, Except.ok.injEq] at hrefresh
  obtain ⟨hr₁, hr₂, hr₃, hr₄, rfl⟩ := hrefresh
  unfold admitLogin at hlogin
  simp only [range_bind_ok, Except.ok.injEq] at hlogin
  obtain ⟨hl, rfl⟩ := hlogin
  unfold admitStats at hstats
  simp only [range_bind_ok, reject_bind_ok, Except.ok.injEq] at hstats
  obtain ⟨hs₁, hs₂, hs₃, -, rfl⟩ := hstats
  unfold admitMigration at hmigration
  simp only [range_bind_ok, token_bind_ok, Except.ok.injEq] at hmigration
  obtain ⟨hm₁, hm₂, policy, -, rfl⟩ := hmigration
  unfold admitCredential at hcredential
  simp only [range_bind_ok, token_bind_ok, Except.ok.injEq] at hcredential
  obtain ⟨hc₁, hc₂, mode, -, rfl⟩ := hcredential
  have h := ht
  refine ⟨ht, ⟨jitter, hjitter, rfl⟩, fun a ha => (haccounts a ha).1, hdistinct, rfl, ?_⟩
  have hnear := ht.nearLimitPollSecs
  have hfleet := ht.fleetRunwayWarnSecs
  obtain ⟨h₁, h₂, h₃, h₄, h₅, h₆, h₇, -, h₉, h₁₀, -, -, h₁₃, h₁₄, h₁₅, -⟩ := ht
  constructor
  · exact castU64_int (by omega)
  · exact castU64_int (by omega)
  · exact castU64_int (by omega)
  · exact castU64_int (by omega)
  · exact targetMaxOf_int h
  · exact castU8_int (by omega)
  · exact castU8_int (by omega)
  · exact castU64_int (by omega)
  · exact castU8_int (by omega)
  · exact castU64_int (by omega)
  · exact castU8_int (by omega)
  · exact castU8_int (by omega)
  · exact castU8_int (by omega)
  · exact castU8_int (by omega)
  · exact castU64_int (by omega)
  · exact castU64_int (by omega)
  · exact castU64_int (by omega)
  · exact castU64_int (by omega)
  · exact castU32_eq (by omega) (by omega)
  · exact castU64_int (by omega)
  · exact castU64_int (by omega)
  · exact castU64_int (by omega)
  · exact castU64_int (by omega)
  · exact castU32_eq (by omega) (by omega)
  · exact castU32_eq (by omega) (by omega)
  · exact castU64_int (by omega)
  · exact castU64_int (by omega)

end Accept

/-! ## Draws -/

namespace Strategy

/-- What is drawn, from the samples that the source of randomness yields. -/
def drawn (s : Strategy) (u z lo hi : ℚ) : ℚ :=
  match s.jitter with
  | .none => clamp s.base lo hi
  | .uniform spread => clamp (s.base + (2 * u - 1) * spread) lo hi
  | .normal stddev => clamp (s.base + z * stddev) lo hi

def drawnDownward (s : Strategy) (u z lo hi : ℚ) : ℚ :=
  match s.jitter with
  | .none => clamp s.base lo hi
  | .uniform spread => clamp (s.base - u * spread) lo hi
  | .normal stddev => clamp (s.base - |z| * stddev) lo hi

variable {s : Strategy} {spread stddev lo hi : ℚ}

theorem draw_none (h : s.jitter = .none) : s.draw lo hi = pure (s.drawn 0 0 lo hi) := by
  unfold draw drawn
  rw [h]

theorem draw_uniform (h : s.jitter = .uniform spread) :
    s.draw lo hi = nextUnit >>= fun u => pure (s.drawn u 0 lo hi) := by
  unfold draw drawn
  rw [h]

theorem draw_normal (h : s.jitter = .normal stddev) :
    s.draw lo hi = standardNormal >>= fun z => pure (s.drawn 0 z lo hi) := by
  unfold draw drawn
  rw [h]

theorem drawDownward_none (h : s.jitter = .none) :
    s.drawDownward lo hi = pure (s.drawnDownward 0 0 lo hi) := by
  unfold drawDownward drawnDownward
  rw [h]

theorem drawDownward_uniform (h : s.jitter = .uniform spread) :
    s.drawDownward lo hi = nextUnit >>= fun u => pure (s.drawnDownward u 0 lo hi) := by
  unfold drawDownward drawnDownward
  rw [h]

theorem drawDownward_normal (h : s.jitter = .normal stddev) :
    s.drawDownward lo hi = standardNormal >>= fun z => pure (s.drawnDownward 0 z lo hi) := by
  unfold drawDownward drawnDownward
  rw [h]

end Strategy

/-- A value that the daemon may get, of random samples in `[0, 1)`. -/
def Yielded (m : DaemonM ℚ) (r : ℚ) : Prop :=
  ∃ pid d w d' w', Exec (surroundings pid) (m.run d) w (r, d') w'

section Yield

variable {s : Strategy} {lo hi r : ℚ}

theorem yielded_pure {a : ℚ} : Yielded (pure a) r ↔ r = a := by
  constructor
  · rintro ⟨pid, d, w, d', w', h⟩
    exact congrArg Prod.fst (exec_pure_iff.mp h).1
  · rintro rfl
    exact ⟨0, startedDaemon, pairWorld, _, _, exec_pure_iff.mpr ⟨rfl, rfl⟩⟩

theorem yielded_nextUnit {f : ℚ → ℚ} :
    Yielded (nextUnit >>= fun u => pure (f u)) r ↔ ∃ u, (0 ≤ u ∧ u < 1) ∧ r = f u := by
  constructor
  · rintro ⟨pid, d, w, d', w', h⟩
    obtain ⟨u, w₁, ⟨-, hu⟩, hpure⟩ := exec_perform_iff.mp h
    exact ⟨u, hu, congrArg Prod.fst (exec_pure_iff.mp hpure).1⟩
  · rintro ⟨u, hu, rfl⟩
    exact ⟨0, startedDaemon, pairWorld, _, _,
      exec_perform_iff.mpr ⟨u, pairWorld, ⟨rfl, hu⟩, exec_pure_iff.mpr ⟨rfl, rfl⟩⟩⟩

theorem yielded_standardNormal {f : ℚ → ℚ} :
    Yielded (standardNormal >>= fun z => pure (f z)) r ↔ ∃ z, r = f z := by
  constructor
  · rintro ⟨pid, d, w, d', w', h⟩
    obtain ⟨z, w₁, -, hpure⟩ := exec_perform_iff.mp h
    exact ⟨z, congrArg Prod.fst (exec_pure_iff.mp hpure).1⟩
  · rintro ⟨z, rfl⟩
    exact ⟨0, startedDaemon, pairWorld, _, _,
      exec_perform_iff.mpr ⟨z, pairWorld, rfl, exec_pure_iff.mpr ⟨rfl, rfl⟩⟩⟩

theorem yielded_draw : Yielded (s.draw lo hi) r ↔
    ∃ u z, (0 ≤ u ∧ u < 1) ∧ r = s.drawn u z lo hi := by
  cases hj : s.jitter with
  | none =>
    rw [Strategy.draw_none hj, yielded_pure]
    simp only [Strategy.drawn, hj]
    constructor
    · rintro rfl
      exact ⟨0, 0, by norm_num, rfl⟩
    · rintro ⟨u, z, -, rfl⟩
      rfl
  | uniform spread =>
    rw [Strategy.draw_uniform hj, yielded_nextUnit]
    simp only [Strategy.drawn, hj, exists_const]
  | normal stddev =>
    rw [Strategy.draw_normal hj, yielded_standardNormal]
    simp only [Strategy.drawn, hj]
    constructor
    · rintro ⟨z, rfl⟩
      exact ⟨0, z, by norm_num, rfl⟩
    · rintro ⟨u, z, -, rfl⟩
      exact ⟨z, rfl⟩

theorem yielded_drawDownward : Yielded (s.drawDownward lo hi) r ↔
    ∃ u z, (0 ≤ u ∧ u < 1) ∧ r = s.drawnDownward u z lo hi := by
  cases hj : s.jitter with
  | none =>
    rw [Strategy.drawDownward_none hj, yielded_pure]
    simp only [Strategy.drawnDownward, hj]
    constructor
    · rintro rfl
      exact ⟨0, 0, by norm_num, rfl⟩
    · rintro ⟨u, z, -, rfl⟩
      rfl
  | uniform spread =>
    rw [Strategy.drawDownward_uniform hj, yielded_nextUnit]
    simp only [Strategy.drawnDownward, hj, exists_const]
  | normal stddev =>
    rw [Strategy.drawDownward_normal hj, yielded_standardNormal]
    simp only [Strategy.drawnDownward, hj]
    constructor
    · rintro ⟨z, rfl⟩
      exact ⟨0, z, by norm_num, rfl⟩
    · rintro ⟨u, z, -, rfl⟩
      exact ⟨z, rfl⟩

end Yield

/-- The relations that the decisions rely on, of every draw too. -/
structure Config.Sound (c : Config) : Prop where
  reserve : 1 ≤ c.tunables.targetMaxSessionUsage ∧
    c.tunables.targetMaxSessionUsage ≤ c.tunables.sessionCeiling
  cadence : c.tunables.pollSecs ≤ c.tunables.exhaustedPollSecs
  distinct : (c.roster.map Account.accountUuid).Nodup
  poll : ∀ r, Yielded (c.tunables.pollStrategy.draw pollSecsLo pollSecsHi) r → 5 ≤ r ∧ r ≤ 3600
  cooldown : ∀ r, Yielded (c.tunables.cooldownStrategy.draw cooldownSecsLo cooldownSecsHi) r →
    5 ≤ r ∧ r ≤ 3600
  sessionCeiling : ∀ r,
    Yielded (c.tunables.sessionCeilingStrategy.drawDownward sessionCeilingPctLo sessionCeilingPctHi) r →
      50 ≤ r ∧ r ≤ 99 ∧ r ≤ c.tunables.sessionCeiling
  weeklyCeiling : ∀ r,
    Yielded (c.tunables.weeklyCeilingStrategy.drawDownward weeklyCeilingPctLo weeklyCeilingPctHi) r →
      50 ≤ r ∧ r ≤ 99 ∧ r ≤ c.tunables.weeklyCeiling
  firePoint : ∀ r,
    Yielded (c.tunables.sessionCeilingStrategy.drawDownward sessionCeilingPctLo sessionCeilingPctHi) r →
      0 < peakRunwayReserveBound (r / 100) c.tunables.nearLimitPollSecs
        c.tunables.sessionVelocityHorizonSecs

/-- The fire point at peak velocity under a ceiling. -/
def fireAt (t : RawTunablesTable) (ceiling : ℚ) : ℚ :=
  peakRunwayReserveBound (ceiling / 100) t.nearLimitPollSecs.toNat
    t.sessionVelocityHorizonSecs.toNat

/-- The jitter leaves room for the fire point under every ceiling that it reaches. The lowest one of a
uniform jitter is not drawn itself, unless it is below the range. -/
def LowestFires (t : RawTunablesTable) (jitter : Option RawJitterSpec) : Prop :=
  ∀ spec ∈ jitter,
    (∀ spread ∈ spec.spread, spread ≠ 0 →
      if t.sessionCeiling - spread < 50 then 0 < fireAt t 50
      else 0 ≤ fireAt t (t.sessionCeiling - spread)) ∧
    ∀ stddev ∈ spec.stddev, stddev ≠ 0 → 0 < fireAt t 50

section Jitter

variable {field : String} {spec : RawJitterSpec} {default' j : Jitter} {param : String} {value : ℚ}

theorem nonNegative_bind_ok {α : Type} {k : Unit → Except ConfigError α} {c : α} :
    (nonNegative field param value >>= k) = .ok c ↔ 0 ≤ value ∧ k () = .ok c := by
  unfold nonNegative
  by_cases h : 0 ≤ value
  · rw [if_pos h]
    exact ⟨fun hk => ⟨h, hk⟩, fun hk => hk.2⟩
  · rw [if_neg h]
    constructor
    · intro habs
      cases habs
    · exact fun habs => absurd habs.1 h

/-- A jitter that is spelled out has the one magnitude of its kind. -/
theorem parseJitter_some (h : parseJitter field (some spec) default' = .ok j) :
    (j = .none ∧ spec.spread = none ∧ spec.stddev = none) ∨
      (∃ x, j = .uniform x ∧ 0 ≤ x ∧ spec.spread = some x ∧ spec.stddev = none) ∨
        ∃ x, j = .normal x ∧ 0 ≤ x ∧ spec.spread = none ∧ spec.stddev = some x := by
  unfold parseJitter at h
  simp only at h
  by_cases hnone : spec.kind = "none"
  · rw [if_pos hnone] at h
    by_cases hmag : spec.spread.isSome = true ∨ spec.stddev.isSome = true
    · rw [if_pos hmag] at h
      cases h
    · rw [if_neg hmag] at h
      rw [not_or] at hmag
      exact .inl ⟨(Except.ok.inj h).symm, by simpa using hmag.1, by simpa using hmag.2⟩
  · rw [if_neg hnone] at h
    by_cases huniform : spec.kind = "uniform"
    · rw [if_pos huniform] at h
      by_cases hmag : spec.stddev.isSome = true
      · rw [if_pos hmag] at h
        cases h
      · rw [if_neg hmag] at h
        cases hspread : spec.spread with
        | none =>
          rw [hspread] at h
          cases h
        | some x =>
          rw [hspread] at h
          obtain ⟨hx, hj⟩ := nonNegative_bind_ok.mp h
          exact .inr (.inl ⟨x, (Except.ok.inj hj).symm, hx, rfl, by simpa using hmag⟩)
    · rw [if_neg huniform] at h
      by_cases hnormal : spec.kind = "normal"
      · rw [if_pos hnormal] at h
        by_cases hmag : spec.spread.isSome = true
        · rw [if_pos hmag] at h
          cases h
        · rw [if_neg hmag] at h
          cases hstddev : spec.stddev with
          | none =>
            rw [hstddev] at h
            cases h
          | some x =>
            rw [hstddev] at h
            obtain ⟨hx, hj⟩ := nonNegative_bind_ok.mp h
            exact .inr (.inr ⟨x, (Except.ok.inj hj).symm, hx, by simpa using hmag, rfl⟩)
      · rw [if_neg hnormal] at h
        cases h

end Jitter

section Fire

variable {s : Strategy} {u z lo hi b x : ℚ} {t : RawTunablesTable} {jitter : Option RawJitterSpec}
  {j : Jitter} {n : ℤ}

theorem drawn_bounds (s : Strategy) (u z : ℚ) (h : lo ≤ hi) :
    lo ≤ s.drawn u z lo hi ∧ s.drawn u z lo hi ≤ hi := by
  unfold Strategy.drawn
  cases s.jitter with
  | none => exact clamp_bounds h
  | uniform spread => exact clamp_bounds h
  | normal stddev => exact clamp_bounds h

theorem drawnDownward_mem (s : Strategy) (u z : ℚ) (h : lo ≤ hi) :
    lo ≤ s.drawnDownward u z lo hi ∧ s.drawnDownward u z lo hi ≤ hi := by
  unfold Strategy.drawnDownward
  cases s.jitter with
  | none => exact clamp_bounds h
  | uniform spread => exact clamp_bounds h
  | normal stddev => exact clamp_bounds h

/-- A jitter whose magnitude is not negative. -/
def Jitter.Plain : Jitter → Prop
  | .none => True
  | .uniform spread => 0 ≤ spread
  | .normal stddev => 0 ≤ stddev

theorem parseJitter_plain (h : parseJitter field jitter .none = .ok j) : j.Plain := by
  cases jitter with
  | none =>
    obtain rfl := Except.ok.inj h
    trivial
  | some spec =>
    rcases parseJitter_some h with ⟨rfl, -, -⟩ | ⟨x, rfl, hx, -, -⟩ | ⟨x, rfl, hx, -, -⟩
    · trivial
    · exact hx
    · exact hx

theorem clamp_le_base (hx : x ≤ b) (hb : lo ≤ b) : clamp x lo hi ≤ b :=
  (min_le_left _ _).trans (max_le hx hb)

/-- Downward is downward. -/
theorem drawnDownward_le (hs : s.jitter.Plain) (hu : 0 ≤ u) (hbase : lo ≤ s.base) :
    s.drawnDownward u z lo hi ≤ s.base := by
  unfold Strategy.drawnDownward
  cases hj : s.jitter with
  | none => exact clamp_le_base le_rfl hbase
  | uniform spread =>
    rw [hj] at hs
    have : 0 ≤ u * spread := mul_nonneg hu hs
    exact clamp_le_base (by linarith) hbase
  | normal stddev =>
    rw [hj] at hs
    have : 0 ≤ |z| * stddev := mul_nonneg (abs_nonneg z) hs
    exact clamp_le_base (by linarith) hbase

theorem clamp_low (h : x ≤ lo) (hhi : lo ≤ hi) : clamp x lo hi = lo := by
  unfold clamp
  rw [max_eq_right h, min_eq_left hhi]

theorem clamp_mid (hlo : lo ≤ x) (hhi : x ≤ hi) : clamp x lo hi = x := by
  unfold clamp
  rw [max_eq_left hlo, min_eq_left hhi]

/-- Above the range's foot the fire point moves with the ceiling. -/
theorem fireAt_sub (hb : 50 ≤ b) (hx : 50 ≤ x) : fireAt t b - fireAt t x = (b - x) / 100 := by
  have heffective : ∀ y : ℚ, 50 ≤ y → effectiveCeiling (y / 100) = y / 100 - tailMargin := by
    intro y hy
    unfold effectiveCeiling tailMargin
    apply max_eq_left
    linarith
  unfold fireAt peakRunwayReserveBound
  rw [heffective b hb, heffective x hx]
  ring

theorem peakRunwayBound_eq (h : t.Admissible) : peakRunwayBound t = fireAt t t.sessionCeiling := by
  have hceiling : ((castU8 t.sessionCeiling : ℤ) : ℚ) = (t.sessionCeiling : ℚ) := by
    rw [castU8_int (by have := h.sessionCeiling; omega)]
  have hnear : castU64 t.nearLimitPollSecs = t.nearLimitPollSecs.toNat := by
    have := h.nearLimitPollSecs
    unfold castU64
    omega
  have hhorizon : castU64 t.sessionVelocityHorizonSecs = t.sessionVelocityHorizonSecs.toNat := by
    have := h.sessionVelocityHorizonSecs
    unfold castU64
    omega
  unfold peakRunwayBound fireAt
  rw [hnear, hhorizon, ← hceiling, Int.cast_natCast]

/-- A uniform jitter comes as near to its lowest ceiling as one likes, and past the foot of the range
it is at the foot. -/
theorem uniform_fires (hb : 50 ≤ b ∧ b ≤ 99) (hx : 0 ≤ x) (hfire : 0 < fireAt t b) :
    (∀ u, 0 ≤ u → u < 1 → 0 < fireAt t (clamp (b - u * x) 50 99)) ↔
      (x ≠ 0 → if b - x < 50 then 0 < fireAt t 50 else 0 ≤ fireAt t (b - x)) := by
  constructor
  · intro h hne
    have hpos : 0 < x := lt_of_le_of_ne hx (Ne.symm hne)
    by_cases hlow : b - x < 50
    · rw [if_pos hlow]
      have hu : (b - 50) / x * x = b - 50 := div_mul_cancel₀ _ hne
      have hfoot := h ((b - 50) / x) (div_nonneg (by linarith) hx) (by
        rw [div_lt_one hpos]
        linarith)
      rwa [hu, sub_sub_cancel, clamp_mid le_rfl (by norm_num)] at hfoot
    · rw [if_neg hlow]
      by_contra hneg
      have hdiff : fireAt t b - fireAt t (b - x) = x / 100 := by
        rw [fireAt_sub hb.1 (by linarith)]
        ring
      -- the sample whose ceiling has its fire point at zero
      have hroot : 100 * fireAt t b / x * x = 100 * fireAt t b := div_mul_cancel₀ _ hne
      have hlt : 100 * fireAt t b < x := by linarith
      have hzero := h (100 * fireAt t b / x) (div_nonneg (by linarith) hx) (by
        rw [div_lt_one hpos]
        exact hlt)
      rw [hroot, clamp_mid (by linarith) (by linarith)] at hzero
      have := fireAt_sub (t := t) hb.1 (x := b - 100 * fireAt t b) (by linarith)
      linarith
  · intro h u hu hu1
    by_cases hne : x = 0
    · rw [hne, mul_zero, sub_zero, clamp_mid hb.1 hb.2]
      exact hfire
    have hpos : 0 < x := lt_of_le_of_ne hx (Ne.symm hne)
    have hux : u * x < x := by nlinarith
    have hux0 : 0 ≤ u * x := mul_nonneg hu hx
    have hroom := h hne
    by_cases hlow : b - x < 50
    · rw [if_pos hlow] at hroom
      by_cases hfoot : b - u * x ≤ 50
      · rwa [clamp_low hfoot (by norm_num)]
      · rw [clamp_mid (by linarith) (by linarith)]
        have := fireAt_sub (t := t) (b := b - u * x) (x := 50) (by linarith) le_rfl
        linarith
    · rw [if_neg hlow] at hroom
      rw [clamp_mid (by linarith) (by linarith)]
      have := fireAt_sub (t := t) (b := b - u * x) (x := b - x) (by linarith) (by linarith)
      linarith

/-- A normal jitter reaches the foot of the range. -/
theorem normal_fires (hb : 50 ≤ b ∧ b ≤ 99) (hx : 0 ≤ x) (hfire : 0 < fireAt t b) :
    (∀ z : ℚ, 0 < fireAt t (clamp (b - |z| * x) 50 99)) ↔ (x ≠ 0 → 0 < fireAt t 50) := by
  constructor
  · intro h hne
    have hz : |(b - 50) / x| * x = b - 50 := by
      rw [abs_of_nonneg (div_nonneg (by linarith) hx), div_mul_cancel₀ _ hne]
    have hfoot := h ((b - 50) / x)
    rwa [hz, sub_sub_cancel, clamp_mid le_rfl (by norm_num)] at hfoot
  · intro h z
    by_cases hne : x = 0
    · rw [hne, mul_zero, sub_zero, clamp_mid hb.1 hb.2]
      exact hfire
    have hroom := h hne
    have hzx : 0 ≤ |z| * x := mul_nonneg (abs_nonneg z) hx
    by_cases hfoot : b - |z| * x ≤ 50
    · rwa [clamp_low hfoot (by norm_num)]
    · rw [clamp_mid (by linarith) (by linarith)]
      have := fireAt_sub (t := t) (b := b - |z| * x) (x := 50) (by linarith) le_rfl
      linarith

/-- Every ceiling that is drawn leaves room for the fire point, if the lowest one does. -/
theorem drawn_fires (h : t.Admissible) (hj : parseJitter "session_ceiling" jitter .none = .ok j) :
    (∀ u z : ℚ, 0 ≤ u → u < 1 →
      0 < fireAt t ((⟨t.sessionCeiling, j⟩ : Strategy).drawnDownward u z 50 99)) ↔
      LowestFires t jitter := by
  have hb : (50 : ℚ) ≤ t.sessionCeiling ∧ (t.sessionCeiling : ℚ) ≤ 99 :=
    ⟨by exact_mod_cast h.sessionCeiling.1, by exact_mod_cast h.sessionCeiling.2⟩
  have hfire : 0 < fireAt t t.sessionCeiling := peakRunwayBound_eq h ▸ h.peakRunway
  have hbase : 0 < fireAt t (clamp t.sessionCeiling 50 99) := by
    rwa [clamp_mid hb.1 hb.2]
  unfold Strategy.drawnDownward LowestFires
  cases jitter with
  | none =>
    obtain rfl := Except.ok.inj hj
    simp [hbase]
  | some spec =>
    rcases parseJitter_some hj with
      ⟨rfl, hspread, hstddev⟩ | ⟨x, rfl, hx, hspread, hstddev⟩ | ⟨x, rfl, hx, hspread, hstddev⟩
    · simp [hbase, hspread, hstddev]
    · simp only [Option.mem_def, Option.some.injEq, forall_eq', hspread, hstddev, reduceCtorEq,
        false_implies, implies_true, and_true]
      rw [← uniform_fires hb hx hfire]
      exact ⟨fun hall u => hall u 0, fun hall u _ => hall u⟩
    · simp only [Option.mem_def, Option.some.injEq, forall_eq', hspread, hstddev, reduceCtorEq,
        false_implies, implies_true, true_and]
      rw [← normal_fires hb hx hfire]
      exact ⟨fun hall z => hall 0 z le_rfl (by norm_num), fun hall _ z _ _ => hall z⟩

end Fire

/-! ## Sound configurations -/

section Sound

variable [StrDebug] {raw : RawConfig} {c : Config}

omit [StrDebug] in
theorem admitJitter_ok {jitter : RawJitter} {table : JitterTable} (h : admitJitter jitter = .ok table) :
    parseJitter "session_ceiling" jitter.sessionCeiling .none = .ok table.sessionCeiling ∧
      parseJitter "weekly_ceiling" jitter.weeklyCeiling .none = .ok table.weeklyCeiling := by
  unfold admitJitter at h
  simp only [bind_ok_iff] at h
  obtain ⟨poll, -, sessionCeiling, hsession, weeklyCeiling, hweekly, cooldown, -, htable⟩ := h
  obtain rfl := Except.ok.inj htable
  exact ⟨hsession, hweekly⟩

theorem sessionCeilingStrategy_of_validate (h : Config.validate raw = .ok c) :
    ∃ j, parseJitter "session_ceiling" raw.jitter.sessionCeiling .none = .ok j ∧
      c.tunables.sessionCeilingStrategy = ⟨raw.tunables.sessionCeiling, j⟩ := by
  obtain ⟨jitter, hjitter, htunables⟩ := (accepted_of_validate h).jitter
  refine ⟨jitter.sessionCeiling, (admitJitter_ok hjitter).1, ?_⟩
  rw [htunables]
  rfl

theorem weeklyCeilingStrategy_of_validate (h : Config.validate raw = .ok c) :
    ∃ j, parseJitter "weekly_ceiling" raw.jitter.weeklyCeiling .none = .ok j ∧
      c.tunables.weeklyCeilingStrategy = ⟨raw.tunables.weeklyCeiling, j⟩ := by
  obtain ⟨jitter, hjitter, htunables⟩ := (accepted_of_validate h).jitter
  refine ⟨jitter.weeklyCeiling, (admitJitter_ok hjitter).2, ?_⟩
  rw [htunables]
  rfl

/-- Every ceiling that the daemon draws leaves room for the fire point, just when the lowest does. -/
theorem firePoint_iff (h : Config.validate raw = .ok c) :
    (∀ r, Yielded (c.tunables.sessionCeilingStrategy.drawDownward sessionCeilingPctLo
        sessionCeilingPctHi) r → 0 < peakRunwayReserveBound (r / 100) c.tunables.nearLimitPollSecs
          c.tunables.sessionVelocityHorizonSecs) ↔
      LowestFires raw.tunables raw.jitter.sessionCeiling := by
  have ha := accepted_of_validate h
  obtain ⟨j, hj, hstrategy⟩ := sessionCeilingStrategy_of_validate h
  have hfireAt : ∀ r, fireAt raw.tunables r = peakRunwayReserveBound (r / 100)
      c.tunables.nearLimitPollSecs c.tunables.sessionVelocityHorizonSecs := by
    intro r
    unfold fireAt
    rw [← ha.verbatim.nearLimitPollSecs, ← ha.verbatim.sessionVelocityHorizonSecs,
      Int.toNat_natCast, Int.toNat_natCast]
  rw [← drawn_fires ha.tunables hj, hstrategy]
  simp only [yielded_drawDownward, ← hfireAt]
  constructor
  · exact fun hall u z hu hu1 => hall _ ⟨u, z, ⟨hu, hu1⟩, rfl⟩
  · rintro hall r ⟨u, z, ⟨hu, hu1⟩, rfl⟩
    exact hall u z hu hu1

omit [StrDebug] in
/-- A ceiling is drawn within its range and not above its base. -/
theorem drawn_ceiling {j : Jitter} {jitter : Option RawJitterSpec} {field : String} {base : ℤ} {r : ℚ}
    (hj : parseJitter field jitter .none = .ok j) (hbase : 50 ≤ base)
    (hr : Yielded ((⟨base, j⟩ : Strategy).drawDownward 50 99) r) : 50 ≤ r ∧ r ≤ 99 ∧ r ≤ base := by
  obtain ⟨u, z, hu, rfl⟩ := yielded_drawDownward.mp hr
  have hmem : 50 ≤ (⟨base, j⟩ : Strategy).drawnDownward u z 50 99 ∧
      (⟨base, j⟩ : Strategy).drawnDownward u z 50 99 ≤ 99 := drawnDownward_mem _ u z (by norm_num)
  have hfoot : ((50 : ℤ) : ℚ) ≤ base := Int.cast_le.mpr hbase
  exact ⟨hmem.1, hmem.2, drawnDownward_le (parseJitter_plain hj) hu.1 hfoot⟩

/-- An accepted configuration is sound, to the width of its numbers, just when the lowest ceiling that
its jitter reaches leaves room for the fire point. -/
theorem validated_sound_iff (h : Config.validate raw = .ok c) :
    c.Sound ∧ Verbatim raw c ↔ LowestFires raw.tunables raw.jitter.sessionCeiling := by
  rw [← firePoint_iff h]
  constructor
  · exact fun hsound => hsound.1.firePoint
  intro hfirePoint
  have ha := accepted_of_validate h
  have ht := ha.tunables
  have hv := ha.verbatim
  refine ⟨?_, hv⟩
  have hceiling := hv.sessionCeiling
  have hreserve := hv.targetMaxSessionUsage
  have hrange := ht.sessionCeiling
  constructor
  · cases htarget : raw.tunables.targetMaxSessionUsage with
    | none =>
      rw [htarget, Option.getD_none] at hreserve
      omega
    | some value =>
      rw [htarget, Option.getD_some] at hreserve
      have := ht.targetMaxSessionUsage value htarget
      omega
  · have := ht.exhaustedPollSecs
    have := hv.pollSecs
    have := hv.exhaustedPollSecs
    omega
  · rw [ha.roster, List.map_map]
    exact ha.distinct
  · intro r hr
    obtain ⟨u, z, -, rfl⟩ := yielded_draw.mp hr
    exact drawn_bounds _ u z (by norm_num [pollSecsLo, pollSecsHi])
  · intro r hr
    obtain ⟨u, z, -, rfl⟩ := yielded_draw.mp hr
    exact drawn_bounds _ u z (by norm_num [cooldownSecsLo, cooldownSecsHi])
  · intro r hr
    obtain ⟨j, hj, hstrategy⟩ := sessionCeilingStrategy_of_validate h
    rw [hstrategy] at hr
    have hdrawn := drawn_ceiling hj hrange.1 hr
    rwa [← hceiling, Int.cast_natCast] at hdrawn
  · intro r hr
    obtain ⟨j, hj, hstrategy⟩ := weeklyCeilingStrategy_of_validate h
    rw [hstrategy] at hr
    have hdrawn := drawn_ceiling hj ht.weeklyCeiling.1 hr
    rwa [← hv.weeklyCeiling, Int.cast_natCast] at hdrawn
  · exact hfirePoint

end Sound

/-- `{:?}` of a text that has nothing to escape. -/
instance plainDebug : StrDebug := ⟨fun text => "\"" ++ text ++ "\""⟩

/-- One account, and nothing else set. -/
def sampleRaw : RawConfig where
  account := [{ accountUuid := "aaaa-1111", label := "A" }]

/-- A long horizon, and a ceiling that is drawn down to 50. -/
def jitteryRaw : RawConfig where
  account := [{ accountUuid := "aaaa-1111", label := "A" }]
  tunables := { sessionVelocityHorizonSecs := 600 }
  jitter := { sessionCeiling := some { kind := "uniform", spread := some 45 } }

theorem sampleRaw_accepted : (Config.validate sampleRaw).toOption.isSome = true := by
  decide +kernel

theorem jitteryRaw_accepted : (Config.validate jitteryRaw).toOption.isSome = true := by
  decide +kernel

theorem ok_of_isSome {ε α : Type} {x : Except ε α} (h : x.toOption.isSome = true) : ∃ a, x = .ok a := by
  cases x with
  | error e => cases h
  | ok a => exact ⟨a, rfl⟩

theorem validated_sound_sample : ∃ c, Config.validate sampleRaw = .ok c ∧ c.Sound := by
  obtain ⟨c, hc⟩ := ok_of_isSome sampleRaw_accepted
  have hfires : LowestFires sampleRaw.tunables sampleRaw.jitter.sessionCeiling := by
    intro spec hspec
    cases hspec
  exact ⟨c, hc, ((validated_sound_iff hc).mpr hfires).1⟩

/-- A configuration is accepted whose drawn ceilings leave no room for the fire point. -/
theorem accepted_unsound : ∃ raw c, Config.validate raw = .ok c ∧ ¬c.Sound := by
  obtain ⟨c, hc⟩ := ok_of_isSome jitteryRaw_accepted
  refine ⟨jitteryRaw, c, hc, ?_⟩
  intro hsound
  have hroom := ((firePoint_iff hc).mp hsound.firePoint _ rfl).1 45 rfl (by norm_num)
  have hlow : ¬(fireAt jitteryRaw.tunables (jitteryRaw.tunables.sessionCeiling - 45) ≥ 0) := by
    decide +kernel
  have hfoot : ¬((jitteryRaw.tunables.sessionCeiling : ℚ) - 45 < 50) := by
    decide +kernel
  rw [if_neg hfoot] at hroom
  exact hlow hroom

end Sessiometer
