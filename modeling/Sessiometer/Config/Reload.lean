import Sessiometer.Config.Render
import Sessiometer.Config.Sound

/-! # A file that is written is read again

Whatever the validator has admitted is written in a form that it reads back and admits again, as the same
configuration. -/

namespace Sessiometer

open Toml

/-! ## What a rendering is read as -/

def TunablesTable.raw (t : TunablesTable) : RawTunablesTable where
  pollSecs := t.pollSecs
  exhaustedPollSecs := t.exhaustedPollSecs
  nearLimitPollSecs := t.nearLimitPollSecs
  cooldownSecs := t.cooldownSecs
  targetMaxSessionUsage := some t.targetMaxSessionUsage
  sessionCeiling := t.sessionCeiling
  weeklyCeiling := t.weeklyCeiling
  sessionBlindSwapSecs := t.sessionBlindSwapSecs
  sessionBlindRiskBand := t.sessionBlindRiskBand
  sessionVelocityHorizonSecs := t.sessionVelocityHorizonSecs
  sessionVelocityMinProjectAbove := t.sessionVelocityMinProjectAbove
  sessionVelocityEmaAlphaPct := t.sessionVelocityEmaAlphaPct
  monitor401N := t.monitor401N
  monitorRecoveryM := t.monitorRecoveryM
  fleetRunwayWarnSecs := t.fleetRunwayWarnSecs
  canaryDriftOverride := t.canaryDriftOverride
  canaryNostashmatchOverride := t.canaryNostashmatchOverride
  canaryOnlineProbe := t.canaryOnlineProbe
  canaryOnlineProbeStrict := t.canaryOnlineProbeStrict
  verbose := t.verbose

def Jitter.spec : Jitter → RawJitterSpec
  | .none => { kind := "none" }
  | .uniform spread => { kind := "uniform", spread := some spread }
  | .normal stddev => { kind := "normal", stddev := some stddev }

def TunablesTable.rawJitter (t : TunablesTable) : RawJitter where
  poll := some t.pollStrategy.jitter.spec
  sessionCeiling := some t.sessionCeilingStrategy.jitter.spec
  weeklyCeiling := some t.weeklyCeilingStrategy.jitter.spec
  cooldown := some t.cooldownStrategy.jitter.spec

def RefreshTable.raw (r : RefreshTable) : RawRefresh where
  enabled := r.enabled
  accounts := r.accounts
  cadenceSecs := r.cadenceSecs
  idleAfterSecs := r.idleAfterSecs
  timeoutSecs := r.timeoutSecs
  claudeBin := r.claudeBin
  systemicFailureN := r.systemicFailureN
  proactiveKeepWarm := r.proactiveKeepWarm

def LoginConfig.raw (l : LoginConfig) : RawLogin where
  timeoutSecs := l.timeoutSecs
  claudeBin := l.claudeBin

def StatsConfig.raw (s : StatsConfig) : RawStats where
  rawRetentionSecs := s.rawRetentionSecs
  hourlyRetentionSecs := s.hourlyRetentionSecs
  dailyRetentionSecs := s.dailyRetentionSecs
  defaultPeriod := s.defaultPeriod

def MigrationConfig.raw (m : MigrationConfig) : RawMigration where
  kdfMemoryKib := m.kdfMemoryKib
  kdfIterations := m.kdfIterations
  conflictPolicy := m.conflictPolicy.asStr

def CredentialConfig.raw (c : CredentialConfig) : RawCredential where
  expiryHorizonSecs := c.expiryHorizonSecs
  expiryCohortWindowSecs := c.expiryCohortWindowSecs
  plaintextFallback := c.plaintextFallback.asStr

def Account.raw (a : Account) : RawAccount := ⟨a.accountUuid, a.label, a.enabled⟩

def Config.raw (c : Config) : RawConfig where
  account := c.roster.map Account.raw
  tunables := c.tunables.raw
  jitter := c.tunables.rawJitter
  refresh := c.refresh.raw
  login := c.login.raw
  stats := c.stats.raw
  migration := c.migration.raw
  credential := c.credential.raw

section Decode

theorem decode_tunables (t : TunablesTable) :
    RawTunablesTable.decode (.table t.render) = some t.raw := by
  simp [RawTunablesTable.decode, table, RawTunablesTable.fields, field, TunablesTable.render,
    tunableNames, targetMaxNames, integer, boolean, TunablesTable.raw]

theorem decode_spec (j : Jitter) : RawJitterSpec.decode j.render = some j.spec := by
  cases j with
  | none => simp [Jitter.render, Jitter.spec, RawJitterSpec.decode, table, field, string]
  | uniform spread =>
    simp [Jitter.render, Jitter.spec, RawJitterSpec.decode, table, field, string, float]
  | normal stddev =>
    simp [Jitter.render, Jitter.spec, RawJitterSpec.decode, table, field, string, float]

theorem decode_jitter (t : TunablesTable) :
    RawJitter.decode (.table t.renderJitter) = some t.rawJitter := by
  simp [RawJitter.decode, table, TunablesTable.renderJitter, RawJitter.spec, field, decode_spec,
    TunablesTable.rawJitter]

theorem array_strings (texts : List String) :
    array string (.array (texts.map .string)) = some texts := by
  have h : items string (texts.map .string) = some (texts.map id) := items_map fun _ _ => rfl
  rwa [List.map_id] at h

theorem decode_refresh (r : RefreshTable) : RawRefresh.decode (.table r.render) = some r.raw := by
  unfold RefreshTable.render RefreshTable.raw
  cases r.claudeBin with
  | none =>
    simp [RawRefresh.decode, table, field, renderBin, claudeBinField, integer, boolean, array_strings]
  | some bin =>
    simp [RawRefresh.decode, table, field, renderBin, claudeBinField, integer, boolean, string,
      array_strings]

theorem decode_login (l : LoginConfig) : RawLogin.decode (.table l.render) = some l.raw := by
  unfold LoginConfig.render LoginConfig.raw
  cases l.claudeBin with
  | none => simp [RawLogin.decode, table, field, renderBin, claudeBinField, integer]
  | some bin => simp [RawLogin.decode, table, field, renderBin, claudeBinField, integer, string]

theorem decode_stats (s : StatsConfig) : RawStats.decode (.table s.render) = some s.raw := by
  simp [RawStats.decode, table, field, StatsConfig.render, StatsConfig.raw, integer, string]

theorem decode_migration (m : MigrationConfig) :
    RawMigration.decode (.table m.render) = some m.raw := by
  simp [RawMigration.decode, table, field, MigrationConfig.render, MigrationConfig.raw, integer, string]

theorem decode_credential (c : CredentialConfig) :
    RawCredential.decode (.table c.render) = some c.raw := by
  simp [RawCredential.decode, table, field, CredentialConfig.render, CredentialConfig.raw, integer,
    string]

theorem decode_account (a : Account) : RawAccount.decode (.table a.render) = some a.raw := by
  simp [RawAccount.decode, table, field, Account.render, Account.raw, string, boolean]

theorem decode_accounts (roster : List Account) :
    array RawAccount.decode (.array (roster.map fun a => .table a.render)) =
      some (roster.map Account.raw) :=
  items_map fun a _ => decode_account a

/-- Each section is written without a key twice. -/
theorem distinct_sections (c : Config) : ∀ e ∈ c.sections, Distinct e.2 := by
  have hj : ∀ j : Jitter, j.render.distinct = true := by
    intro j
    cases j <;> simp [Jitter.render, Value.distinct, distinctEntries_iff, keys]
  have hr : Distinct c.refresh.render := by
    unfold RefreshTable.render
    cases c.refresh.claudeBin with
    | none => simp [renderBin, distinct_iff, keys, Value.distinct, distinctItems_iff]
    | some bin => simp [renderBin, distinct_iff, keys, Value.distinct, distinctItems_iff]
  have hl : Distinct c.login.render := by
    unfold LoginConfig.render
    cases c.login.claudeBin with
    | none => simp [renderBin, distinct_iff, keys, Value.distinct]
    | some bin => simp [renderBin, distinct_iff, keys, Value.distinct]
  intro e he
  simp only [Config.sections, List.mem_cons, List.not_mem_nil, or_false] at he
  rcases he with rfl | rfl | rfl | rfl | rfl | rfl | rfl
  · simp [TunablesTable.render, distinct_iff, keys, Value.distinct]
  · simp [TunablesTable.renderJitter, distinct_iff, keys, hj]
  · exact hr
  · exact hl
  · simp [StatsConfig.render, distinct_iff, keys, Value.distinct]
  · simp [MigrationConfig.render, distinct_iff, keys, Value.distinct]
  · simp [CredentialConfig.render, distinct_iff, keys, Value.distinct]

theorem distinct_account (a : Account) : Distinct a.render := by
  simp [Account.render, distinct_iff, keys, Value.distinct]

/-- The document of any configuration. -/
theorem read_rendered (c : Config) : Toml.read c.render =
    some (c.sections.map (fun e => (e.1, .table e.2)) ++
      if c.roster.isEmpty then [] else [("account", .array (c.roster.map fun a => .table a.render))]) := by
  unfold Config.render
  rw [read_written (by simp [Config.sections, keys]) (by simp [Config.sections, keys])
    (distinct_sections c) (by simp [distinct_account])]
  simp [List.map_map, Function.comp_def]

/-- Any configuration is written in a form that is read again, whatever its values are. -/
theorem read_render (c : Config) : RawConfig.read c.render = some c.raw := by
  unfold RawConfig.read Config.raw
  rw [read_rendered, Option.bind_some]
  by_cases hempty : c.roster.isEmpty
  · rw [if_pos hempty, List.append_nil, List.isEmpty_iff.mp hempty]
    simp [RawConfig.decode, table, field, Config.sections, decode_tunables, decode_jitter,
      decode_refresh, decode_login, decode_stats, decode_migration, decode_credential]
  · rw [if_neg hempty]
    simp [RawConfig.decode, table, field, Config.sections, decode_tunables, decode_jitter,
      decode_refresh, decode_login, decode_stats, decode_migration, decode_credential, decode_accounts]

end Decode

/-! ## What is admitted is admitted again -/

section Jitter

variable {field : String} {spec : Option RawJitterSpec} {default' j : Jitter}

theorem plain_parseJitter (hd : default'.Plain) (h : parseJitter field spec default' = .ok j) :
    j.Plain := by
  cases spec with
  | none =>
    obtain rfl := Except.ok.inj h
    exact hd
  | some spec =>
    rcases parseJitter_some h with ⟨rfl, -, -⟩ | ⟨x, rfl, hx, -, -⟩ | ⟨x, rfl, hx, -, -⟩
    · trivial
    · exact hx
    · exact hx

theorem parseJitter_spec (h : j.Plain) : parseJitter field (some j.spec) default' = .ok j := by
  cases j with
  | none => simp [parseJitter, Jitter.spec]
  | uniform spread =>
    have hx : 0 ≤ spread := h
    simp [parseJitter, Jitter.spec, nonNegative, hx, bind, Except.bind]
  | normal stddev =>
    have hx : 0 ≤ stddev := h
    simp [parseJitter, Jitter.spec, nonNegative, hx, bind, Except.bind]

theorem defaultPollJitter_plain : defaultPollJitter.Plain := by
  have h : (0 : ℚ) ≤ 60 := by norm_num
  exact h

end Jitter

section Settled

variable {t : RawTunablesTable} {jitter : RawJitter} {table : JitterTable}

/-- The tunables with the reserve spelled out. -/
def RawTunablesTable.settled (t : RawTunablesTable) : RawTunablesTable :=
  { t with targetMaxSessionUsage := some (targetMaxOf t) }

theorem targetMaxOf_bounds (h : t.Admissible) :
    1 ≤ (targetMaxOf t : ℤ) ∧ (targetMaxOf t : ℤ) ≤ t.sessionCeiling := by
  have hceiling := h.sessionCeiling
  have hint : (targetMaxOf t : ℤ) = t.targetMaxSessionUsage.getD (min 80 t.sessionCeiling) :=
    @targetMaxOf_int { tunables := t } h
  cases htarget : t.targetMaxSessionUsage with
  | none =>
    rw [htarget, Option.getD_none] at hint
    omega
  | some value =>
    have hvalue := h.targetMaxSessionUsage value htarget
    rw [htarget, Option.getD_some] at hint
    omega

theorem admissible_settled (h : t.Admissible) : t.settled.Admissible := by
  have htarget : ∀ value ∈ t.settled.targetMaxSessionUsage, 1 ≤ value ∧ value ≤ t.sessionCeiling := by
    intro value hvalue
    obtain rfl := Option.some.inj hvalue
    exact targetMaxOf_bounds h
  exact { h with targetMaxSessionUsage := htarget }

theorem admitTunables_settled (h : t.Admissible) : admitTunables t.settled = .ok (targetMaxOf t) := by
  rw [admitTunables_ok]
  have hbounds := targetMaxOf_bounds h
  have hceiling := h.sessionCeiling
  have hcast : (castU8 (targetMaxOf t) : ℤ) = targetMaxOf t := castU8_int (by omega)
  exact ⟨admissible_settled h, (Int.ofNat.inj hcast).symm⟩

theorem raw_narrowTunables (h : t.Admissible) :
    (narrowTunables t (targetMaxOf t) table).raw = t.settled := by
  have hnear := h.nearLimitPollSecs
  have hfleet := h.fleetRunwayWarnSecs
  obtain ⟨h₁, h₂, h₃, h₄, h₅, h₆, h₇, -, h₉, h₁₀, -, -, h₁₃, h₁₄, h₁₅, -⟩ := h
  have hpoll : (castU64 t.pollSecs : ℤ) = t.pollSecs := castU64_int (by omega)
  have hexhausted : (castU64 t.exhaustedPollSecs : ℤ) = t.exhaustedPollSecs := castU64_int (by omega)
  have hlimit : (castU64 t.nearLimitPollSecs : ℤ) = t.nearLimitPollSecs := castU64_int (by omega)
  have hcooldown : (castU64 t.cooldownSecs : ℤ) = t.cooldownSecs := castU64_int (by omega)
  have hsession : (castU8 t.sessionCeiling : ℤ) = t.sessionCeiling := castU8_int (by omega)
  have hweekly : (castU8 t.weeklyCeiling : ℤ) = t.weeklyCeiling := castU8_int (by omega)
  have hblind : (castU64 t.sessionBlindSwapSecs : ℤ) = t.sessionBlindSwapSecs := castU64_int (by omega)
  have hband : (castU8 t.sessionBlindRiskBand : ℤ) = t.sessionBlindRiskBand := castU8_int (by omega)
  have hhorizon : (castU64 t.sessionVelocityHorizonSecs : ℤ) = t.sessionVelocityHorizonSecs :=
    castU64_int (by omega)
  have habove : (castU8 t.sessionVelocityMinProjectAbove : ℤ) = t.sessionVelocityMinProjectAbove :=
    castU8_int (by omega)
  have halpha : (castU8 t.sessionVelocityEmaAlphaPct : ℤ) = t.sessionVelocityEmaAlphaPct :=
    castU8_int (by omega)
  have hn : (castU8 t.monitor401N : ℤ) = t.monitor401N := castU8_int (by omega)
  have hm : (castU8 t.monitorRecoveryM : ℤ) = t.monitorRecoveryM := castU8_int (by omega)
  have hwarn : (castU64 t.fleetRunwayWarnSecs : ℤ) = t.fleetRunwayWarnSecs := castU64_int (by omega)
  simp only [TunablesTable.raw, narrowTunables, hpoll, hexhausted, hlimit, hcooldown, hsession, hweekly,
    hblind, hband, hhorizon, habove, halpha, hn, hm, hwarn]
  rfl

theorem admitJitter_rawJitter (h : admitJitter jitter = .ok table) :
    admitJitter (narrowTunables t target table).rawJitter = .ok table := by
  unfold admitJitter at h
  simp only [bind_ok_iff] at h
  obtain ⟨poll, hpoll, sessionCeiling, hsession, weeklyCeiling, hweekly, cooldown, hcooldown, htable⟩ := h
  obtain rfl := Except.ok.inj htable
  have hp := plain_parseJitter defaultPollJitter_plain hpoll
  unfold admitJitter
  simp only [TunablesTable.rawJitter, narrowTunables, parseJitter_spec hp,
    parseJitter_spec (parseJitter_plain hsession), parseJitter_spec (parseJitter_plain hweekly),
    parseJitter_spec (parseJitter_plain hcooldown)]
  rfl

end Settled

section Sections

variable [StrDebug]

theorem admitRoster_raw {accounts : List RawAccount} {roster : List Account}
    (h : admitRoster [] accounts = .ok roster) : admitRoster [] (roster.map Account.raw) = .ok roster := by
  have hroster := (admitRoster_ok.mp h).2.2
  have hraw : roster.map Account.raw = accounts := by
    rw [hroster, List.map_map]
    exact List.map_id _
  rwa [hraw]

omit [StrDebug] in
theorem claudeBinOf_idem (claudeBin : Option String) :
    claudeBinOf (claudeBinOf claudeBin) = claudeBinOf claudeBin := by
  unfold claudeBinOf
  rw [Option.filter_filter]
  simp

omit [StrDebug] in
theorem admitRefresh_raw {r : RawRefresh} {x : RefreshTable} (h : admitRefresh r = .ok x) :
    admitRefresh x.raw = .ok x := by
  unfold admitRefresh at h
  simp only [range_bind_ok, Except.ok.injEq] at h
  obtain ⟨h₁, h₂, h₃, h₄, rfl⟩ := h
  have hcadence : (castU64 r.cadenceSecs : ℤ) = r.cadenceSecs := castU64_int (by omega)
  have hidle : (castU64 r.idleAfterSecs : ℤ) = r.idleAfterSecs := castU64_int (by omega)
  have htimeout : (castU64 r.timeoutSecs : ℤ) = r.timeoutSecs := castU64_int (by omega)
  have hn : (castU32 r.systemicFailureN : ℤ) = r.systemicFailureN := castU32_eq (by omega) (by omega)
  unfold admitRefresh
  simp only [RefreshTable.raw, range_bind_ok, hcadence, hidle, htimeout, hn, claudeBinOf_idem]
  exact ⟨h₁, h₂, h₃, h₄, trivial⟩

omit [StrDebug] in
theorem admitLogin_raw {l : RawLogin} {x : LoginConfig} (h : admitLogin l = .ok x) :
    admitLogin x.raw = .ok x := by
  unfold admitLogin at h
  simp only [range_bind_ok, Except.ok.injEq] at h
  obtain ⟨h₁, rfl⟩ := h
  have htimeout : (castU64 l.timeoutSecs : ℤ) = l.timeoutSecs := castU64_int (by omega)
  unfold admitLogin
  simp only [LoginConfig.raw, range_bind_ok, htimeout, claudeBinOf_idem]
  exact ⟨h₁, trivial⟩

theorem admitStats_raw {s : RawStats} {x : StatsConfig} (h : admitStats s = .ok x) :
    admitStats x.raw = .ok x := by
  unfold admitStats at h
  simp only [range_bind_ok, reject_bind_ok, Except.ok.injEq] at h
  obtain ⟨h₁, h₂, h₃, hperiod, rfl⟩ := h
  have hraw : (castU64 s.rawRetentionSecs : ℤ) = s.rawRetentionSecs := castU64_int (by omega)
  have hhourly : (castU64 s.hourlyRetentionSecs : ℤ) = s.hourlyRetentionSecs := castU64_int (by omega)
  have hdaily : (castU64 s.dailyRetentionSecs : ℤ) = s.dailyRetentionSecs := castU64_int (by omega)
  unfold admitStats
  simp only [StatsConfig.raw, range_bind_ok, reject_bind_ok, hraw, hhourly, hdaily]
  exact ⟨h₁, h₂, h₃, hperiod, trivial⟩

omit [StrDebug] in
theorem ofToken_asStr (p : ConflictPolicy) : ConflictPolicy.ofToken p.asStr = some p := by
  cases p <;> rfl

omit [StrDebug] in
theorem fromToken_asStr (m : PlaintextFallbackMode) : PlaintextFallbackMode.fromToken m.asStr = some m := by
  cases m <;> rfl

theorem admitMigration_raw {m : RawMigration} {x : MigrationConfig} (h : admitMigration m = .ok x) :
    admitMigration x.raw = .ok x := by
  unfold admitMigration at h
  simp only [range_bind_ok, token_bind_ok, Except.ok.injEq] at h
  obtain ⟨h₁, h₂, policy, hpolicy, rfl⟩ := h
  have hmemory : (castU32 m.kdfMemoryKib : ℤ) = m.kdfMemoryKib := castU32_eq (by omega) (by omega)
  have hiterations : (castU32 m.kdfIterations : ℤ) = m.kdfIterations := castU32_eq (by omega) (by omega)
  unfold admitMigration
  simp only [MigrationConfig.raw, range_bind_ok, token_bind_ok, hmemory, hiterations, ofToken_asStr]
  exact ⟨h₁, h₂, policy, rfl, rfl⟩

theorem admitCredential_raw {r : RawCredential} {x : CredentialConfig} (h : admitCredential r = .ok x) :
    admitCredential x.raw = .ok x := by
  unfold admitCredential at h
  simp only [range_bind_ok, token_bind_ok, Except.ok.injEq] at h
  obtain ⟨h₁, h₂, mode, hmode, rfl⟩ := h
  have hhorizon : (castU64 r.expiryHorizonSecs : ℤ) = r.expiryHorizonSecs := castU64_int (by omega)
  have hwindow : (castU64 r.expiryCohortWindowSecs : ℤ) = r.expiryCohortWindowSecs :=
    castU64_int (by omega)
  unfold admitCredential
  simp only [CredentialConfig.raw, range_bind_ok, token_bind_ok, hhorizon, hwindow, fromToken_asStr]
  exact ⟨h₁, h₂, mode, rfl, rfl⟩

/-- What the validator has made is what it makes of its rendering. -/
theorem validate_raw {raw : RawConfig} {c : Config} (h : Config.validate raw = .ok c) :
    Config.validate c.raw = .ok c := by
  unfold Config.validate at h
  simp only [bind_ok_iff, admitTunables_ok] at h
  obtain ⟨_, ⟨ht, rfl⟩, jitter, hjitter, roster, hroster, refresh, hrefresh, login, hlogin, stats, hstats,
    migration, hmigration, credential, hcredential, hc⟩ := h
  obtain rfl := Except.ok.inj hc
  unfold Config.validate
  simp only [Config.raw, raw_narrowTunables ht, admitTunables_settled ht, admitJitter_rawJitter hjitter,
    admitRoster_raw hroster, admitRefresh_raw hrefresh, admitLogin_raw hlogin, admitStats_raw hstats,
    admitMigration_raw hmigration, admitCredential_raw hcredential]
  rfl

end Sections

/-! ## The round trip -/

section Reload

variable [StrDebug] {c : Config} {lines : List Toml.Line}

/-- A configuration that the validator can have made. -/
def Config.Valid (c : Config) : Prop := Config.validate c.raw = .ok c

theorem parse_ok : Config.parse lines = .ok c ↔
    ∃ raw, RawConfig.read lines = some raw ∧ Config.validate raw = .ok c := by
  unfold Config.parse
  cases RawConfig.read lines with
  | none => simp
  | some raw =>
    cases hv : Config.validate raw with
    | error e => simp [hv]
    | ok config => simp [hv]

theorem valid_of_parse (h : Config.parse lines = .ok c) : c.Valid := by
  obtain ⟨raw, -, hraw⟩ := parse_ok.mp h
  exact validate_raw hraw

theorem parse_render (h : c.Valid) : Config.parse c.render = .ok c :=
  parse_ok.mpr ⟨c.raw, read_render c, h⟩

theorem Config.Valid.accounts (h : c.Valid) :
    (∀ a ∈ c.roster, a.raw.Admissible) ∧ (c.roster.map (·.accountUuid)).Nodup := by
  have haccepted := accepted_of_validate h
  have hdistinct : ((c.roster.map Account.raw).map RawAccount.accountUuid).Nodup := haccepted.distinct
  rw [List.map_map] at hdistinct
  exact ⟨fun a ha => haccepted.accounts a.raw (List.mem_map_of_mem ha), hdistinct⟩

/-- A valid configuration stays so under another roster of admissible accounts. -/
theorem Config.Valid.withRoster {roster : List Account} (h : c.Valid)
    (ha : ∀ a ∈ roster, a.raw.Admissible) (hd : (roster.map (·.accountUuid)).Nodup) :
    ({ c with roster } : Config).Valid := by
  have hroster : admitRoster [] (roster.map Account.raw) = .ok roster := by
    rw [admitRoster_ok]
    refine ⟨?_, ?_, ?_⟩
    · intro r hr
      obtain ⟨a, hmem, rfl⟩ := List.mem_map.mp hr
      exact ⟨ha a hmem, List.not_mem_nil⟩
    · rw [List.map_map]
      exact hd
    · rw [List.map_map]
      exact (List.map_id _).symm
  unfold Config.Valid Config.validate at h ⊢
  simp only [bind_ok_iff] at h ⊢
  obtain ⟨target, htarget, jitter, hjitter, _, -, refresh, hrefresh, login, hlogin, stats, hstats,
    migration, hmigration, credential, hcredential, hc⟩ := h
  refine ⟨target, htarget, jitter, hjitter, roster, hroster, refresh, hrefresh, login, hlogin, stats,
    hstats, migration, hmigration, credential, hcredential, ?_⟩
  exact congrArg (fun d : Config => (Except.ok { d with roster } : Except ConfigError Config))
    (Except.ok.inj hc)

end Reload

end Sessiometer
