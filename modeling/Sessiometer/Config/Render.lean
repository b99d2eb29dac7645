import Sessiometer.Config.Load

/-! # Writing the configuration

The file is written section by section, every setting in it with its value, and the accounts at the end.
The report of the origins walks the same sections. -/

namespace Sessiometer

open Toml

def ConflictPolicy.asStr : ConflictPolicy → String
  | .skip => "skip"
  | .overwrite => "overwrite"

def PlaintextFallbackMode.asStr : PlaintextFallbackMode → String
  | .remove => "remove"
  | .touch => "touch"
  | .off => "off"

/-- `render_jitter`. -/
def Jitter.render : Jitter → Toml.Value
  | .none => .table [("kind", .string "none")]
  | .uniform spread => .table [("kind", .string "uniform"), ("spread", .float spread)]
  | .normal stddev => .table [("kind", .string "normal"), ("stddev", .float stddev)]

/-- A path that is not set leaves only a comment. -/
def renderBin (claudeBin : Option String) : Toml.Table :=
  (claudeBin.map fun bin => ("claude_bin", Toml.Value.string bin)).toList

def TunablesTable.render (t : TunablesTable) : Toml.Table :=
  [("poll_secs", .integer t.pollSecs),
    ("exhausted_poll_secs", .integer t.exhaustedPollSecs),
    ("near_limit_poll_secs", .integer t.nearLimitPollSecs),
    ("cooldown_secs", .integer t.cooldownSecs),
    ("target_max_session_usage", .integer t.targetMaxSessionUsage),
    ("session_ceiling", .integer t.sessionCeiling),
    ("weekly_ceiling", .integer t.weeklyCeiling),
    ("session_blind_swap_secs", .integer t.sessionBlindSwapSecs),
    ("session_blind_risk_band", .integer t.sessionBlindRiskBand),
    ("session_velocity_horizon_secs", .integer t.sessionVelocityHorizonSecs),
    ("session_velocity_min_project_above", .integer t.sessionVelocityMinProjectAbove),
    ("session_velocity_ema_alpha_pct", .integer t.sessionVelocityEmaAlphaPct),
    ("monitor_401_n", .integer t.monitor401N),
    ("monitor_recovery_m", .integer t.monitorRecoveryM),
    ("fleet_runway_warn_secs", .integer t.fleetRunwayWarnSecs),
    ("canary_drift_override", .boolean t.canaryDriftOverride),
    ("canary_nostashmatch_override", .boolean t.canaryNostashmatchOverride),
    ("canary_online_probe", .boolean t.canaryOnlineProbe),
    ("canary_online_probe_strict", .boolean t.canaryOnlineProbeStrict),
    ("verbose", .boolean t.verbose)]

def TunablesTable.renderJitter (t : TunablesTable) : Toml.Table :=
  [("poll", t.pollStrategy.jitter.render),
    ("session_ceiling", t.sessionCeilingStrategy.jitter.render),
    ("weekly_ceiling", t.weeklyCeilingStrategy.jitter.render),
    ("cooldown", t.cooldownStrategy.jitter.render)]

def RefreshTable.render (r : RefreshTable) : Toml.Table :=
  [("enabled", .boolean r.enabled),
    ("accounts", .array (r.accounts.map .string)),
    ("cadence_secs", .integer r.cadenceSecs),
    ("idle_after_secs", .integer r.idleAfterSecs),
    ("timeout_secs", .integer r.timeoutSecs),
    ("systemic_failure_n", .integer r.systemicFailureN),
    ("proactive_keep_warm", .boolean r.proactiveKeepWarm)] ++ renderBin r.claudeBin

def LoginConfig.render (l : LoginConfig) : Toml.Table :=
  ("timeout_secs", .integer l.timeoutSecs) :: renderBin l.claudeBin

def StatsConfig.render (s : StatsConfig) : Toml.Table :=
  [("raw_retention_secs", .integer s.rawRetentionSecs),
    ("hourly_retention_secs", .integer s.hourlyRetentionSecs),
    ("daily_retention_secs", .integer s.dailyRetentionSecs),
    ("default_period", .string s.defaultPeriod)]

def MigrationConfig.render (m : MigrationConfig) : Toml.Table :=
  [("kdf_memory_kib", .integer m.kdfMemoryKib),
    ("kdf_iterations", .integer m.kdfIterations),
    ("conflict_policy", .string m.conflictPolicy.asStr)]

def CredentialConfig.render (c : CredentialConfig) : Toml.Table :=
  [("expiry_horizon_secs", .integer c.expiryHorizonSecs),
    ("expiry_cohort_window_secs", .integer c.expiryCohortWindowSecs),
    ("plaintext_fallback", .string c.plaintextFallback.asStr)]

def Account.render (a : Account) : Toml.Table :=
  [("account_uuid", .string a.accountUuid), ("label", .string a.label), ("enabled", .boolean a.enabled)]

/-- The sections ahead of the accounts. -/
def Config.sections (c : Config) : List (String × Toml.Table) :=
  [("tunables", c.tunables.render),
    ("jitter", c.tunables.renderJitter),
    ("refresh", c.refresh.render),
    ("login", c.login.render),
    ("stats", c.stats.render),
    ("migration", c.migration.render),
    ("credential", c.credential.render)]

/-- `Config::render`, without its comments. -/
def Config.render (c : Config) : List Toml.Line :=
  tableLines c.sections ++ elementLines "account" (c.roster.map Account.render)

end Sessiometer
