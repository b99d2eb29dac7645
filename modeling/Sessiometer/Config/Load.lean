import Sessiometer.Config.Validate
import Sessiometer.Toml.Decode

/-! # The configuration file

Every key of the file is optional, save an account's own, and no key that is not known is admitted. The
document is then validated. -/

namespace Sessiometer

open Toml

def RawAccount.decode : Toml.Value → Option RawAccount :=
  table ["account_uuid", "stash", "label", "enabled"] fun t => do
    let accountUuid ← field t ["account_uuid"] string none
    -- A name that older files carry, and nothing reads.
    let _ ← field t ["stash"] string (some "")
    let label ← field t ["label"] string none
    let enabled ← field t ["enabled"] boolean (some true)
    some { accountUuid, label, enabled }

/-- The reserve has two older names. -/
def targetMaxNames : List String := ["target_max_session_usage", "target_max_usage", "session_floor"]

def tunableNames : List String :=
  ["poll_secs", "exhausted_poll_secs", "near_limit_poll_secs", "cooldown_secs"] ++ targetMaxNames ++
    ["session_ceiling", "weekly_ceiling", "session_blind_swap_secs", "session_blind_risk_band",
      "session_velocity_horizon_secs", "session_velocity_min_project_above",
      "session_velocity_ema_alpha_pct", "monitor_401_n", "monitor_recovery_m",
      "fleet_runway_warn_secs", "canary_drift_override", "canary_nostashmatch_override",
      "canary_online_probe", "canary_online_probe_strict", "verbose"]

def RawTunablesTable.fields (t : Toml.Table) : Option RawTunablesTable := do
  let d : RawTunablesTable := {}
  let pollSecs ← field t ["poll_secs"] integer (some d.pollSecs)
  let exhaustedPollSecs ← field t ["exhausted_poll_secs"] integer (some d.exhaustedPollSecs)
  let nearLimitPollSecs ← field t ["near_limit_poll_secs"] integer (some d.nearLimitPollSecs)
  let cooldownSecs ← field t ["cooldown_secs"] integer (some d.cooldownSecs)
  let targetMaxSessionUsage ← field t targetMaxNames (fun v => (integer v).map some) (some none)
  let sessionCeiling ← field t ["session_ceiling"] integer (some d.sessionCeiling)
  let weeklyCeiling ← field t ["weekly_ceiling"] integer (some d.weeklyCeiling)
  let sessionBlindSwapSecs ← field t ["session_blind_swap_secs"] integer (some d.sessionBlindSwapSecs)
  let sessionBlindRiskBand ← field t ["session_blind_risk_band"] integer (some d.sessionBlindRiskBand)
  let sessionVelocityHorizonSecs ←
    field t ["session_velocity_horizon_secs"] integer (some d.sessionVelocityHorizonSecs)
  let sessionVelocityMinProjectAbove ←
    field t ["session_velocity_min_project_above"] integer (some d.sessionVelocityMinProjectAbove)
  let sessionVelocityEmaAlphaPct ←
    field t ["session_velocity_ema_alpha_pct"] integer (some d.sessionVelocityEmaAlphaPct)
  let monitor401N ← field t ["monitor_401_n"] integer (some d.monitor401N)
  let monitorRecoveryM ← field t ["monitor_recovery_m"] integer (some d.monitorRecoveryM)
  let fleetRunwayWarnSecs ← field t ["fleet_runway_warn_secs"] integer (some d.fleetRunwayWarnSecs)
  let canaryDriftOverride ← field t ["canary_drift_override"] boolean (some d.canaryDriftOverride)
  let canaryNostashmatchOverride ←
    field t ["canary_nostashmatch_override"] boolean (some d.canaryNostashmatchOverride)
  let canaryOnlineProbe ← field t ["canary_online_probe"] boolean (some d.canaryOnlineProbe)
  let canaryOnlineProbeStrict ←
    field t ["canary_online_probe_strict"] boolean (some d.canaryOnlineProbeStrict)
  let verbose ← field t ["verbose"] boolean (some d.verbose)
  some {
    pollSecs, exhaustedPollSecs, nearLimitPollSecs, cooldownSecs, targetMaxSessionUsage, sessionCeiling,
    weeklyCeiling, sessionBlindSwapSecs, sessionBlindRiskBand, sessionVelocityHorizonSecs,
    sessionVelocityMinProjectAbove, sessionVelocityEmaAlphaPct, monitor401N, monitorRecoveryM,
    fleetRunwayWarnSecs, canaryDriftOverride, canaryNostashmatchOverride, canaryOnlineProbe,
    canaryOnlineProbeStrict, verbose }

def RawTunablesTable.decode : Toml.Value → Option RawTunablesTable :=
  table tunableNames RawTunablesTable.fields

def RawJitterSpec.decode : Toml.Value → Option RawJitterSpec :=
  table ["kind", "spread", "stddev"] fun t => do
    let kind ← field t ["kind"] string none
    let spread ← field t ["spread"] (fun v => (float v).map some) (some none)
    let stddev ← field t ["stddev"] (fun v => (float v).map some) (some none)
    some { kind, spread, stddev }

def RawJitter.spec (t : Toml.Table) (name : String) : Option (Option RawJitterSpec) :=
  field t [name] (fun v => (RawJitterSpec.decode v).map some) (some none)

def RawJitter.decode : Toml.Value → Option RawJitter :=
  table ["poll", "session_ceiling", "weekly_ceiling", "cooldown"] fun t => do
    let poll ← RawJitter.spec t "poll"
    let sessionCeiling ← RawJitter.spec t "session_ceiling"
    let weeklyCeiling ← RawJitter.spec t "weekly_ceiling"
    let cooldown ← RawJitter.spec t "cooldown"
    some { poll, sessionCeiling, weeklyCeiling, cooldown }

/-- `claude_bin`, of two sections. -/
def claudeBinField (t : Toml.Table) : Option (Option String) :=
  field t ["claude_bin"] (fun v => (string v).map some) (some none)

def RawRefresh.decode : Toml.Value → Option RawRefresh :=
  table ["enabled", "accounts", "cadence_secs", "idle_after_secs", "timeout_secs", "claude_bin",
      "systemic_failure_n", "proactive_keep_warm"] fun t => do
    let d : RawRefresh := {}
    let enabled ← field t ["enabled"] boolean (some d.enabled)
    let accounts ← field t ["accounts"] (array string) (some d.accounts)
    let cadenceSecs ← field t ["cadence_secs"] integer (some d.cadenceSecs)
    let idleAfterSecs ← field t ["idle_after_secs"] integer (some d.idleAfterSecs)
    let timeoutSecs ← field t ["timeout_secs"] integer (some d.timeoutSecs)
    let claudeBin ← claudeBinField t
    let systemicFailureN ← field t ["systemic_failure_n"] integer (some d.systemicFailureN)
    let proactiveKeepWarm ← field t ["proactive_keep_warm"] boolean (some d.proactiveKeepWarm)
    some {
      enabled, accounts, cadenceSecs, idleAfterSecs, timeoutSecs, claudeBin, systemicFailureN,
      proactiveKeepWarm }

def RawLogin.decode : Toml.Value → Option RawLogin :=
  table ["timeout_secs", "claude_bin"] fun t => do
    let d : RawLogin := {}
    let timeoutSecs ← field t ["timeout_secs"] integer (some d.timeoutSecs)
    let claudeBin ← claudeBinField t
    some { timeoutSecs, claudeBin }

def RawStats.decode : Toml.Value → Option RawStats :=
  table ["raw_retention_secs", "hourly_retention_secs", "daily_retention_secs", "default_period"] fun t => do
    let d : RawStats := {}
    let rawRetentionSecs ← field t ["raw_retention_secs"] integer (some d.rawRetentionSecs)
    let hourlyRetentionSecs ← field t ["hourly_retention_secs"] integer (some d.hourlyRetentionSecs)
    let dailyRetentionSecs ← field t ["daily_retention_secs"] integer (some d.dailyRetentionSecs)
    let defaultPeriod ← field t ["default_period"] string (some d.defaultPeriod)
    some { rawRetentionSecs, hourlyRetentionSecs, dailyRetentionSecs, defaultPeriod }

def RawMigration.decode : Toml.Value → Option RawMigration :=
  table ["kdf_memory_kib", "kdf_iterations", "conflict_policy"] fun t => do
    let d : RawMigration := {}
    let kdfMemoryKib ← field t ["kdf_memory_kib"] integer (some d.kdfMemoryKib)
    let kdfIterations ← field t ["kdf_iterations"] integer (some d.kdfIterations)
    let conflictPolicy ← field t ["conflict_policy"] string (some d.conflictPolicy)
    some { kdfMemoryKib, kdfIterations, conflictPolicy }

def RawCredential.decode : Toml.Value → Option RawCredential :=
  table ["expiry_horizon_secs", "expiry_cohort_window_secs", "plaintext_fallback"] fun t => do
    let d : RawCredential := {}
    let expiryHorizonSecs ← field t ["expiry_horizon_secs"] integer (some d.expiryHorizonSecs)
    let expiryCohortWindowSecs ←
      field t ["expiry_cohort_window_secs"] integer (some d.expiryCohortWindowSecs)
    let plaintextFallback ← field t ["plaintext_fallback"] string (some d.plaintextFallback)
    some { expiryHorizonSecs, expiryCohortWindowSecs, plaintextFallback }

def RawConfig.decode : Toml.Value → Option RawConfig :=
  table ["account", "tunables", "jitter", "refresh", "login", "stats", "migration", "credential"] fun t => do
    let account ← field t ["account"] (array RawAccount.decode) (some [])
    let tunables ← field t ["tunables"] RawTunablesTable.decode (some {})
    let jitter ← field t ["jitter"] RawJitter.decode (some {})
    let refresh ← field t ["refresh"] RawRefresh.decode (some {})
    let login ← field t ["login"] RawLogin.decode (some {})
    let stats ← field t ["stats"] RawStats.decode (some {})
    let migration ← field t ["migration"] RawMigration.decode (some {})
    let credential ← field t ["credential"] RawCredential.decode (some {})
    some { account, tunables, jitter, refresh, login, stats, migration, credential }

/-- Why a file is refused; what the parser of the documents has to say of it is left out. -/
inductive ConfigFileError where
  | configParse
  | configInvalid (e : ConfigError)

/-- The file's raw configuration. -/
def RawConfig.read (lines : List Toml.Line) : Option RawConfig :=
  (Toml.read lines).bind fun t => RawConfig.decode (.table t)

/-- `Config::parse`. -/
def Config.parse [StrDebug] (lines : List Toml.Line) : Except ConfigFileError Config :=
  match RawConfig.read lines with
  | none => .error .configParse
  | some raw =>
    match Config.validate raw with
    | .error e => .error (.configInvalid e)
    | .ok config => .ok config

end Sessiometer
