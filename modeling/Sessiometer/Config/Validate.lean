import Sessiometer.Daemon.Config
import Sessiometer.Daemon.RefreshSweep

/-! # The validator

The permissive configuration of the file is checked section by section, and each admitted number is
narrowed to the width of its setting. The order of the checks decides which of several faults is
reported. -/

namespace Sessiometer

/-! ## The raw configuration -/

structure RawAccount where
  accountUuid : String
  label : String
  enabled : Bool := true

/-- The tunables of the file, the two that the daemon does not take with them. -/
structure RawTunablesTable extends RawTunables where
  fleetRunwayWarnSecs : ℤ := 0
  verbose : Bool := false

structure RawRefresh where
  enabled : Bool := true
  accounts : List String := []
  cadenceSecs : ℤ := 3600
  idleAfterSecs : ℤ := 60
  timeoutSecs : ℤ := 90
  claudeBin : Option String := none
  systemicFailureN : ℤ := 3
  proactiveKeepWarm : Bool := false

structure RawLogin where
  timeoutSecs : ℤ := 180
  claudeBin : Option String := none

structure RawStats where
  rawRetentionSecs : ℤ := 14 * 86400
  hourlyRetentionSecs : ℤ := 90 * 86400
  dailyRetentionSecs : ℤ := 0
  defaultPeriod : String := "week"

structure RawMigration where
  kdfMemoryKib : ℤ := 65536
  kdfIterations : ℤ := 3
  conflictPolicy : String := "skip"

structure RawCredential where
  expiryHorizonSecs : ℤ := 7 * 86400
  expiryCohortWindowSecs : ℤ := 86400
  plaintextFallback : String := "touch"

structure RawConfig where
  account : List RawAccount := []
  tunables : RawTunablesTable := {}
  jitter : RawJitter := {}
  refresh : RawRefresh := {}
  login : RawLogin := {}
  stats : RawStats := {}
  migration : RawMigration := {}
  credential : RawCredential := {}

/-! ## The configuration -/

structure TunablesTable extends Tunables where
  pollSecs : ℕ
  fleetRunwayWarnSecs : ℕ
  verbose : Bool
deriving DecidableEq

structure RefreshTable extends RefreshConfig where
  claudeBin : Option String
  systemicFailureN : ℕ
  proactiveKeepWarm : Bool

structure LoginConfig where
  timeoutSecs : ℕ
  claudeBin : Option String
deriving DecidableEq

structure StatsConfig where
  rawRetentionSecs : ℕ
  hourlyRetentionSecs : ℕ
  dailyRetentionSecs : ℕ
  defaultPeriod : String
deriving DecidableEq

inductive ConflictPolicy where
  | skip
  | overwrite
deriving DecidableEq

structure MigrationConfig where
  kdfMemoryKib : ℕ
  kdfIterations : ℕ
  conflictPolicy : ConflictPolicy
deriving DecidableEq

inductive PlaintextFallbackMode where
  | remove
  | touch
  | off
deriving DecidableEq

def PlaintextFallbackMode.fromToken (token : String) : Option PlaintextFallbackMode :=
  if token = "remove" then some .remove
  else if token = "touch" then some .touch
  else if token = "off" then some .off
  else none

structure CredentialConfig where
  expiryHorizonSecs : ℕ
  expiryCohortWindowSecs : ℕ
  plaintextFallback : PlaintextFallbackMode
deriving DecidableEq

structure Config where
  roster : List Account
  tunables : TunablesTable
  refresh : RefreshTable
  login : LoginConfig
  stats : StatsConfig
  migration : MigrationConfig
  credential : CredentialConfig

/-! ## The checks -/

/-- `as u8`. -/
def castU8 (n : ℤ) : ℕ := (n % 2 ^ 8).toNat

/-- `as u32`. -/
def castU32 (n : ℤ) : ℕ := (n % 2 ^ 32).toNat

/-- `as u64`. -/
def castU64 (n : ℤ) : ℕ := (n % 2 ^ 64).toNat

/-- A text as `{:?}` spells it. -/
class StrDebug where
  debug : String → String

def reject (bad : Prop) [Decidable bad] (e : ConfigError) : Except ConfigError Unit :=
  if bad then .error e else .ok ()

def fleetRunwayPlausibleMaxSecs : ℤ := 7 * 86400

def accountUuidMaxLen : ℕ := 128

def isUuidChar (c : Char) : Bool := c.isAlphanum || c == '-' || c == '_'

/-- The rule that an account's uuid breaks. The length comes first, so that no long text is echoed. -/
def accountUuidViolation [StrDebug] (uuid : String) : Option String :=
  if accountUuidMaxLen < uuid.utf8ByteSize then
    some ("must be at most " ++ toString accountUuidMaxLen ++ " bytes, got " ++
      toString uuid.utf8ByteSize)
  else if uuid.toList.all isUuidChar then none
  else some ("must be ASCII letters, digits, `-` or `_`, got " ++ StrDebug.debug uuid)

/-- The target's reserve: absent, it is the lesser of 80 and the ceiling. -/
def admitTargetMax (targetMaxSessionUsage : Option ℤ) (sessionCeiling : ℤ) : Except ConfigError ℕ :=
  match targetMaxSessionUsage with
  | none => .ok (min defaultTargetMaxSessionUsage (castU8 sessionCeiling))
  | some value => do
    reject (value = 0) (.configInvalid
      ("target_max_session_usage = 0 admits no swap target that has a session " ++
        "window and silently disables proactive swapping to every account that " ++
        "reports one; it must be in 1..=" ++ toString sessionCeiling ++
        ". Raise it toward session_ceiling to admit more targets."))
    reject (value < 0) (.configInvalid
      ("target_max_session_usage must be in 1..=" ++ toString sessionCeiling ++ ", got " ++
        toString value))
    reject (sessionCeiling < value) (.configTargetMaxSessionAboveTrigger value sessionCeiling)
    .ok (castU8 value)

/-- The fire point at peak velocity under the configured ceiling. -/
def peakRunwayBound (t : RawTunablesTable) : ℚ :=
  peakRunwayReserveBound (castU8 t.sessionCeiling / 100) (castU64 t.nearLimitPollSecs)
    (castU64 t.sessionVelocityHorizonSecs)

/-- The tunables' checks, down to the jitter. -/
def admitTunables (t : RawTunablesTable) : Except ConfigError ℕ := do
  range "session_ceiling" t.sessionCeiling 50 99
  range "weekly_ceiling" t.weeklyCeiling 50 99
  range "session_blind_swap_secs" t.sessionBlindSwapSecs 60 86400
  range "session_blind_risk_band" t.sessionBlindRiskBand 50 99
  range "session_velocity_horizon_secs" t.sessionVelocityHorizonSecs 0 600
  range "session_velocity_min_project_above" t.sessionVelocityMinProjectAbove 50 99
  range "session_velocity_ema_alpha_pct" t.sessionVelocityEmaAlphaPct 1 100
  let targetMaxSessionUsage ← admitTargetMax t.targetMaxSessionUsage t.sessionCeiling
  range "poll_secs" t.pollSecs 5 3600
  reject (¬(t.pollSecs ≤ t.exhaustedPollSecs ∧ t.exhaustedPollSecs ≤ 86400)) (.configInvalid
    ("exhausted_poll_secs must be in " ++ toString t.pollSecs ++
      "..=86400 (>= poll_secs so a slow-polled " ++
      "exhausted peer never re-polls faster than the normal cadence), got " ++
      toString t.exhaustedPollSecs))
  reject (t.nearLimitPollSecs ≠ 0 ∧ ¬(5 ≤ t.nearLimitPollSecs ∧ t.nearLimitPollSecs ≤ 3600))
    (.configInvalid ("near_limit_poll_secs must be 0 (disabled) or in 5..=3600, got " ++
      toString t.nearLimitPollSecs))
  reject (peakRunwayBound t ≤ 0) (.configPeakRunwayUnsatisfiable t.sessionCeiling
    (castU64 t.nearLimitPollSecs) (castU64 t.sessionVelocityHorizonSecs)
    (composedSwapLookaheadSecs (castU64 t.nearLimitPollSecs)
      (castU64 t.sessionVelocityHorizonSecs)).floor.toNat
    (peakRunwayBound t * 100).floor vPeakSessionPctPerMin)
  range "cooldown_secs" t.cooldownSecs cooldownSecsFloor 3600
  range "monitor_401_n" t.monitor401N 1 20
  range "monitor_recovery_m" t.monitorRecoveryM 1 20
  reject (t.fleetRunwayWarnSecs ≠ 0 ∧
      ¬(60 ≤ t.fleetRunwayWarnSecs ∧ t.fleetRunwayWarnSecs ≤ fleetRunwayPlausibleMaxSecs))
    (.configInvalid ("fleet_runway_warn_secs must be 0 (disabled) or in 60..=" ++
      toString fleetRunwayPlausibleMaxSecs ++ " (one weekly window; a longer warn line " ++
      "could never clear), got " ++ toString t.fleetRunwayWarnSecs))
  .ok targetMaxSessionUsage

structure JitterTable where
  poll : Jitter
  sessionCeiling : Jitter
  weeklyCeiling : Jitter
  cooldown : Jitter

def admitJitter (jitter : RawJitter) : Except ConfigError JitterTable := do
  let poll ← parseJitter "poll" jitter.poll defaultPollJitter
  let sessionCeiling ← parseJitter "session_ceiling" jitter.sessionCeiling .none
  let weeklyCeiling ← parseJitter "weekly_ceiling" jitter.weeklyCeiling .none
  let cooldown ← parseJitter "cooldown" jitter.cooldown .none
  .ok ⟨poll, sessionCeiling, weeklyCeiling, cooldown⟩

def narrowTunables (t : RawTunablesTable) (targetMaxSessionUsage : ℕ) (jitter : JitterTable) :
    TunablesTable where
  pollSecs := castU64 t.pollSecs
  exhaustedPollSecs := castU64 t.exhaustedPollSecs
  nearLimitPollSecs := castU64 t.nearLimitPollSecs
  cooldownSecs := castU64 t.cooldownSecs
  targetMaxSessionUsage := targetMaxSessionUsage
  sessionCeiling := castU8 t.sessionCeiling
  weeklyCeiling := castU8 t.weeklyCeiling
  sessionBlindSwapSecs := castU64 t.sessionBlindSwapSecs
  sessionBlindRiskBand := castU8 t.sessionBlindRiskBand
  sessionVelocityHorizonSecs := castU64 t.sessionVelocityHorizonSecs
  sessionVelocityMinProjectAbove := castU8 t.sessionVelocityMinProjectAbove
  sessionVelocityEmaAlphaPct := castU8 t.sessionVelocityEmaAlphaPct
  monitor401N := castU8 t.monitor401N
  monitorRecoveryM := castU8 t.monitorRecoveryM
  fleetRunwayWarnSecs := castU64 t.fleetRunwayWarnSecs
  canaryDriftOverride := t.canaryDriftOverride
  canaryNostashmatchOverride := t.canaryNostashmatchOverride
  canaryOnlineProbe := t.canaryOnlineProbe
  canaryOnlineProbeStrict := t.canaryOnlineProbeStrict
  verbose := t.verbose
  pollStrategy := ⟨t.pollSecs, jitter.poll⟩
  sessionCeilingStrategy := ⟨t.sessionCeiling, jitter.sessionCeiling⟩
  weeklyCeilingStrategy := ⟨t.weeklyCeiling, jitter.weeklyCeiling⟩
  cooldownStrategy := ⟨t.cooldownSecs, jitter.cooldown⟩

section Roster

variable [StrDebug]

def admitAccount (seen : List String) (account : RawAccount) : Except ConfigError Account := do
  reject (isBlank account.accountUuid = true) (.configInvalid "account_uuid must not be empty")
  match accountUuidViolation account.accountUuid with
  | some rule => .error (.configInvalid ("account_uuid " ++ rule))
  | none => do
    reject (isBlank account.label = true) (.configInvalid "label must not be empty")
    reject (account.accountUuid ∈ seen)
      (.configInvalid ("duplicate account_uuid: " ++ account.accountUuid))
    .ok ⟨account.accountUuid, account.label, account.enabled⟩

def admitRoster (seen : List String) : List RawAccount → Except ConfigError (List Account)
  | [] => .ok []
  | account :: rest => do
    let admitted ← admitAccount seen account
    let roster ← admitRoster (account.accountUuid :: seen) rest
    .ok (admitted :: roster)

end Roster

/-- An empty path is none. -/
def claudeBinOf (claudeBin : Option String) : Option String := claudeBin.filter fun bin => !isBlank bin

def admitRefresh (r : RawRefresh) : Except ConfigError RefreshTable := do
  range "refresh.cadence_secs" r.cadenceSecs 60 86400
  range "refresh.idle_after_secs" r.idleAfterSecs 0 3600
  range "refresh.timeout_secs" r.timeoutSecs 10 600
  range "refresh.systemic_failure_n" r.systemicFailureN 1 100
  .ok {
    enabled := r.enabled
    accounts := r.accounts
    cadenceSecs := castU64 r.cadenceSecs
    idleAfterSecs := castU64 r.idleAfterSecs
    timeoutSecs := castU64 r.timeoutSecs
    claudeBin := claudeBinOf r.claudeBin
    systemicFailureN := castU32 r.systemicFailureN
    proactiveKeepWarm := r.proactiveKeepWarm }

def admitLogin (l : RawLogin) : Except ConfigError LoginConfig := do
  range "login.timeout_secs" l.timeoutSecs 60 600
  .ok { timeoutSecs := castU64 l.timeoutSecs, claudeBin := claudeBinOf l.claudeBin }

def statsPeriods : List String := ["day", "week", "month", "lifetime"]

def admitStats [StrDebug] (s : RawStats) : Except ConfigError StatsConfig := do
  range "stats.raw_retention_secs" s.rawRetentionSecs 3600 31536000
  range "stats.hourly_retention_secs" s.hourlyRetentionSecs 86400 315360000
  range "stats.daily_retention_secs" s.dailyRetentionSecs 0 315360000
  reject (s.defaultPeriod ∉ statsPeriods) (.configInvalid
    ("stats.default_period must be one of [\"day\", \"week\", \"month\", \"lifetime\"], got " ++
      StrDebug.debug s.defaultPeriod))
  .ok {
    rawRetentionSecs := castU64 s.rawRetentionSecs
    hourlyRetentionSecs := castU64 s.hourlyRetentionSecs
    dailyRetentionSecs := castU64 s.dailyRetentionSecs
    defaultPeriod := s.defaultPeriod }

def ConflictPolicy.ofToken (token : String) : Option ConflictPolicy :=
  if token = "skip" then some .skip else if token = "overwrite" then some .overwrite else none

/-- A token of a fixed vocabulary. -/
def token {α : Type} (read : Option α) (e : ConfigError) : Except ConfigError α :=
  match read with
  | some a => .ok a
  | none => .error e

def admitMigration [StrDebug] (m : RawMigration) : Except ConfigError MigrationConfig := do
  range "migration.kdf_memory_kib" m.kdfMemoryKib 8 1048576
  range "migration.kdf_iterations" m.kdfIterations 1 16
  let conflictPolicy ← token (ConflictPolicy.ofToken m.conflictPolicy) (.configInvalid
    ("migration.conflict_policy must be one of [\"skip\", \"overwrite\"], got " ++
      StrDebug.debug m.conflictPolicy))
  .ok {
    kdfMemoryKib := castU32 m.kdfMemoryKib
    kdfIterations := castU32 m.kdfIterations
    conflictPolicy }

def admitCredential [StrDebug] (c : RawCredential) : Except ConfigError CredentialConfig := do
  range "credential.expiry_horizon_secs" c.expiryHorizonSecs 86400 7776000
  range "credential.expiry_cohort_window_secs" c.expiryCohortWindowSecs 60 604800
  let plaintextFallback ← token (PlaintextFallbackMode.fromToken c.plaintextFallback) (.configInvalid
    ("credential.plaintext_fallback must be one of [\"remove\", \"touch\", \"off\"], got " ++
      StrDebug.debug c.plaintextFallback))
  .ok {
    expiryHorizonSecs := castU64 c.expiryHorizonSecs
    expiryCohortWindowSecs := castU64 c.expiryCohortWindowSecs
    plaintextFallback }

/-- `Config::validate`. -/
def Config.validate [StrDebug] (raw : RawConfig) : Except ConfigError Config := do
  let targetMaxSessionUsage ← admitTunables raw.tunables
  let jitter ← admitJitter raw.jitter
  let roster ← admitRoster [] raw.account
  let refresh ← admitRefresh raw.refresh
  let login ← admitLogin raw.login
  let stats ← admitStats raw.stats
  let migration ← admitMigration raw.migration
  let credential ← admitCredential raw.credential
  .ok {
    roster
    tunables := narrowTunables raw.tunables targetMaxSessionUsage jitter
    refresh
    login
    stats
    migration
    credential }

end Sessiometer
