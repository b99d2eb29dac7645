import Sessiometer.Daemon.Decision

/-! # Configuration

The tunables as they are written, what validation admits of them, and the daemon they start. A
percentage or a magnitude is an exact rational. -/

namespace Sessiometer

inductive ConfigError where
  | configInvalid (message : String)
  | configTargetMaxSessionAboveTrigger (targetMaxSessionUsage trigger : Int)
  | configPeakRunwayUnsatisfiable (trigger : Int) (nearLimitPollSecs horizonSecs : ℕ)
      (windowSecs : ℕ) (boundPct : Int) (vPeakPctPerMin : ℚ)
deriving DecidableEq

structure RawTunables where
  pollSecs : Int := 300
  exhaustedPollSecs : Int := 3600
  nearLimitPollSecs : Int := 60
  cooldownSecs : Int := 60
  targetMaxSessionUsage : Option Int := none
  sessionCeiling : Int := 95
  weeklyCeiling : Int := 98
  sessionBlindSwapSecs : Int := 300
  sessionBlindRiskBand : Int := 60
  sessionVelocityHorizonSecs : Int := 120
  sessionVelocityMinProjectAbove : Int := 85
  sessionVelocityEmaAlphaPct : Int := 50
  monitor401N : Int := 3
  monitorRecoveryM : Int := 2
  canaryDriftOverride : Bool := false
  canaryNostashmatchOverride : Bool := false
  canaryOnlineProbe : Bool := false
  canaryOnlineProbeStrict : Bool := false

structure RawJitterSpec where
  kind : String
  spread : Option ℚ := none
  stddev : Option ℚ := none

structure RawJitter where
  poll : Option RawJitterSpec := none
  sessionCeiling : Option RawJitterSpec := none
  weeklyCeiling : Option RawJitterSpec := none
  cooldown : Option RawJitterSpec := none

structure Tunables where
  exhaustedPollSecs : ℕ
  nearLimitPollSecs : ℕ
  cooldownSecs : ℕ
  targetMaxSessionUsage : ℕ
  sessionCeiling : ℕ
  weeklyCeiling : ℕ
  sessionBlindSwapSecs : ℕ
  sessionBlindRiskBand : ℕ
  sessionVelocityHorizonSecs : ℕ
  sessionVelocityMinProjectAbove : ℕ
  sessionVelocityEmaAlphaPct : ℕ
  monitor401N : ℕ
  monitorRecoveryM : ℕ
  canaryDriftOverride : Bool
  canaryNostashmatchOverride : Bool
  canaryOnlineProbe : Bool
  canaryOnlineProbeStrict : Bool
  pollStrategy : Strategy
  sessionCeilingStrategy : Strategy
  weeklyCeilingStrategy : Strategy
  cooldownStrategy : Strategy
deriving DecidableEq

def defaultTargetMaxSessionUsage : ℕ := 80

def defaultPollJitter : Jitter := .normal 60

/-- `Tunables::default`. -/
def Tunables.default' : Tunables where
  exhaustedPollSecs := 3600
  nearLimitPollSecs := 60
  cooldownSecs := 60
  targetMaxSessionUsage := defaultTargetMaxSessionUsage
  sessionCeiling := 95
  weeklyCeiling := 98
  sessionBlindSwapSecs := 300
  sessionBlindRiskBand := 60
  sessionVelocityHorizonSecs := 120
  sessionVelocityMinProjectAbove := 85
  sessionVelocityEmaAlphaPct := 50
  monitor401N := 3
  monitorRecoveryM := 2
  canaryDriftOverride := false
  canaryNostashmatchOverride := false
  canaryOnlineProbe := false
  canaryOnlineProbeStrict := false
  pollStrategy := ⟨300, defaultPollJitter⟩
  sessionCeilingStrategy := ⟨95, .none⟩
  weeklyCeilingStrategy := ⟨98, .none⟩
  cooldownStrategy := ⟨60, .none⟩

def range (field : String) (value lo hi : Int) : Except ConfigError Unit :=
  if lo ≤ value ∧ value ≤ hi then .ok ()
  else .error (.configInvalid (field ++ " must be in " ++ toString lo ++ "..=" ++ toString hi ++
    ", got " ++ toString value))

def nonNegative (field param : String) (value : ℚ) : Except ConfigError Unit :=
  if 0 ≤ value then .ok ()
  else .error (.configInvalid (field ++ " jitter " ++ param ++
    " must be a non-negative number, got " ++ toString value))

def parseJitter (field : String) (spec : Option RawJitterSpec) (default' : Jitter) :
    Except ConfigError Jitter :=
  match spec with
  | none => .ok default'
  | some spec =>
    if spec.kind = "none" then
      if spec.spread.isSome ∨ spec.stddev.isSome then
        .error (.configInvalid
          (field ++ " jitter \"none\" takes no magnitude (drop spread/stddev)"))
      else .ok .none
    else if spec.kind = "uniform" then
      if spec.stddev.isSome then
        .error (.configInvalid (field ++ " jitter \"uniform\" takes `spread`, not `stddev`"))
      else
        match spec.spread with
        | none => .error (.configInvalid (field ++ " jitter \"uniform\" requires `spread`"))
        | some spread => do
          nonNegative field "spread" spread
          .ok (.uniform spread)
    else if spec.kind = "normal" then
      if spec.spread.isSome then
        .error (.configInvalid (field ++ " jitter \"normal\" takes `stddev`, not `spread`"))
      else
        match spec.stddev with
        | none => .error (.configInvalid (field ++ " jitter \"normal\" requires `stddev`"))
        | some stddev => do
          nonNegative field "stddev" stddev
          .ok (.normal stddev)
    else .error (.configInvalid
      (field ++ " jitter kind must be none|uniform|normal, got \"" ++ spec.kind ++ "\""))

/-- The reserve must lie in `1..=session_ceiling`; an absent one defaults to 80, or to the ceiling
when that is lower. -/
def validateTargetMax (targetMaxSessionUsage : Option Int) (sessionCeiling : Int) :
    Except ConfigError ℕ :=
  match targetMaxSessionUsage with
  | none => .ok (min defaultTargetMaxSessionUsage sessionCeiling.toNat)
  | some value =>
    if value = 0 then .error (.configInvalid
      ("target_max_session_usage = 0 admits no swap target that has a session " ++
        "window and silently disables proactive swapping to every account that " ++
        "reports one; it must be in 1..=" ++ toString sessionCeiling ++
        ". Raise it toward session_ceiling to admit more targets."))
    else if value < 0 then .error (.configInvalid
      ("target_max_session_usage must be in 1..=" ++ toString sessionCeiling ++ ", got " ++
        toString value))
    else if sessionCeiling < value then
      .error (.configTargetMaxSessionAboveTrigger value sessionCeiling)
    else .ok value.toNat

def cooldownSecsFloor : Int := 5

def vPeakSessionPctPerMin : ℚ := 695 / 100

/-- The checks of `Config::validate` on the tunables, in its order. -/
def validate (t : RawTunables) (jitter : RawJitter) : Except ConfigError Tunables := do
  range "session_ceiling" t.sessionCeiling 50 99
  range "weekly_ceiling" t.weeklyCeiling 50 99
  range "session_blind_swap_secs" t.sessionBlindSwapSecs 60 86400
  range "session_blind_risk_band" t.sessionBlindRiskBand 50 99
  range "session_velocity_horizon_secs" t.sessionVelocityHorizonSecs 0 600
  range "session_velocity_min_project_above" t.sessionVelocityMinProjectAbove 50 99
  range "session_velocity_ema_alpha_pct" t.sessionVelocityEmaAlphaPct 1 100
  let targetMaxSessionUsage ← validateTargetMax t.targetMaxSessionUsage t.sessionCeiling
  range "poll_secs" t.pollSecs 5 3600
  if ¬ (t.pollSecs ≤ t.exhaustedPollSecs ∧ t.exhaustedPollSecs ≤ 86400) then
    .error (.configInvalid
      ("exhausted_poll_secs must be in " ++ toString t.pollSecs ++
        "..=86400 (>= poll_secs so a slow-polled " ++
        "exhausted peer never re-polls faster than the normal cadence), got " ++
        toString t.exhaustedPollSecs))
  if t.nearLimitPollSecs ≠ 0 ∧ ¬ (5 ≤ t.nearLimitPollSecs ∧ t.nearLimitPollSecs ≤ 3600) then
    .error (.configInvalid
      ("near_limit_poll_secs must be 0 (disabled) or in 5..=3600, got " ++
        toString t.nearLimitPollSecs))
  let nearLimitPollSecs := t.nearLimitPollSecs.toNat
  let horizonSecs := t.sessionVelocityHorizonSecs.toNat
  let peakRunwayBound := peakRunwayReserveBound (t.sessionCeiling.toNat / 100) nearLimitPollSecs
    horizonSecs
  if peakRunwayBound ≤ 0 then
    .error (.configPeakRunwayUnsatisfiable t.sessionCeiling nearLimitPollSecs horizonSecs
      (composedSwapLookaheadSecs nearLimitPollSecs horizonSecs).floor.toNat
      (peakRunwayBound * 100).floor vPeakSessionPctPerMin)
  range "cooldown_secs" t.cooldownSecs cooldownSecsFloor 3600
  range "monitor_401_n" t.monitor401N 1 20
  range "monitor_recovery_m" t.monitorRecoveryM 1 20
  let pollJitter ← parseJitter "poll" jitter.poll defaultPollJitter
  let sessionCeilingJitter ← parseJitter "session_ceiling" jitter.sessionCeiling .none
  let weeklyCeilingJitter ← parseJitter "weekly_ceiling" jitter.weeklyCeiling .none
  let cooldownJitter ← parseJitter "cooldown" jitter.cooldown .none
  .ok {
    exhaustedPollSecs := t.exhaustedPollSecs.toNat
    nearLimitPollSecs := nearLimitPollSecs
    cooldownSecs := t.cooldownSecs.toNat
    targetMaxSessionUsage := targetMaxSessionUsage
    sessionCeiling := t.sessionCeiling.toNat
    weeklyCeiling := t.weeklyCeiling.toNat
    sessionBlindSwapSecs := t.sessionBlindSwapSecs.toNat
    sessionBlindRiskBand := t.sessionBlindRiskBand.toNat
    sessionVelocityHorizonSecs := horizonSecs
    sessionVelocityMinProjectAbove := t.sessionVelocityMinProjectAbove.toNat
    sessionVelocityEmaAlphaPct := t.sessionVelocityEmaAlphaPct.toNat
    monitor401N := t.monitor401N.toNat
    monitorRecoveryM := t.monitorRecoveryM.toNat
    canaryDriftOverride := t.canaryDriftOverride
    canaryNostashmatchOverride := t.canaryNostashmatchOverride
    canaryOnlineProbe := t.canaryOnlineProbe
    canaryOnlineProbeStrict := t.canaryOnlineProbeStrict
    pollStrategy := ⟨t.pollSecs, pollJitter⟩
    sessionCeilingStrategy := ⟨t.sessionCeiling, sessionCeilingJitter⟩
    weeklyCeilingStrategy := ⟨t.weeklyCeiling, weeklyCeilingJitter⟩
    cooldownStrategy := ⟨t.cooldownSecs, cooldownJitter⟩ }

/-- A configuration that sets nothing is admitted, and is the default one. -/
theorem validate_default : validate {} {} = .ok .default' := by
  decide +kernel

def defaultCredentialExpiryHorizonSecs : ℕ := 7 * 86400

/-- `Daemon::new`, with every engine that is wired in later still off. -/
def Settings.new (t : Tunables) : Settings where
  sessionCeilingStrategy := t.sessionCeilingStrategy
  weeklyCeilingStrategy := t.weeklyCeilingStrategy
  weeklyCeilingBase := t.weeklyCeiling / 100
  sessionCeilingBase := t.sessionCeiling / 100
  targetMaxSessionUsage := t.targetMaxSessionUsage / 100
  sessionBlindSwapSecs := t.sessionBlindSwapSecs
  sessionBlindRiskBand := t.sessionBlindRiskBand / 100
  exhaustedPollSecs := t.exhaustedPollSecs
  nearLimitPollSecs := t.nearLimitPollSecs
  sessionVelocityHorizonSecs := t.sessionVelocityHorizonSecs
  sessionVelocityMinProjectAbove := t.sessionVelocityMinProjectAbove / 100
  sessionVelocityEmaAlpha := t.sessionVelocityEmaAlphaPct / 100
  cooldownStrategy := t.cooldownStrategy
  cooldownBase := secs t.cooldownSecs
  pollStrategy := t.pollStrategy
  tiebreakSeed := none
  monitor401N := t.monitor401N
  monitorRecoveryM := t.monitorRecoveryM
  canaryDriftOverride := t.canaryDriftOverride
  canaryNostashmatchOverride := t.canaryNostashmatchOverride
  canaryOnlineProbe := t.canaryOnlineProbe
  canaryOnlineProbeStrict := t.canaryOnlineProbeStrict
  pollRefresh := false
  refreshEnabled := false
  keepWarm := false
  keepWarmCadence := secs 3600
  proactiveKeepWarm := false
  credentialExpiryHorizonSecs := defaultCredentialExpiryHorizonSecs

def Daemon.new (roster : List Account) (t : Tunables) : Daemon where
  roster := roster
  settings := Settings.new t

end Sessiometer
