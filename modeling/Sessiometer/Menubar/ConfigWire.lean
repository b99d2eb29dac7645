import Sessiometer.Menubar.Wire

/-! # The wire of the settings

The replies to `config-get` and `config-set`, and what the latter may carry. -/

namespace Sessiometer.Menubar

/-- Swift's `String`: its equality is canonical equivalence, and it is trimmed of white space. -/
class SwiftString (σ : Type) where
  decEq : DecidableEq σ
  ofText : String → σ
  /-- `trimmingCharacters(in: .whitespaces)`. -/
  trimmed : σ → σ
  trimmed_trimmed : ∀ s, trimmed (trimmed s) = trimmed s

instance (priority := low) {σ : Type} [SwiftString σ] : DecidableEq σ := SwiftString.decEq

/-! ## The view -/

structure TunablesView where
  pollSecs : UInt64
  exhaustedPollSecs : UInt64
  nearLimitPollSecs : UInt64
  cooldownSecs : UInt64
  targetMaxSessionUsage : UInt8
  sessionCeiling : UInt8
  weeklyCeiling : UInt8
  sessionBlindSwapSecs : UInt64
  sessionBlindRiskBand : UInt8
  sessionVelocityHorizonSecs : UInt64
  sessionVelocityMinProjectAbove : UInt8
  sessionVelocityEmaAlphaPct : UInt8
  monitor401N : UInt8
  monitorRecoveryM : UInt8
  fleetRunwayWarnSecs : UInt64
deriving DecidableEq

def TunablesView.decode (v : Value) : Decoding TunablesView := do
  let c ← container v
  let pollSecs ← Menubar.decode uint64 c "poll_secs"
  let exhaustedPollSecs ← Menubar.decode uint64 c "exhausted_poll_secs"
  let nearLimitPollSecs ← Menubar.decode uint64 c "near_limit_poll_secs"
  let cooldownSecs ← Menubar.decode uint64 c "cooldown_secs"
  let targetMaxSessionUsage ← Menubar.decode uint8 c "target_max_session_usage"
  let sessionCeiling ← Menubar.decode uint8 c "session_ceiling"
  let weeklyCeiling ← Menubar.decode uint8 c "weekly_ceiling"
  let sessionBlindSwapSecs ← Menubar.decode uint64 c "session_blind_swap_secs"
  let sessionBlindRiskBand ← Menubar.decode uint8 c "session_blind_risk_band"
  let sessionVelocityHorizonSecs ← Menubar.decode uint64 c "session_velocity_horizon_secs"
  let sessionVelocityMinProjectAbove ←
    Menubar.decode uint8 c "session_velocity_min_project_above"
  let sessionVelocityEmaAlphaPct ← Menubar.decode uint8 c "session_velocity_ema_alpha_pct"
  let monitor401N ← Menubar.decode uint8 c "monitor_401_n"
  let monitorRecoveryM ← Menubar.decode uint8 c "monitor_recovery_m"
  let fleetRunwayWarnSecs ← Menubar.decode uint64 c "fleet_runway_warn_secs"
  return { pollSecs, exhaustedPollSecs, nearLimitPollSecs, cooldownSecs, targetMaxSessionUsage,
           sessionCeiling, weeklyCeiling, sessionBlindSwapSecs, sessionBlindRiskBand,
           sessionVelocityHorizonSecs, sessionVelocityMinProjectAbove, sessionVelocityEmaAlphaPct,
           monitor401N, monitorRecoveryM, fleetRunwayWarnSecs }

structure AccountView (σ : Type) where
  accountUuid : σ
  label : σ
  enabled : Bool

structure ConfigView (σ : Type) where
  tunables : TunablesView
  accounts : List (AccountView σ)

inductive ConfigGetReply (σ : Type) where
  | ok (view : ConfigView σ)
  | error (reason : String)

/-! ## The edit -/

structure SetTunables where
  pollSecs : Option Int64
  exhaustedPollSecs : Option Int64
  nearLimitPollSecs : Option Int64
  cooldownSecs : Option Int64
  targetMaxSessionUsage : Option Int64
  sessionCeiling : Option Int64
  weeklyCeiling : Option Int64
  sessionBlindSwapSecs : Option Int64
  sessionBlindRiskBand : Option Int64
  sessionVelocityHorizonSecs : Option Int64
  sessionVelocityMinProjectAbove : Option Int64
  sessionVelocityEmaAlphaPct : Option Int64
  monitor401N : Option Int64
  monitorRecoveryM : Option Int64
  fleetRunwayWarnSecs : Option Int64
deriving DecidableEq

/-- `SetTunables()`. -/
def SetTunables.empty : SetTunables :=
  ⟨none, none, none, none, none, none, none, none, none, none, none, none, none, none, none⟩

/-- The labels by account, as a dictionary. -/
structure ConfigSetCommand (σ : Type) where
  tunables : SetTunables
  labels : σ → Option σ

/-! ## The acknowledgement -/

inductive ConfigSetEffect where
  | live
  | restartRequired
  | unchanged
deriving DecidableEq

def ConfigSetEffect.decode (v : Value) : Decoding ConfigSetEffect := do
  let raw ← string v
  if raw = "live" then return .live
  else if raw = "restart_required" then return .restartRequired
  else if raw = "unchanged" then return .unchanged
  else throw .decodingError

inductive ConfigSetRejection where
  | invalid
  | unknownAccount
  | noConfig
  | configUnreadable
  | saveFailed
  | unavailable
deriving DecidableEq

def ConfigSetRejection.decode (v : Value) : Decoding ConfigSetRejection := do
  let raw ← string v
  if raw = "invalid" then return .invalid
  else if raw = "unknown-account" then return .unknownAccount
  else if raw = "no-config" then return .noConfig
  else if raw = "config-unreadable" then return .configUnreadable
  else if raw = "save-failed" then return .saveFailed
  else if raw = "unavailable" then return .unavailable
  else throw .decodingError

inductive ConfigSetAck where
  | applied (effect : ConfigSetEffect)
  | rejected (reason : ConfigSetRejection) (detail : Option String)
deriving DecidableEq

def ConfigSetAck.decode (v : Value) : Decoding ConfigSetAck := do
  let c ← container v
  let result ← Menubar.decode string c "result"
  if result = "applied" then
    return .applied (← Menubar.decode ConfigSetEffect.decode c "effect")
  else if result = "rejected" then
    let reason ← Menubar.decode ConfigSetRejection.decode c "reason"
    let detail ← decodeIfPresent string c "detail"
    return .rejected reason detail
  else throw .decodingError

inductive ConfigSetReply where
  | ack (ack : ConfigSetAck)
  | error (reason : String) (detail : Option String)
deriving DecidableEq

/-! ## The replies -/

structure ConfigErrorProbe where
  error : Option String
  detail : Option String
deriving DecidableEq

def ConfigErrorProbe.decode (v : Value) : Decoding ConfigErrorProbe := do
  let c ← container v
  let error ← decodeIfPresent string c "error"
  let detail ← decodeIfPresent string c "detail"
  return { error, detail }

section Replies

variable {σ : Type} [SwiftString σ] [JsonDecoder]

def swiftString (v : Value) : Decoding σ := (string v).map SwiftString.ofText

def AccountView.decode (v : Value) : Decoding (AccountView σ) := do
  let c ← container v
  let accountUuid ← Menubar.decode swiftString c "account_uuid"
  let label ← Menubar.decode swiftString c "label"
  let enabled ← Menubar.decode bool c "enabled"
  return { accountUuid, label, enabled }

def ConfigView.decode (v : Value) : Decoding (ConfigView σ) := do
  let c ← container v
  let tunables ← Menubar.decode TunablesView.decode c "tunables"
  let accounts ← Menubar.decode (array AccountView.decode) c "accounts"
  return { tunables, accounts }

/-- The error that a reply carries, if it can be read as one at all. -/
def probeError (line : String) : Option (String × Option String) :=
  match decodeLine ConfigErrorProbe.decode line with
  | .ok probe => probe.error.map fun reason => (reason, probe.detail)
  | .error _ => none

def decodeConfigGetReply (line : String) : Decoding (ConfigGetReply σ) :=
  match probeError line with
  | some (reason, _) => .ok (.error reason)
  | none => (decodeLine ConfigView.decode line).map .ok

def decodeConfigSetReply (line : String) : Decoding ConfigSetReply :=
  match probeError line with
  | some (reason, detail) => .ok (.error reason detail)
  | none => (decodeLine ConfigSetAck.decode line).map .ack

end Replies

end Sessiometer.Menubar
