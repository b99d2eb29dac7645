import Sessiometer.Menubar.Transport
import Sessiometer.Menubar.Wire

namespace Sessiometer.Menubar

inductive ConnectionState where
  | connecting
  | connected
  | emptyRoster
  | stale
  | reconnecting (reason : String)
  | disconnected (reason : String)
  | unsupported
  | crashLooping
  | starting
  | notRunning
deriving DecidableEq

/-! ## The glance -/

inductive StatusGlyph where
  | healthy
  | connecting
  | attention
  | noRunway
deriving DecidableEq

structure PresentationState where
  glyph : StatusGlyph
  accessibilityLabel : String
deriving DecidableEq

namespace PresentationState

/-- The evidence a refresh-mechanism label cites, by how the episode opened. -/
def evidence (consecutive : UInt32) : Option SystemicRefreshSource → String
  | some .preflight => "the startup preflight could not resolve the claude binary"
  | some .unrecognized => "this app cannot read the cause; check the daemon log"
  | _ =>
    toString consecutive ++ " consecutive " ++ (if consecutive = 1 then "sweep" else "sweeps") ++
      " failed for every eligible account"

def make (state : ConnectionState) (accountCount : ℕ) (hasNoViableTarget keychainLocked : Bool)
    (canonicalScrub : Option CanonicalScrub) (activeBlindDegraded : Bool)
    (systemicRefreshFailure : Option UInt32)
    (systemicRefreshSource : Option SystemicRefreshSource) : PresentationState :=
  match state with
  | .connected =>
    -- vouched: the fleet and the vault speak, worst first
    if keychainLocked then
      ⟨.noRunway, "Sessiometer: keychain locked — unlock it to keep working"⟩
    else if canonicalScrub = some .exhausted then
      ⟨.noRunway, "Sessiometer: signed out of the shared login — run claude /login"⟩
    else if hasNoViableTarget then
      ⟨.noRunway, "Sessiometer: no account has capacity right now — action needed"⟩
    else match systemicRefreshFailure with
      | some consecutive =>
        ⟨.attention, "Sessiometer: refresh mechanism down — " ++
          evidence consecutive systemicRefreshSource⟩
      | none =>
        if activeBlindDegraded then
          ⟨.attention, "Sessiometer: auto-protection degraded — acting on a stale anchor"⟩
        else
          ⟨.healthy, "Sessiometer: live — " ++ toString accountCount ++ " account" ++
            (if accountCount = 1 then "" else "s")⟩
  | .connecting => ⟨.connecting, "Sessiometer: connecting to the daemon…"⟩
  | .starting => ⟨.connecting, "Sessiometer: the daemon is starting…"⟩
  | .reconnecting _ => ⟨.connecting, "Sessiometer: reconnecting to the daemon…"⟩
  | .stale => ⟨.attention, "Sessiometer: data may be stale — the daemon has gone quiet"⟩
  | .disconnected _ =>
    ⟨.attention, "Sessiometer: disconnected — the daemon is not responding"⟩
  | .notRunning => ⟨.attention, "Sessiometer: the daemon is not running"⟩
  | .emptyRoster => ⟨.attention, "Sessiometer: connected — no accounts configured"⟩
  | .unsupported =>
    ⟨.attention, "Sessiometer: daemon version unsupported — update required"⟩
  | .crashLooping =>
    ⟨.attention, "Sessiometer: the daemon is restarting repeatedly — " ++
      "holding status until it stays up"⟩

end PresentationState

/-! ## The presentation rows -/

structure AccountRow where
  label : String
  isActive : Bool
  isEnabled : Bool
  isQuarantined : Bool
  isRecovering : Bool
  auth : Option CredentialHealth
  sessionPct : Option UInt8
  weeklyPct : Option UInt8
  sessionResetsAt : Option Int64
  weeklyResetsAt : Option Int64
  weeklyExhausted : Bool
  isNextSwapTarget : Bool
  blindActive : Option BlindActive
  expiry : Option AccountExpiry
deriving DecidableEq

namespace AccountRow

def targetLabel : Option NextSwap → Option String
  | some (.target to' _) => some to'
  | _ => none

def rows (status : VersionedStatus) : List AccountRow :=
  status.accounts.map fun account =>
    { label := account.label
      isActive := account.active
      isEnabled := account.enabled
      isQuarantined := account.quarantined
      isRecovering := account.recovering
      auth := account.auth
      sessionPct := account.sessionPct
      weeklyPct := account.weeklyPct
      sessionResetsAt := account.sessionResetsAt
      weeklyResetsAt := account.weeklyResetsAt
      weeklyExhausted := account.weeklyExhausted
      isNextSwapTarget := some account.label = targetLabel status.nextSwap
      blindActive := account.blindActive
      expiry := account.expiry }

end AccountRow

/-! ## The machine -/

namespace HonestStateMachine

inductive Liveness where
  | initial
  | starting
  | notRunning
  | live
  | stale
  | reconnecting (reason : String)
  | disconnected (reason : String)
deriving DecidableEq

inductive SnapshotClass where
  | none
  | healthy
  | empty
  | unsupported
deriving DecidableEq

inductive LineOutcome where
  | appliedSnapshot
  | appliedHeartbeat
  | unsupportedSchema
  | ignoredUnknownFrame
  | ignoredUndecodable
deriving DecidableEq

def LineOutcome.resetsValidFrameWatchdog : LineOutcome → Bool
  | .appliedSnapshot | .appliedHeartbeat | .unsupportedSchema => true
  | .ignoredUnknownFrame | .ignoredUndecodable => false

def crashLoopThreshold : ℕ := 2

/-- The view the last applied snapshot left, one field for each wire field it mirrors. -/
structure Payload where
  rows : List AccountRow
  nextSwap : Option NextSwap
  refreshEnabled : Option Bool
  canonicalScrub : Option CanonicalScrub
  keychainLocked : Bool
  systemicRefreshFailure : Option UInt32
  systemicRefreshSource : Option SystemicRefreshSource
  canary : Option CanaryStatus
deriving DecidableEq

namespace Payload

/-- Nothing shown: the start, and what an unsupported frame refuses the numbers to. -/
def refused : Payload :=
  { rows := [], nextSwap := none, refreshEnabled := none, canonicalScrub := none,
    keychainLocked := false, systemicRefreshFailure := none, systemicRefreshSource := none,
    canary := none }

def ofStatus (status : VersionedStatus) : Payload :=
  { rows := AccountRow.rows status
    nextSwap := status.nextSwap
    refreshEnabled := status.refreshEnabled
    canonicalScrub := status.canonicalScrub
    keychainLocked := status.keychainLocked
    systemicRefreshFailure := status.systemicRefreshFailure
    systemicRefreshSource := status.systemicRefreshSource
    canary := status.canary }

end Payload

end HonestStateMachine

open HonestStateMachine in
structure HonestStateMachine where
  liveness : Liveness
  snapshotClass : SnapshotClass
  hasEverConnected : Bool
  watchdogGeneration : ℕ
  hasEverDisconnected : Bool
  stabilizedThisConnection : Bool
  consecutiveUnstableReconnects : ℕ
  stabilityGeneration : ℕ
  graceGeneration : ℕ
  dwellGeneration : ℕ
  dwellSuspended : Bool
  payload : Payload
  generatedAt : Option Int64
deriving DecidableEq

namespace HonestStateMachine

def init : HonestStateMachine :=
  { liveness := .initial, snapshotClass := .none, hasEverConnected := false,
    watchdogGeneration := 0, hasEverDisconnected := false, stabilizedThisConnection := false,
    consecutiveUnstableReconnects := 0, stabilityGeneration := 0, graceGeneration := 0,
    dwellGeneration := 0, dwellSuspended := false, payload := .refused, generatedAt := none }

def isWatchingForValidFrames (m : HonestStateMachine) : Bool := m.liveness = .live

def isStabilizing (m : HonestStateMachine) : Bool :=
  m.liveness = .live && m.snapshotClass = .healthy && m.hasEverDisconnected &&
    !m.stabilizedThisConnection

def isAwaitingStartGrace (m : HonestStateMachine) : Bool := m.liveness = .starting

def Liveness.isReconnecting : Liveness → Bool
  | .reconnecting _ => true
  | _ => false

def isAwaitingWarmDwell (m : HonestStateMachine) : Bool :=
  m.liveness.isReconnecting && !m.dwellSuspended

def connectionState (m : HonestStateMachine) : ConnectionState :=
  match m.liveness with
  | .reconnecting reason => .reconnecting reason
  | .disconnected reason => .disconnected reason
  | .starting => .starting
  | .notRunning => .notRunning
  | .stale => .stale
  | .initial => .connecting
  | .live =>
    match m.snapshotClass with
    | .none => .connecting
    | .unsupported => .unsupported
    | .empty => .emptyRoster
    | .healthy =>
      if m.isStabilizing then
        if crashLoopThreshold ≤ m.consecutiveUnstableReconnects then .crashLooping
        else .connecting
      else .connected

def hasNoViableTarget (m : HonestStateMachine) : Bool :=
  match m.payload.nextSwap with
  | some (.noViableTarget _ _) => true
  | _ => false

def activeBlindDegraded (m : HonestStateMachine) : Bool :=
  m.payload.rows.any fun row =>
    row.isActive && (row.blindActive.map (·.autoProtectionDegraded)).getD false

def presentation (m : HonestStateMachine) : PresentationState :=
  .make m.connectionState m.payload.rows.length m.hasNoViableTarget m.payload.keychainLocked
    m.payload.canonicalScrub m.activeBlindDegraded m.payload.systemicRefreshFailure
    m.payload.systemicRefreshSource

/-! ### Lines -/

/-- A breaking-major frame: its numbers are refused. -/
def refuse (m : HonestStateMachine) : HonestStateMachine × LineOutcome :=
  ({ m with liveness := .live, hasEverConnected := true, snapshotClass := .unsupported,
            payload := .refused }, .unsupportedSchema)

def applySnapshot (m : HonestStateMachine) (status : VersionedStatus) :
    HonestStateMachine × LineOutcome :=
  if status.isSchemaSupported then
    ({ m with
        liveness := .live
        hasEverConnected := true
        snapshotClass := if status.accounts.isEmpty then .empty else .healthy
        payload := .ofStatus status
        generatedAt := some status.generatedAt }, .appliedSnapshot)
  else m.refuse

/-- A heartbeat is liveness only: neither the class nor the rows. -/
def applyHeartbeat (m : HonestStateMachine) (generatedAt : Int64)
    (schemaVersion : SchemaVersion) : HonestStateMachine × LineOutcome :=
  if WireContract.isSupported schemaVersion then
    ({ m with liveness := .live, hasEverConnected := true, generatedAt := some generatedAt },
      .appliedHeartbeat)
  else m.refuse

def applyFrame (m : HonestStateMachine) : Decoding WatchFrame → HonestStateMachine × LineOutcome
  | .error _ => (m, .ignoredUndecodable)
  | .ok (.snapshot status) => m.applySnapshot status
  | .ok (.heartbeat generatedAt schemaVersion) => m.applyHeartbeat generatedAt schemaVersion
  | .ok .unknown => (m, .ignoredUnknownFrame)

/-! ### Events and timers -/

/-- The generation bumps of a step: a token moves only when its condition turns. -/
def retime (before after : HonestStateMachine) : HonestStateMachine :=
  { after with
    stabilityGeneration :=
      if after.isStabilizing = before.isStabilizing then after.stabilityGeneration
      else after.stabilityGeneration + 1
    graceGeneration :=
      if after.isAwaitingStartGrace = before.isAwaitingStartGrace then after.graceGeneration
      else after.graceGeneration + 1
    dwellGeneration :=
      if after.isAwaitingWarmDwell = before.isAwaitingWarmDwell then after.dwellGeneration
      else after.dwellGeneration + 1 }

def dropped (m : HonestStateMachine) (reason : String) : HonestStateMachine :=
  if m.hasEverConnected then
    match m.liveness with
    -- already in the warm-drop track: the dwell alone owns the escalation
    | .reconnecting _ | .disconnected _ => m
    | _ =>
      { m with
        consecutiveUnstableReconnects :=
          if m.isStabilizing then m.consecutiveUnstableReconnects + 1
          else m.consecutiveUnstableReconnects
        liveness := .reconnecting reason
        snapshotClass := .none
        hasEverDisconnected := true
        watchdogGeneration := m.watchdogGeneration + 1 }
  else
    match m.liveness with
    | .starting | .notRunning => m
    | _ => { m with liveness := .starting }

variable [JsonDecoder]

def fold (m : HonestStateMachine) : TransportEvent → HonestStateMachine × Option LineOutcome
  | .connected =>
    ({ m with liveness := .live, hasEverConnected := true, snapshotClass := .none,
              stabilizedThisConnection := false,
              watchdogGeneration := m.watchdogGeneration + 1 }, none)
  | .disconnected reason => (m.dropped reason, none)
  | .stale =>
    ({ m with liveness := .stale, watchdogGeneration := m.watchdogGeneration + 1 }, none)
  | .line text =>
    let (after, outcome) := m.applyFrame (parseWatchFrame text)
    ({ after with
        watchdogGeneration :=
          if outcome.resetsValidFrameWatchdog then after.watchdogGeneration + 1
          else after.watchdogGeneration }, some outcome)

def apply (m : HonestStateMachine) (event : TransportEvent) :
    HonestStateMachine × Option LineOutcome :=
  (m.retime (m.fold event).1, (m.fold event).2)

def watchdogElapsed (m : HonestStateMachine) (generation : ℕ) : HonestStateMachine :=
  if generation = m.watchdogGeneration ∧ m.liveness = .live then
    let after := { m with liveness := .stale }
    if after.isStabilizing = m.isStabilizing then after
    else { after with stabilityGeneration := m.stabilityGeneration + 1 }
  else m

def stabilityElapsed (m : HonestStateMachine) (generation : ℕ) : HonestStateMachine :=
  if generation = m.stabilityGeneration ∧ m.isStabilizing then
    { m with stabilizedThisConnection := true, consecutiveUnstableReconnects := 0,
             stabilityGeneration := m.stabilityGeneration + 1 }
  else m

def graceElapsed (m : HonestStateMachine) (generation : ℕ) : HonestStateMachine :=
  if generation = m.graceGeneration ∧ m.liveness = .starting then
    { m with liveness := .notRunning, graceGeneration := m.graceGeneration + 1 }
  else m

def dwellElapsed (m : HonestStateMachine) (generation : ℕ) : HonestStateMachine :=
  if generation = m.dwellGeneration then
    match m.liveness with
    | .reconnecting reason =>
      { m with liveness := .disconnected reason, dwellGeneration := m.dwellGeneration + 1 }
    | _ => m
  else m

def systemWillSleep (m : HonestStateMachine) : HonestStateMachine :=
  let after := { m with dwellSuspended := true }
  if after.isAwaitingWarmDwell = m.isAwaitingWarmDwell then after
  else { after with dwellGeneration := m.dwellGeneration + 1 }

def systemDidWake (m : HonestStateMachine) : HonestStateMachine :=
  let after := { m with dwellSuspended := false }
  if after.isAwaitingWarmDwell = m.isAwaitingWarmDwell then after
  else { after with dwellGeneration := m.dwellGeneration + 1 }

end HonestStateMachine

end Sessiometer.Menubar
