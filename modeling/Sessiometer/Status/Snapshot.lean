import Sessiometer.Daemon.State
import Sessiometer.Model.Json

namespace Sessiometer.Status

/-! ## Derived readers and writers over a parsed document -/

abbrev Fields := List (String × Value)

def fields : Value → Option Fields
  | .object fs => some fs
  | _ => none

def required {α : Type} (read : Value → Option α) (fs : Fields) (key : String) : Option α :=
  (fs.lookup key).bind read

/-- An `Option` field: a missing key and a `null` are `None`. -/
def optional {α : Type} (read : Value → Option α) (fs : Fields) (key : String) :
    Option (Option α) :=
  match fs.lookup key with
  | some .null => some none
  | some v => (read v).map some
  | none => some none

/-- `#[serde(default)]`: only a missing key is the default. -/
def defaulted {α : Type} (read : Value → Option α) (default : α) (fs : Fields) (key : String) :
    Option α :=
  match fs.lookup key with
  | some v => read v
  | none => some default

def string : Value → Option String
  | .string s => some s
  | _ => none

def bool : Value → Option Bool
  | .bool b => some b
  | _ => none

/-- A fixed-width integer: only an integer literal of the type's range. -/
def number {α : Type} (low high : Int) (make : Int → α) : Value → Option α
  | .int n => if low ≤ n ∧ n < high then some (make n) else none
  | _ => none

def u8 : Value → Option UInt8 := number 0 256 fun n => UInt8.ofNat n.toNat

def u32 : Value → Option UInt32 := number 0 4294967296 fun n => UInt32.ofNat n.toNat

def u64 : Value → Option UInt64 :=
  number 0 18446744073709551616 fun n => UInt64.ofNat n.toNat

def i64 : Value → Option Int64 :=
  number (-9223372036854775808) 9223372036854775808 Int64.ofInt

def array {α : Type} (read : Value → Option α) : Value → Option (List α)
  | .array items => items.mapM read
  | _ => none

def ofU8 (n : UInt8) : Value := .int n.toNat
def ofU32 (n : UInt32) : Value := .int n.toNat
def ofU64 (n : UInt64) : Value := .int n.toNat
def ofI64 (n : Int64) : Value := .int n.toInt

/-- An `Option` that is always written. -/
def nullable {α : Type} (write : α → Value) : Option α → Value
  | some x => write x
  | none => .null

/-- `skip_serializing_if = "Option::is_none"`. -/
def skipNone {α : Type} (key : String) (write : α → Value) : Option α → Fields
  | some x => [(key, write x)]
  | none => []

/-! ## The leaves -/

structure SchemaVersion where
  major : UInt32
  minor : UInt32
deriving DecidableEq

namespace SchemaVersion

def default : SchemaVersion := { major := 0, minor := 0 }

def encode (s : SchemaVersion) : Value :=
  .object [("major", ofU32 s.major), ("minor", ofU32 s.minor)]

def decode (v : Value) : Option SchemaVersion := do
  let fs ← fields v
  let major ← required u32 fs "major"
  let minor ← required u32 fs "minor"
  return { major, minor }

end SchemaVersion

def statusSchemaVersion : SchemaVersion := { major := 1, minor := 14 }

structure RefreshHealth where
  lastOk : Bool
  rotated : Option Bool
  consecutiveFailures : UInt32
deriving DecidableEq

namespace RefreshHealth

def encode (h : RefreshHealth) : Value :=
  .object ([("last_ok", .bool h.lastOk)] ++ skipNone "rotated" .bool h.rotated ++
    [("consecutive_failures", ofU32 h.consecutiveFailures)])

def decode (v : Value) : Option RefreshHealth := do
  let fs ← fields v
  let lastOk ← required bool fs "last_ok"
  let rotated ← optional bool fs "rotated"
  let consecutiveFailures ← required u32 fs "consecutive_failures"
  return { lastOk, rotated, consecutiveFailures }

end RefreshHealth

structure BlindActive where
  blindSecs : UInt64
  lastKnownSessionPct : UInt8
  autoProtectionDegraded : Bool
deriving DecidableEq

namespace BlindActive

def encode (b : BlindActive) : Value :=
  .object [("blind_secs", ofU64 b.blindSecs),
    ("last_known_session_pct", ofU8 b.lastKnownSessionPct),
    ("auto_protection_degraded", .bool b.autoProtectionDegraded)]

def decode (v : Value) : Option BlindActive := do
  let fs ← fields v
  let blindSecs ← required u64 fs "blind_secs"
  let lastKnownSessionPct ← required u8 fs "last_known_session_pct"
  let autoProtectionDegraded ← required bool fs "auto_protection_degraded"
  return { blindSecs, lastKnownSessionPct, autoProtectionDegraded }

end BlindActive

structure BlindPreemptSwap where
  fromLabel : String
  toLabel : String
  lastKnownSessionPct : UInt8
deriving DecidableEq

namespace BlindPreemptSwap

def encode (b : BlindPreemptSwap) : Value :=
  .object [("from_label", .string b.fromLabel), ("to_label", .string b.toLabel),
    ("last_known_session_pct", ofU8 b.lastKnownSessionPct)]

def decode (v : Value) : Option BlindPreemptSwap := do
  let fs ← fields v
  let fromLabel ← required string fs "from_label"
  let toLabel ← required string fs "to_label"
  let lastKnownSessionPct ← required u8 fs "last_known_session_pct"
  return { fromLabel, toLabel, lastKnownSessionPct }

end BlindPreemptSwap

structure LandingOvershoot where
  fromLabel : String
  decisionPct : UInt8
  landingPct : UInt8
deriving DecidableEq

namespace LandingOvershoot

def encode (l : LandingOvershoot) : Value :=
  .object [("from_label", .string l.fromLabel), ("decision_pct", ofU8 l.decisionPct),
    ("landing_pct", ofU8 l.landingPct)]

def decode (v : Value) : Option LandingOvershoot := do
  let fs ← fields v
  let fromLabel ← required string fs "from_label"
  let decisionPct ← required u8 fs "decision_pct"
  let landingPct ← required u8 fs "landing_pct"
  return { fromLabel, decisionPct, landingPct }

end LandingOvershoot

structure ExpiryCohort where
  size : UInt32
  observed : UInt32
  earliest : Int64
  spanSecs : Int64
deriving DecidableEq

namespace ExpiryCohort

def encode (c : ExpiryCohort) : Value :=
  .object [("size", ofU32 c.size), ("observed", ofU32 c.observed),
    ("earliest", ofI64 c.earliest), ("span_secs", ofI64 c.spanSecs)]

def decode (v : Value) : Option ExpiryCohort := do
  let fs ← fields v
  let size ← required u32 fs "size"
  let observed ← required u32 fs "observed"
  let earliest ← required i64 fs "earliest"
  let spanSecs ← required i64 fs "span_secs"
  return { size, observed, earliest, spanSecs }

end ExpiryCohort

inductive CanonicalScrub where
  | recovering
  | exhausted
deriving DecidableEq

namespace CanonicalScrub

def state : CanonicalScrub → String
  | recovering => "recovering"
  | exhausted => "exhausted"

def encode (s : CanonicalScrub) : Value := .object [("state", .string s.state)]

def decode (v : Value) : Option CanonicalScrub := do
  let fs ← fields v
  let state ← required string fs "state"
  if state = "recovering" then return .recovering
  else if state = "exhausted" then return .exhausted
  else none

end CanonicalScrub

inductive SystemicRefreshSource where
  | sweep
  | preflight
deriving DecidableEq

namespace SystemicRefreshSource

def token : SystemicRefreshSource → String
  | sweep => "sweep"
  | preflight => "preflight"

def encode (s : SystemicRefreshSource) : Value := .string s.token

def decode (v : Value) : Option SystemicRefreshSource := do
  let token ← string v
  if token = "sweep" then return .sweep
  else if token = "preflight" then return .preflight
  else none

end SystemicRefreshSource

inductive CanaryStatus where
  | ok
  | inconclusive
  | notFound
  | ambiguous (count : UInt64)
  | drift (displayed matched : String) (overridden : Bool)
  | refusedUnparseableCanonical
deriving DecidableEq

namespace CanaryStatus

def encode : CanaryStatus → Value
  | ok => .object [("verdict", .string "ok")]
  | inconclusive => .object [("verdict", .string "inconclusive")]
  | notFound => .object [("verdict", .string "not_found")]
  | ambiguous count => .object [("verdict", .string "ambiguous"), ("count", ofU64 count)]
  | drift displayed matched overridden =>
    .object [("verdict", .string "drift"), ("displayed", .string displayed),
      ("matched", .string matched), ("overridden", .bool overridden)]
  | refusedUnparseableCanonical =>
    .object [("verdict", .string "refused_unparseable_canonical")]

def decode (v : Value) : Option CanaryStatus := do
  let fs ← fields v
  let verdict ← required string fs "verdict"
  if verdict = "ok" then return .ok
  else if verdict = "inconclusive" then return .inconclusive
  else if verdict = "not_found" then return .notFound
  else if verdict = "ambiguous" then return .ambiguous (← required u64 fs "count")
  else if verdict = "drift" then
    let displayed ← required string fs "displayed"
    let matched ← required string fs "matched"
    let overridden ← required bool fs "overridden"
    return .drift displayed matched overridden
  else if verdict = "refused_unparseable_canonical" then return .refusedUnparseableCanonical
  else none

end CanaryStatus

inductive CredentialHealth where
  | healthy
  | unknown
  | stale
  | atRisk
  | degraded
  | dead
deriving DecidableEq

namespace CredentialHealth

def token : CredentialHealth → String
  | healthy => "healthy"
  | unknown => "unknown"
  | stale => "stale"
  | atRisk => "at_risk"
  | degraded => "degraded"
  | dead => "dead"

def encode (h : CredentialHealth) : Value := .string h.token

def decode (v : Value) : Option CredentialHealth := do
  let token ← string v
  if token = "healthy" then return .healthy
  else if token = "unknown" then return .unknown
  else if token = "stale" then return .stale
  else if token = "at_risk" then return .atRisk
  else if token = "degraded" then return .degraded
  else if token = "dead" then return .dead
  else none

end CredentialHealth

inductive ExpiryHorizon where
  | unknown
  | beyond
  | within
  | lapsed
deriving DecidableEq

namespace ExpiryHorizon

def token : ExpiryHorizon → String
  | unknown => "unknown"
  | beyond => "beyond"
  | within => "within"
  | lapsed => "lapsed"

def encode (h : ExpiryHorizon) : Value := .string h.token

def decode (v : Value) : Option ExpiryHorizon := do
  let token ← string v
  if token = "unknown" then return .unknown
  else if token = "beyond" then return .beyond
  else if token = "within" then return .within
  else if token = "lapsed" then return .lapsed
  else none

end ExpiryHorizon

structure AccountExpiry where
  expiresAt : Option Int64
  horizonState : ExpiryHorizon
  cohortId : Option UInt32
deriving DecidableEq

namespace AccountExpiry

def encode (e : AccountExpiry) : Value :=
  .object ([("expires_at", nullable ofI64 e.expiresAt),
    ("horizon_state", e.horizonState.encode)] ++ skipNone "cohort_id" ofU32 e.cohortId)

def decode (v : Value) : Option AccountExpiry := do
  let fs ← fields v
  let expiresAt ← optional i64 fs "expires_at"
  let horizonState ← defaulted ExpiryHorizon.decode .unknown fs "horizon_state"
  let cohortId ← optional u32 fs "cohort_id"
  return { expiresAt, horizonState, cohortId }

end AccountExpiry

/-! ## The next swap -/

inductive NextSwapReason where
  | soonestReset (resetsAt : Int64)
  | onlyCandidate
  | rosterOrder
deriving DecidableEq

namespace NextSwapReason

def encode : NextSwapReason → Value
  | soonestReset resetsAt =>
    .object [("kind", .string "soonest_reset"), ("resets_at", ofI64 resetsAt)]
  | onlyCandidate => .object [("kind", .string "only_candidate")]
  | rosterOrder => .object [("kind", .string "roster_order")]

def decode (v : Value) : Option NextSwapReason := do
  let fs ← fields v
  let kind ← required string fs "kind"
  if kind = "soonest_reset" then return .soonestReset (← required i64 fs "resets_at")
  else if kind = "only_candidate" then return .onlyCandidate
  else if kind = "roster_order" then return .rosterOrder
  else none

end NextSwapReason

inductive NoTargetCause where
  | session
  | weekly
deriving DecidableEq

namespace NoTargetCause

def token : NoTargetCause → String
  | session => "session"
  | weekly => "weekly"

def encode (c : NoTargetCause) : Value := .string c.token

def decode (v : Value) : Option NoTargetCause := do
  let token ← string v
  if token = "session" then return .session
  else if token = "weekly" then return .weekly
  else none

end NoTargetCause

inductive NextSwap where
  | target (to' : String) (reason : Option NextSwapReason)
  | noViableTarget (cause : Option NoTargetCause) (resetsAt : Option Int64)
  | awaitingData
deriving DecidableEq

namespace NextSwap

def encode : NextSwap → Value
  | target to' reason =>
    .object [("state", .string "target"), ("to", .string to'),
      ("reason", nullable NextSwapReason.encode reason)]
  | noViableTarget cause resetsAt =>
    .object [("state", .string "no_viable_target"),
      ("cause", nullable NoTargetCause.encode cause), ("resets_at", nullable ofI64 resetsAt)]
  | awaitingData => .object [("state", .string "awaiting_data")]

def decode (v : Value) : Option NextSwap := do
  let fs ← fields v
  let state ← required string fs "state"
  if state = "target" then
    let to' ← required string fs "to"
    let reason ← optional NextSwapReason.decode fs "reason"
    return .target to' reason
  else if state = "no_viable_target" then
    let cause ← optional NoTargetCause.decode fs "cause"
    let resetsAt ← optional i64 fs "resets_at"
    return .noViableTarget cause resetsAt
  else if state = "awaiting_data" then return .awaitingData
  else none

end NextSwap

/-! ## The payload and its envelope -/

structure AccountStatusLine where
  label : String
  active : Bool
  enabled : Bool
  quarantined : Bool
  recovering : Bool
  sessionPct : Option UInt8
  weeklyPct : Option UInt8
  sessionResetsAt : Option Int64
  weeklyResetsAt : Option Int64
  weeklyExhausted : Bool
  accessExpiresAt : Option Int64
  refreshHealth : Option RefreshHealth
  health : Option CredentialHealth
  blindActive : Option BlindActive
  expiry : Option AccountExpiry
deriving DecidableEq

namespace AccountStatusLine

def encode (a : AccountStatusLine) : Value :=
  .object ([("label", .string a.label), ("active", .bool a.active), ("enabled", .bool a.enabled),
    ("quarantined", .bool a.quarantined), ("recovering", .bool a.recovering),
    ("session_pct", nullable ofU8 a.sessionPct), ("weekly_pct", nullable ofU8 a.weeklyPct),
    ("session_resets_at", nullable ofI64 a.sessionResetsAt),
    ("weekly_resets_at", nullable ofI64 a.weeklyResetsAt),
    ("weekly_exhausted", .bool a.weeklyExhausted),
    ("access_expires_at", nullable ofI64 a.accessExpiresAt),
    ("refresh_health", nullable RefreshHealth.encode a.refreshHealth),
    ("auth", nullable CredentialHealth.encode a.health)] ++
    skipNone "blind_active" BlindActive.encode a.blindActive ++
    skipNone "expiry" AccountExpiry.encode a.expiry)

def decode (v : Value) : Option AccountStatusLine := do
  let fs ← fields v
  let label ← required string fs "label"
  let active ← required bool fs "active"
  let enabled ← required bool fs "enabled"
  let quarantined ← required bool fs "quarantined"
  let recovering ← defaulted bool false fs "recovering"
  let sessionPct ← optional u8 fs "session_pct"
  let weeklyPct ← optional u8 fs "weekly_pct"
  let sessionResetsAt ← optional i64 fs "session_resets_at"
  let weeklyResetsAt ← optional i64 fs "weekly_resets_at"
  let weeklyExhausted ← defaulted bool false fs "weekly_exhausted"
  let accessExpiresAt ← optional i64 fs "access_expires_at"
  let refreshHealth ← optional RefreshHealth.decode fs "refresh_health"
  let health ← optional CredentialHealth.decode fs "auth"
  let blindActive ← optional BlindActive.decode fs "blind_active"
  let expiry ← optional AccountExpiry.decode fs "expiry"
  return { label, active, enabled, quarantined, recovering, sessionPct, weeklyPct,
           sessionResetsAt, weeklyResetsAt, weeklyExhausted, accessExpiresAt, refreshHealth,
           health, blindActive, expiry }

end AccountStatusLine

structure StatusResponse where
  accounts : List AccountStatusLine
  nextSwap : Option NextSwap
  refreshEnabled : Option Bool
  systemicRefreshFailure : Option UInt32
  systemicRefreshSource : Option SystemicRefreshSource
  canonicalScrub : Option CanonicalScrub
  keychainLocked : Bool
  recentBlindPreemptSwap : Option BlindPreemptSwap
  recentLandingOvershoot : Option LandingOvershoot
  canary : Option CanaryStatus
  expiryCohort : Option ExpiryCohort
deriving DecidableEq

namespace StatusResponse

/-- The payload's entries, flattened into the envelope's object. -/
def entries (r : StatusResponse) : Fields :=
  [("accounts", .array (r.accounts.map AccountStatusLine.encode)),
    ("next_swap", nullable NextSwap.encode r.nextSwap),
    ("refresh_enabled", nullable .bool r.refreshEnabled),
    ("systemic_refresh_failure", nullable ofU32 r.systemicRefreshFailure)] ++
    skipNone "systemic_refresh_source" SystemicRefreshSource.encode r.systemicRefreshSource ++
    skipNone "canonical_scrub" CanonicalScrub.encode r.canonicalScrub ++
    (if r.keychainLocked then [("keychain_locked", .bool true)] else []) ++
    skipNone "recent_blind_preempt_swap" BlindPreemptSwap.encode r.recentBlindPreemptSwap ++
    skipNone "recent_landing_overshoot" LandingOvershoot.encode r.recentLandingOvershoot ++
    skipNone "canary" CanaryStatus.encode r.canary ++
    skipNone "expiry_cohort" ExpiryCohort.encode r.expiryCohort

def ofFields (fs : Fields) : Option StatusResponse := do
  let accounts ← required (array AccountStatusLine.decode) fs "accounts"
  let nextSwap ← optional NextSwap.decode fs "next_swap"
  let refreshEnabled ← optional bool fs "refresh_enabled"
  let systemicRefreshFailure ← optional u32 fs "systemic_refresh_failure"
  let systemicRefreshSource ← optional SystemicRefreshSource.decode fs "systemic_refresh_source"
  let canonicalScrub ← optional CanonicalScrub.decode fs "canonical_scrub"
  let keychainLocked ← defaulted bool false fs "keychain_locked"
  let recentBlindPreemptSwap ← optional BlindPreemptSwap.decode fs "recent_blind_preempt_swap"
  let recentLandingOvershoot ← optional LandingOvershoot.decode fs "recent_landing_overshoot"
  let canary ← optional CanaryStatus.decode fs "canary"
  let expiryCohort ← optional ExpiryCohort.decode fs "expiry_cohort"
  return { accounts, nextSwap, refreshEnabled, systemicRefreshFailure, systemicRefreshSource,
           canonicalScrub, keychainLocked, recentBlindPreemptSwap, recentLandingOvershoot,
           canary, expiryCohort }

end StatusResponse

structure VersionedStatus where
  schemaVersion : SchemaVersion
  generatedAt : Int64
  status : StatusResponse
deriving DecidableEq

namespace VersionedStatus

def entries (s : VersionedStatus) : Fields :=
  [("schema_version", s.schemaVersion.encode), ("generated_at", ofI64 s.generatedAt)] ++
    s.status.entries

/-- The reply to a plain `status` request. -/
def encode (s : VersionedStatus) : Value := .object s.entries

def decode (v : Value) : Option VersionedStatus := do
  let fs ← fields v
  let schemaVersion ← defaulted SchemaVersion.decode .default fs "schema_version"
  let generatedAt ← defaulted i64 0 fs "generated_at"
  let status ← StatusResponse.ofFields fs
  return { schemaVersion, generatedAt, status }

end VersionedStatus

/-! ## The snapshot and its projection -/

structure Usage where
  session : Option ℚ
  weekly : Option ℚ
  weeklyResetsAt : Option Int64
  sessionResetsAt : Option Int64
deriving DecidableEq

structure AccountReading where
  label : String
  active : Bool
  enabled : Bool
  quarantined : Bool
  recovering : Bool
  weeklyExhausted : Bool
  usage : Option Usage
  accessExpiresAt : Option Int64
  refreshHealth : Option RefreshHealth
  health : CredentialHealth
  blindActive : Option BlindActive
  expiry : Option AccountExpiry
deriving DecidableEq

structure StatusSnapshot where
  accounts : List AccountReading
  nextSwap : Option NextSwap
  refreshEnabled : Bool
  generatedAt : Int64
  systemicRefresh : Option UInt32
  systemicRefreshSource : Option SystemicRefreshSource
  canonicalScrub : Option CanonicalScrub
  keychainLocked : Bool
  recentBlindPreemptSwap : Option BlindPreemptSwap
  recentLandingOvershoot : Option LandingOvershoot
  canary : Option CanaryStatus
  expiryCohort : Option ExpiryCohort
deriving DecidableEq

def pctOf (fraction : ℚ) : UInt8 := UInt8.ofNat (toPct fraction)

def statusResponse (snapshot : StatusSnapshot) : StatusResponse :=
  { accounts := snapshot.accounts.map fun account =>
      { label := account.label
        active := account.active
        enabled := account.enabled
        quarantined := account.quarantined
        recovering := account.recovering
        sessionPct := account.usage.bind fun u => u.session.map pctOf
        weeklyPct := account.usage.bind fun u => u.weekly.map pctOf
        sessionResetsAt := account.usage.bind fun u => u.sessionResetsAt
        weeklyResetsAt := account.usage.bind fun u => u.weeklyResetsAt
        weeklyExhausted := account.weeklyExhausted
        accessExpiresAt := account.accessExpiresAt
        refreshHealth := account.refreshHealth
        health := some account.health
        blindActive := account.blindActive
        expiry := account.expiry }
    nextSwap := snapshot.nextSwap
    refreshEnabled := some snapshot.refreshEnabled
    systemicRefreshFailure := snapshot.systemicRefresh
    systemicRefreshSource := snapshot.systemicRefreshSource
    canonicalScrub := snapshot.canonicalScrub
    keychainLocked := snapshot.keychainLocked
    recentBlindPreemptSwap := snapshot.recentBlindPreemptSwap
    recentLandingOvershoot := snapshot.recentLandingOvershoot
    canary := snapshot.canary
    expiryCohort := snapshot.expiryCohort }

def versionedStatusResponse (snapshot : StatusSnapshot) : VersionedStatus :=
  { schemaVersion := statusSchemaVersion
    generatedAt := snapshot.generatedAt
    status := statusResponse snapshot }

/-! ## Watch frames -/

/-- `SnapshotFrame`: the tag, then the flattened envelope. -/
def snapshotFrame (s : VersionedStatus) : Value :=
  .object (("type", .string "snapshot") :: s.entries)

def heartbeatFrame (generatedAt : Int64) : Value :=
  .object [("type", .string "heartbeat"), ("generated_at", ofI64 generatedAt),
    ("schema_version", statusSchemaVersion.encode)]

inductive WatchFrame where
  | snapshot (status : VersionedStatus)
  | heartbeat (generatedAt : Int64) (schemaVersion : SchemaVersion)
  | unknown
deriving DecidableEq

def HeartbeatFrame.decode (v : Value) : Option (Int64 × SchemaVersion) := do
  let fs ← fields v
  let kind ← required string fs "type"
  if kind = "snapshot" ∨ kind = "heartbeat" then
    let generatedAt ← required i64 fs "generated_at"
    let schemaVersion ← defaulted SchemaVersion.decode .default fs "schema_version"
    return (generatedAt, schemaVersion)
  else none

/-- `serde_json` on text, a dependency. -/
class SerdeText where
  fromStr : String → Option Value

variable [SerdeText]

/-- A line that is malformed, or whose body is, is an error: `none`. -/
def parseWatchFrame (line : String) : Option WatchFrame := do
  let v ← SerdeText.fromStr line
  let fs ← fields v
  let kind ← optional string fs "type"
  if kind = some "snapshot" then return .snapshot (← VersionedStatus.decode v)
  else if kind = some "heartbeat" then
    let (generatedAt, schemaVersion) ← HeartbeatFrame.decode v
    return .heartbeat generatedAt schemaVersion
  else return .unknown

/-- The `status` client's decode of an unframed reply. -/
def parseStatus (line : String) : Option VersionedStatus := do
  let v ← SerdeText.fromStr line
  VersionedStatus.decode v

end Sessiometer.Status
