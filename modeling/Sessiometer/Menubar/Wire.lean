import Sessiometer.Model.Json

namespace Sessiometer.Menubar

/-- How a decode fails: a `DecodingError`, or the distinct `UnknownKind` a carrying decoder may
catch. -/
inductive Refusal where
  | decodingError
  | unknownKind (kind : String)
deriving DecidableEq

abbrev Decoding := Except Refusal

/-! ## `JSONDecoder` over a parsed document -/

abbrev Container := List (String × Value)

/-- `decoder.container(keyedBy:)`. -/
def container : Value → Decoding Container
  | .object fields => .ok fields
  | _ => .error .decodingError

def decode {α : Type} (reader : Value → Decoding α) (c : Container) (key : String) : Decoding α :=
  match c.lookup key with
  | some v => reader v
  | none => .error .decodingError

/-- An absent key and a `null` are both `nil`. -/
def decodeIfPresent {α : Type} (reader : Value → Decoding α) (c : Container) (key : String) :
    Decoding (Option α) :=
  match c.lookup key with
  | some .null => .ok none
  | some v => (reader v).map some
  | none => .ok none

def string : Value → Decoding String
  | .string s => .ok s
  | _ => .error .decodingError

def bool : Value → Decoding Bool
  | .bool b => .ok b
  | _ => .error .decodingError

/-- A number that holds a whole value, however it is spelled. -/
def whole : Value → Option Int
  | .int n => some n
  | .float q => if q.den = 1 then some q.num else none
  | _ => none

/-- A fixed-width integer: a number out of the type's range does not decode. -/
def number {α : Type} (low high : Int) (make : Int → α) (v : Value) : Decoding α :=
  match whole v with
  | some n => if low ≤ n ∧ n < high then .ok (make n) else .error .decodingError
  | none => .error .decodingError

def uint8 : Value → Decoding UInt8 := number 0 256 fun n => UInt8.ofNat n.toNat

def uint32 : Value → Decoding UInt32 := number 0 4294967296 fun n => UInt32.ofNat n.toNat

def uint64 : Value → Decoding UInt64 :=
  number 0 18446744073709551616 fun n => UInt64.ofNat n.toNat

def int64 : Value → Decoding Int64 :=
  number (-9223372036854775808) 9223372036854775808 Int64.ofInt

def array {α : Type} (reader : Value → Decoding α) : Value → Decoding (List α)
  | .array items => items.mapM reader
  | _ => .error .decodingError

/-! ## The contract version -/

structure SchemaVersion where
  major : UInt32
  minor : UInt32
deriving DecidableEq

/-- What an absent `schema_version` decodes to. -/
def SchemaVersion.preFreeze : SchemaVersion := { major := 0, minor := 0 }

def SchemaVersion.decode (v : Value) : Decoding SchemaVersion := do
  let c ← container v
  let major ← Menubar.decode uint32 c "major"
  let minor ← Menubar.decode uint32 c "minor"
  return { major, minor }

namespace WireContract

def supportedSchemaMajor : UInt32 := 1

def isSupported (version : SchemaVersion) : Bool := version.major == supportedSchemaMajor

end WireContract

/-! ## Leaf values -/

inductive CredentialHealth where
  | healthy
  | unknown
  | stale
  | atRisk
  | degraded
  | dead
deriving DecidableEq

def CredentialHealth.decode (v : Value) : Decoding CredentialHealth := do
  let raw ← string v
  if raw = "healthy" then return .healthy
  else if raw = "unknown" then return .unknown
  else if raw = "stale" then return .stale
  else if raw = "at_risk" then return .atRisk
  else if raw = "degraded" then return .degraded
  else if raw = "dead" then return .dead
  else throw .decodingError

structure RefreshHealth where
  lastOk : Bool
  rotated : Option Bool
  consecutiveFailures : UInt32
deriving DecidableEq

def RefreshHealth.decode (v : Value) : Decoding RefreshHealth := do
  let c ← container v
  let lastOk ← Menubar.decode bool c "last_ok"
  let rotated ← decodeIfPresent bool c "rotated"
  let consecutiveFailures ← Menubar.decode uint32 c "consecutive_failures"
  return { lastOk, rotated, consecutiveFailures }

inductive NextSwapReason where
  | soonestReset (resetsAt : Int64)
  | onlyCandidate
  | rosterOrder
deriving DecidableEq

def NextSwapReason.decode (v : Value) : Decoding NextSwapReason := do
  let c ← container v
  let kind ← Menubar.decode string c "kind"
  if kind = "soonest_reset" then return .soonestReset (← Menubar.decode int64 c "resets_at")
  else if kind = "only_candidate" then return .onlyCandidate
  else if kind = "roster_order" then return .rosterOrder
  else throw (.unknownKind kind)

inductive NoTargetCause where
  | session
  | weekly
deriving DecidableEq

def NoTargetCause.decode (v : Value) : Decoding NoTargetCause := do
  let raw ← string v
  if raw = "session" then return .session
  else if raw = "weekly" then return .weekly
  else throw .decodingError

inductive NextSwap where
  | target (to' : String) (reason : Option NextSwapReason)
  | noViableTarget (cause : Option NoTargetCause) (resetsAt : Option Int64)
  | awaitingData
deriving DecidableEq

/-- `catch is NextSwapReason.UnknownKind`: a rationale of a kind this build does not know is no
rationale. -/
def tolerateUnknownKind {α : Type} : Decoding (Option α) → Decoding (Option α)
  | .error (.unknownKind _) => .ok none
  | outcome => outcome

def NextSwap.decode (v : Value) : Decoding NextSwap := do
  let c ← container v
  let state ← Menubar.decode string c "state"
  if state = "target" then
    let to' ← Menubar.decode string c "to"
    let reason ← tolerateUnknownKind (decodeIfPresent NextSwapReason.decode c "reason")
    return .target to' reason
  else if state = "no_viable_target" then
    let cause ← decodeIfPresent NoTargetCause.decode c "cause"
    let resetsAt ← decodeIfPresent int64 c "resets_at"
    return .noViableTarget cause resetsAt
  else if state = "awaiting_data" then return .awaitingData
  else throw .decodingError

inductive CanonicalScrub where
  | recovering
  | exhausted
deriving DecidableEq

def CanonicalScrub.decode (v : Value) : Decoding CanonicalScrub := do
  let c ← container v
  let state ← Menubar.decode string c "state"
  if state = "recovering" then return .recovering
  else if state = "exhausted" then return .exhausted
  else throw .decodingError

inductive SystemicRefreshSource where
  | sweep
  | preflight
  | unrecognized
deriving DecidableEq

def SystemicRefreshSource.ofWireToken (token : String) : SystemicRefreshSource :=
  if token = "sweep" then .sweep
  else if token = "preflight" then .preflight
  else .unrecognized

inductive CanaryStatus where
  | ok
  | inconclusive
  | notFound
  | ambiguous (count : Int64)
  | drift (displayed matched : String) (overridden : Bool)
  | refusedUnparseableCanonical
deriving DecidableEq

def CanaryStatus.decode (v : Value) : Decoding CanaryStatus := do
  let c ← container v
  let verdict ← Menubar.decode string c "verdict"
  if verdict = "ok" then return .ok
  else if verdict = "inconclusive" then return .inconclusive
  else if verdict = "not_found" then return .notFound
  else if verdict = "ambiguous" then return .ambiguous (← Menubar.decode int64 c "count")
  else if verdict = "drift" then
    let displayed ← Menubar.decode string c "displayed"
    let matched ← Menubar.decode string c "matched"
    let overridden ← Menubar.decode bool c "overridden"
    return .drift displayed matched overridden
  else if verdict = "refused_unparseable_canonical" then return .refusedUnparseableCanonical
  else throw .decodingError

structure BlindActive where
  blindSecs : UInt64
  lastKnownSessionPct : UInt8
  autoProtectionDegraded : Bool
deriving DecidableEq

def BlindActive.decode (v : Value) : Decoding BlindActive := do
  let c ← container v
  let blindSecs ← Menubar.decode uint64 c "blind_secs"
  let lastKnownSessionPct ← Menubar.decode uint8 c "last_known_session_pct"
  let autoProtectionDegraded ← Menubar.decode bool c "auto_protection_degraded"
  return { blindSecs, lastKnownSessionPct, autoProtectionDegraded }

inductive ExpiryHorizon where
  | unknown
  | beyond
  | within
  | lapsed
deriving DecidableEq

/-- Total: a token this build does not know is the fail-safe `unknown`. -/
def ExpiryHorizon.ofWireToken (token : String) : ExpiryHorizon :=
  if token = "beyond" then .beyond
  else if token = "within" then .within
  else if token = "lapsed" then .lapsed
  else .unknown

def ExpiryHorizon.decode (v : Value) : Decoding ExpiryHorizon :=
  (string v).map ExpiryHorizon.ofWireToken

structure AccountExpiry where
  expiresAt : Option Int64
  horizonState : ExpiryHorizon
deriving DecidableEq

def AccountExpiry.decode (v : Value) : Decoding AccountExpiry := do
  let c ← container v
  let expiresAt ← decodeIfPresent int64 c "expires_at"
  let horizonState ← decodeIfPresent ExpiryHorizon.decode c "horizon_state"
  return { expiresAt, horizonState := horizonState.getD .unknown }

/-! ## The payload and its envelope -/

structure AccountStatusLine where
  label : String
  active : Bool
  enabled : Bool
  quarantined : Bool
  recovering : Bool
  sessionPct : Option UInt8
  weeklyPct : Option UInt8
  sessionResetsAt : Option Int64
  weeklyResetsAt : Option Int64
  weeklyExhausted : Bool
  accessExpiresAt : Option Int64
  refreshHealth : Option RefreshHealth
  auth : Option CredentialHealth
  blindActive : Option BlindActive
  expiry : Option AccountExpiry
deriving DecidableEq

def AccountStatusLine.decode (v : Value) : Decoding AccountStatusLine := do
  let c ← container v
  let label ← Menubar.decode string c "label"
  let active ← Menubar.decode bool c "active"
  let enabled ← Menubar.decode bool c "enabled"
  let quarantined ← Menubar.decode bool c "quarantined"
  let recovering ← decodeIfPresent bool c "recovering"
  let sessionPct ← decodeIfPresent uint8 c "session_pct"
  let weeklyPct ← decodeIfPresent uint8 c "weekly_pct"
  let sessionResetsAt ← decodeIfPresent int64 c "session_resets_at"
  let weeklyResetsAt ← decodeIfPresent int64 c "weekly_resets_at"
  let weeklyExhausted ← decodeIfPresent bool c "weekly_exhausted"
  let accessExpiresAt ← decodeIfPresent int64 c "access_expires_at"
  let refreshHealth ← decodeIfPresent RefreshHealth.decode c "refresh_health"
  let auth ← decodeIfPresent CredentialHealth.decode c "auth"
  let blindActive ← decodeIfPresent BlindActive.decode c "blind_active"
  let expiry ← decodeIfPresent AccountExpiry.decode c "expiry"
  return { label, active, enabled, quarantined, recovering := recovering.getD false,
           sessionPct, weeklyPct, sessionResetsAt, weeklyResetsAt,
           weeklyExhausted := weeklyExhausted.getD false, accessExpiresAt, refreshHealth, auth,
           blindActive, expiry }

structure VersionedStatus where
  schemaVersion : SchemaVersion
  generatedAt : Int64
  accounts : List AccountStatusLine
  nextSwap : Option NextSwap
  refreshEnabled : Option Bool
  systemicRefreshFailure : Option UInt32
  systemicRefreshSource : Option SystemicRefreshSource
  canonicalScrub : Option CanonicalScrub
  keychainLocked : Bool
  canary : Option CanaryStatus
deriving DecidableEq

def VersionedStatus.decode (v : Value) : Decoding VersionedStatus := do
  let c ← container v
  let schemaVersion ← decodeIfPresent SchemaVersion.decode c "schema_version"
  let generatedAt ← decodeIfPresent int64 c "generated_at"
  let accounts ← Menubar.decode (array AccountStatusLine.decode) c "accounts"
  let nextSwap ← decodeIfPresent NextSwap.decode c "next_swap"
  let refreshEnabled ← decodeIfPresent bool c "refresh_enabled"
  let systemicRefreshFailure ← decodeIfPresent uint32 c "systemic_refresh_failure"
  let systemicRefreshSource ← decodeIfPresent string c "systemic_refresh_source"
  let canonicalScrub ← decodeIfPresent CanonicalScrub.decode c "canonical_scrub"
  let keychainLocked ← decodeIfPresent bool c "keychain_locked"
  let canary ← decodeIfPresent CanaryStatus.decode c "canary"
  return { schemaVersion := schemaVersion.getD .preFreeze, generatedAt := generatedAt.getD 0,
           accounts, nextSwap, refreshEnabled, systemicRefreshFailure,
           systemicRefreshSource := systemicRefreshSource.map .ofWireToken, canonicalScrub,
           keychainLocked := keychainLocked.getD false, canary }

def VersionedStatus.isSchemaSupported (status : VersionedStatus) : Bool :=
  WireContract.isSupported status.schemaVersion

/-! ## Watch-stream frames -/

inductive WatchFrame where
  | snapshot (status : VersionedStatus)
  | heartbeat (generatedAt : Int64) (schemaVersion : SchemaVersion)
  | unknown
deriving DecidableEq

/-- The JSON parser behind `JSONDecoder`, a dependency. -/
class JsonDecoder where
  parse : String → Option Value

variable [JsonDecoder]

/-- `decoder.decode(_, from: data)`: a line that is not JSON is refused before any reading. -/
def decodeLine {α : Type} (reader : Value → Decoding α) (line : String) : Decoding α :=
  match JsonDecoder.parse line with
  | some v => reader v
  | none => .error .decodingError

/-- `FrameProbe`. -/
def probe (v : Value) : Decoding (Option String) := do
  let c ← container v
  decodeIfPresent string c "type"

def HeartbeatFrame.decode (v : Value) : Decoding (Int64 × SchemaVersion) := do
  let c ← container v
  let generatedAt ← Menubar.decode int64 c "generated_at"
  let schemaVersion ← decodeIfPresent SchemaVersion.decode c "schema_version"
  return (generatedAt, schemaVersion.getD .preFreeze)

def parseWatchFrame (line : String) : Decoding WatchFrame := do
  let type ← decodeLine probe line
  if type = some "snapshot" then
    return .snapshot (← decodeLine VersionedStatus.decode line)
  else if type = some "heartbeat" then
    let (generatedAt, schemaVersion) ← decodeLine HeartbeatFrame.decode line
    return .heartbeat generatedAt schemaVersion
  else return .unknown

/-! ## What a line turns out to be -/

/-- A frame of the contract: a snapshot or a heartbeat, of any version. -/
def validFrame : Decoding WatchFrame → Bool
  | .ok (.snapshot _) => true
  | .ok (.heartbeat _ _) => true
  | _ => false

/-- A contract frame of a major this client does not speak. -/
def unsupportedFrame : Decoding WatchFrame → Bool
  | .ok (.snapshot status) => !status.isSchemaSupported
  | .ok (.heartbeat _ schemaVersion) => !WireContract.isSupported schemaVersion
  | _ => false

def decodedSnapshot : Decoding WatchFrame → Option VersionedStatus
  | .ok (.snapshot status) => some status
  | _ => none

/-- A snapshot frame by its `type` tag, whether or not its body decodes. -/
def TaggedSnapshot (line : String) : Prop := decodeLine probe line = .ok (some "snapshot")

end Sessiometer.Menubar
