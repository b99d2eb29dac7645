import Sessiometer.Config.Validate
import Sessiometer.Keychain.Stash
import Sessiometer.Keyed.Upsert
import Sessiometer.Swap.Canary

/-! # The import of a migration artifact

The accounts of an artifact are merged into the roster of the target one by one. An account that is
there already is skipped, unless the policy is to overwrite; the credential that comes with an account
is staged into the stash of the account and read back before the roster names it. -/

namespace Sessiometer.Migration

open Effects Keychain Keyed

/-! ## The artifact -/

/-- An account's secret material, with the bytes of the identity as they travel. -/
structure ManagedAccount where
  accountUuid : String
  credential : List UInt8
  oauthAccount : List UInt8
deriving DecidableEq

structure Payload where
  configToml : String
  accounts : List ManagedAccount

/-- The TOML decoder, a dependency, on the tables of the configuration. -/
class TomlDecode where
  rawConfig : String → Except String RawConfig

inductive ConfigLoadError where
  | configParse (detail : String)
  | configInvalid (e : ConfigError)

/-- `Config::from_toml_str`. -/
def fromTomlStr [TomlDecode] [StrDebug] (text : String) : Except ConfigLoadError Config :=
  match TomlDecode.rawConfig text with
  | .error detail => .error (.configParse detail)
  | .ok raw =>
    match Config.validate raw with
    | .error e => .error (.configInvalid e)
    | .ok config => .ok config

inductive ImportError where
  | migrationImportConfigRejected (detail : String)
  | configInvalid (e : ConfigError)
  | seam (e : Error)

def nameTheImportVersionFloor : ConfigLoadError → ImportError
  | .configParse detail => .migrationImportConfigRejected detail
  | .configInvalid e => .configInvalid e

/-! ## What is reported -/

inductive ImportOutcome where
  | imported
  | skipped
  | overwritten
  | failed
deriving DecidableEq

structure AccountImport where
  label : String
  outcome : ImportOutcome
  stagedNotAdopted : Bool := false
  duplicateLabel : Bool := false
deriving DecidableEq

/-- How many accounts carry a label. -/
def labelBearers (roster : List Account) (label : String) : ℕ := (roster.map (·.label)).count label

def resolveImportOverwrite (cliOverwrite : Bool) (localConfig : Option Config) : Bool :=
  cliOverwrite ||
    ((localConfig.map (·.migration.conflictPolicy)).getD .skip == ConflictPolicy.overwrite)

/-- The counts of the imported, skipped, overwritten and failed rows. -/
def countImportOutcomes (outcomes : List AccountImport) : ℕ × ℕ × ℕ × ℕ :=
  let count := fun want => min (outcomes.filter (·.outcome = want)).length u32Max
  (count .imported, count .skipped, count .overwritten, count .failed)

/-! ## The merge -/

/-- `sha256_hex`, of a dependency. -/
class Sha256Hex where
  hex : List UInt8 → String

inductive VerifyError where
  | seam (e : Error)
  | migrationImportVerifyFailed

section Merge

variable [SerdeJson] [SerdeToVec] [Sha256Hex]

/-- The two halves of what was read back have the digests of what was written. -/
def verified (account readback : StashedAccount) : Bool :=
  Sha256Hex.hex account.credential.blob == Sha256Hex.hex readback.credential.blob &&
    Sha256Hex.hex (SerdeToVec.toVec account.oauthAccount.raw) ==
      Sha256Hex.hex (SerdeToVec.toVec readback.oauthAccount.raw)

def writeAndVerify (service : String) (managed : ManagedAccount) : Seam (Except VerifyError Unit) :=
  match fromObjectBytes managed.oauthAccount with
  | .error e => pure (.error (.seam e))
  | .ok oauthAccount => do
    let account : StashedAccount := ⟨⟨managed.credential⟩, oauthAccount⟩
    match ← (AccountStash.write service account).run with
    | .error e => pure (.error (.seam e))
    | .ok () =>
      match ← (AccountStash.read service).run with
      | .error e => pure (.error (.seam e))
      | .ok readback =>
        if verified account readback then pure (.ok ())
        else pure (.error .migrationImportVerifyFailed)

/-- The secrets by uuid: of two under one uuid the later is kept. -/
def secretOf (accounts : List ManagedAccount) (accountUuid : String) : Option ManagedAccount :=
  accounts.reverse.find? (fun managed => managed.accountUuid == accountUuid)

variable (accounts : List ManagedAccount) (activeUuid : Option String) (overwrite : Bool)

/-- One turn of the merge: the roster it leaves, and the row of the account. -/
def importAccount (roster : List Account) (incoming : Account) : Seam (List Account × AccountImport) :=
  let existing := rosterPosition roster incoming.accountUuid
  if existing.isSome && !overwrite then pure (roster, ⟨incoming.label, .skipped, false, false⟩)
  else do
    let secret := secretOf accounts incoming.accountUuid
    let staged ← match secret with
      | none => pure (.ok ())
      | some managed => writeAndVerify incoming.stash managed
    match staged with
    | .error _ => pure (roster, ⟨incoming.label, .failed, false, false⟩)
    | .ok () =>
      let stagedNotAdopted := secret.isSome && activeUuid == some incoming.accountUuid
      match existing with
      | some idx =>
        pure (roster.set idx incoming, ⟨incoming.label, .overwritten, stagedNotAdopted, false⟩)
      | none => pure (roster ++ [incoming], ⟨incoming.label, .imported, stagedNotAdopted, false⟩)

def importAccounts (roster : List Account) : List Account → Seam (List Account × List AccountImport)
  | [] => pure (roster, [])
  | incoming :: rest => do
    let (roster, row) ← importAccount accounts activeUuid overwrite roster incoming
    let (roster, rows) ← importAccounts roster rest
    pure (roster, row :: rows)

/-- Whether the row was written to the roster. -/
def AccountImport.wrote (row : AccountImport) : Bool :=
  row.outcome = .imported || row.outcome = .overwritten

/-- A row under whose label there are now several accounts, and more than there were. -/
def flagDuplicate (before after : List Account) (row : AccountImport) : AccountImport :=
  if (1 < labelBearers after row.label ∧ labelBearers before row.label < labelBearers after row.label) ∧
      row.wrote = true then { row with duplicateLabel := true }
  else row

/-- What the merge starts from: the configuration of the target, or the incoming one without its
accounts. -/
def importBase (localConfig : Option Config) (incoming : Config) : Config :=
  localConfig.getD { incoming with roster := [] }

def finishImport (base : Config) (merged : List Account × List AccountImport) :
    Config × List AccountImport :=
  ({ base with roster := merged.1 }, merged.2.map (flagDuplicate base.roster merged.1))

/-- `apply_import`: the swap lock is taken only where the artifact carries secrets. -/
def applyImport [TomlDecode] [StrDebug] (payload : Payload) (localConfig : Option Config)
    (activeUuid : Option String) (overwrite : Bool) :
    Seam (Except ImportError (Config × List AccountImport)) :=
  match fromTomlStr payload.configToml with
  | .error e => pure (.error (nameTheImportVersionFloor e))
  | .ok incoming => do
    let base := importBase localConfig incoming
    let merge := importAccounts payload.accounts activeUuid overwrite base.roster incoming.roster
    if payload.accounts.isEmpty then return .ok (finishImport base (← merge))
    else
      match ← (withSwapLock (ExceptT.lift merge)).run with
      | .error e => pure (.error (.seam e))
      | .ok merged => pure (.ok (finishImport base merged))

/-- Read-only; an artifact without secrets reads no stash. -/
def gatherAccounts : List Account → Attempt (List ManagedAccount)
  | [] => pure []
  | account :: rest => do
    let stashed ← AccountStash.read account.stash
    let gathered ← gatherAccounts rest
    pure (⟨account.accountUuid, stashed.credential.blob, SerdeToVec.toVec stashed.oauthAccount.raw⟩ ::
      gathered)

/-- `gather_payload`, with the rendered configuration given. -/
def gatherPayload (config : Config) (rendered : String) (noSecrets : Bool) : Attempt Payload := do
  if noSecrets then pure ⟨rendered, []⟩
  else
    let accounts ← gatherAccounts config.roster
    pure ⟨rendered, accounts⟩

end Merge

/-- `resolve_active_uuid_for_import`: by the display alone where the canonical item is not to be had. -/
def resolveActiveUuidForImport (roster : List Account) : Seam (Option String) := do
  let index ← match ← CredentialStore.read.run with
    | .ok canonical => Active.resolveAccountFor roster canonical
    | .error _ => Active.resolveViaDisplay roster
  pure (index.bind fun i => roster[i]?.map (·.accountUuid))

/-- `import`, between the load of the target's configuration and the save of the merged one. -/
def importInto [SerdeJson] [SerdeToVec] [Sha256Hex] [TomlDecode] [StrDebug] (payload : Payload)
    (localConfig : Option Config) (cliOverwrite : Bool) :
    Seam (Except ImportError (Config × List AccountImport)) := do
  let activeUuid ← match localConfig with
    | some config => resolveActiveUuidForImport config.roster
    | none => pure none
  applyImport payload localConfig activeUuid (resolveImportOverwrite cliOverwrite localConfig)

end Sessiometer.Migration
