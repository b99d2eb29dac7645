import Mathlib.Data.List.DropRight
import Sessiometer.Config.Render
import Sessiometer.Daemon.Commands
import Sessiometer.Swap.Engine

/-! # The verbs that change the roster

Each verb loads the configuration, changes its roster, and saves it. An account's stash is written ahead
of the roster that names it, and deleted behind the roster that does not. -/

namespace Sessiometer.Roster

open Effects

/-! ## The seams -/

inductive LoadError where
  | configNotFound
  | io
  | file (e : ConfigFileError)

inductive PriorConfiguration where
  | present
  | absent
deriving DecidableEq

/-- The configuration file, the witness of an earlier configuration, the deletion of the two items of a
stash, and a login in isolation. -/
inductive FileOp where
  | load
  | save (config : Config)
  | observe
  | deleteCredential (service : String)
  | deleteOauthAccount (service : String)
  | loginAccount

def FileOp.Reply : FileOp → Type
  | .load => Except LoadError Config
  | .save _ => Except LoadError Unit
  | .observe => PriorConfiguration
  | .deleteCredential _ => Except Error Unit
  | .deleteOauthAccount _ => Except Error Unit
  | .loginAccount => Except Error (Option StashedAccount)

abbrev Files : Interface := ⟨FileOp, FileOp.Reply⟩

abbrev VerbSeams : Interface := Seams.sum Files

inductive VerbError where
  | seam (e : Error)
  | config (e : LoadError)
  | priorConfigurationWithoutConfig
  | oauthAccountFieldMalformed (field rule : String)
  | rotationLabelRequired (verb : String)

abbrev Verb := ExceptT VerbError (Prog VerbSeams)

def perform {ε α : Type} (wrap : ε → VerbError) (p : Prog VerbSeams (Except ε α)) : Verb α :=
  ExceptT.adapt wrap (ExceptT.mk p)

/-- A part that keeps to the stores. -/
def onSeams {α : Type} (p : ExceptT VerbError Seam α) : Verb α := ExceptT.mk (p.run.left Files)

def seam {α : Type} (p : Attempt α) : ExceptT VerbError Seam α := ExceptT.adapt .seam p

def load : Verb Config := perform .config (Prog.call (S := VerbSeams) (.inr .load))

def save (config : Config) : Verb Unit :=
  perform .config (Prog.call (S := VerbSeams) (.inr (.save config)))

def observe : Verb PriorConfiguration :=
  ExceptT.lift (Prog.call (S := VerbSeams) (.inr .observe))

/-- `AccountStash::delete`: an item that is not there counts as deleted. -/
def deleteStash (service : String) : Verb Unit := do
  perform .seam (Prog.call (S := VerbSeams) (.inr (.deleteCredential service)))
  perform .seam (Prog.call (S := VerbSeams) (.inr (.deleteOauthAccount service)))

def loginAccount : Verb (Option StashedAccount) :=
  perform .seam (Prog.call (S := VerbSeams) (.inr .loginAccount))

/-! ## The configuration of a first run -/

/-- The settings of every section, none of them in a file. -/
def firstRun : Config where
  roster := []
  tunables := { Tunables.default' with pollSecs := 300, fleetRunwayWarnSecs := 0, verbose := false }
  refresh := {
    enabled := true
    accounts := []
    cadenceSecs := 3600
    idleAfterSecs := 60
    timeoutSecs := 90
    claudeBin := none
    systemicFailureN := 3
    proactiveKeepWarm := false }
  login := { timeoutSecs := 180, claudeBin := none }
  stats := {
    rawRetentionSecs := 1209600
    hourlyRetentionSecs := 7776000
    dailyRetentionSecs := 0
    defaultPeriod := "week" }
  migration := { kdfMemoryKib := 65536, kdfIterations := 3, conflictPolicy := .skip }
  credential := {
    expiryHorizonSecs := 604800
    expiryCohortWindowSecs := 86400
    plaintextFallback := .touch }

def loadExisting : Verb (Option Config) := ExceptT.mk do
  match ← load.run with
  | .ok config => pure (.ok (some config))
  | .error (.config .configNotFound) => pure (.ok none)
  | .error e => pure (.error e)

def admitWitnessed (configPresent : Bool) (witness : PriorConfiguration) : Except VerbError Unit :=
  match configPresent, witness with
  | false, .present => .error .priorConfigurationWithoutConfig
  | false, .absent => .ok ()
  | true, _ => .ok ()

def admitAppendOnly (configPresent : Bool) : Verb Unit := do
  if configPresent then pure ()
  else ExceptT.mk (pure (admitWitnessed false (← observe)))

/-! ## The roster -/

/-- `str::trim`. -/
def strTrim (text : String) : String :=
  String.ofList ((text.toList.dropWhile isWhitespace).rdropWhile isWhitespace)

inductive CaptureOutcome where
  | captured
  | refreshed
deriving DecidableEq

/-- A label that is given, but for its white space. -/
def provided (label : Option String) : Option String := (label.map strTrim).filter (· ≠ "")

/-- `plan_capture`: the roster, the stash to write, and whether the account is new. -/
def planCapture [StrDebug] (roster : List Account) (accountUuid : String) (label : Option String) :
    Except VerbError (List Account × String × CaptureOutcome) :=
  match accountUuidViolation accountUuid with
  | some rule => .error (.oauthAccountFieldMalformed "accountUuid" rule)
  | none =>
    match rosterPosition roster accountUuid with
    | some i =>
      .ok (roster.modify i (fun a => { a with label := (provided label).getD a.label }),
        stashPrefix ++ accountUuid, .refreshed)
    | none =>
      .ok (roster ++ [⟨accountUuid, (provided label).getD accountUuid, true⟩],
        stashPrefix ++ accountUuid, .captured)

structure CaptureReport where
  config : Config
  outcome : CaptureOutcome
  label : String
  count : ℕ

/-- The label of the account that was planned for; it is in the roster. -/
def plannedLabel (roster : List Account) (stash : String) : String :=
  ((roster.find? fun a => a.stash == stash).map (·.label)).getD ""

def report (existing : Config) (roster : List Account) (stash : String) (outcome : CaptureOutcome) :
    CaptureReport :=
  ⟨{ existing with roster }, outcome, plannedLabel roster stash, roster.length⟩

def runCapture [StrDebug] (credential : Credential) (oauth : OauthAccount) (existing : Option Config)
    (label : Option String) : ExceptT VerbError Seam CaptureReport := do
  let config := existing.getD firstRun
  let (roster, stash, outcome) ← ExceptT.mk (pure (planCapture config.roster oauth.accountUuid label))
  seam (AccountStash.write stash ⟨credential, oauth⟩)
  pure (report config roster stash outcome)

/-- The lock is let go of whatever comes of the body. -/
def underSwapLock {α : Type} (body : ExceptT VerbError Seam α) : ExceptT VerbError Seam α := do
  seam SwapLock.acquire
  let r ← ExceptT.lift body.run
  ExceptT.lift SwapLock.release
  ExceptT.mk (pure r)

def captureLocked [StrDebug] (existing : Option Config) (label : Option String) :
    ExceptT VerbError Seam CaptureReport :=
  underSwapLock do
    let oauth ← seam ClaudeState.readOauthAccount
    let credential ← seam CredentialStore.read
    runCapture credential oauth existing label

/-- `capture`, with the label as it was given or confirmed. -/
def capture [StrDebug] (label : Option String) : Verb CaptureReport := do
  let existing ← loadExisting
  admitAppendOnly existing.isSome
  let report ← onSeams (captureLocked existing label)
  save report.config
  pure report

/-! ## Logging in -/

def shouldActivate (activeUuid : Option String) (capturedUuid : String) : Bool :=
  match activeUuid with
  | some active => active == capturedUuid
  | none => true

def runLogin [StrDebug] (captured : StashedAccount) (activate : Bool) (existing : Option Config)
    (label : Option String) : ExceptT VerbError Seam CaptureReport := do
  let config := existing.getD firstRun
  let (roster, stash, outcome) ←
    ExceptT.mk (pure (planCapture config.roster captured.oauthAccount.accountUuid label))
  seam (AccountStash.write stash captured)
  if activate then
    seam (CredentialStore.write captured.credential)
    -- The display is written as far as it goes.
    let _ ← ExceptT.lift (ClaudeState.writeOauthAccount captured.oauthAccount).run
    pure (report config roster stash outcome)
  else pure (report config roster stash outcome)

def runLoginLocked [StrDebug] (captured : StashedAccount) (activate : Bool) (existing : Option Config)
    (label : Option String) : ExceptT VerbError Seam CaptureReport :=
  underSwapLock (runLogin captured activate existing label)

/-- Whether to activate is decided ahead of the lock. -/
def reconcileLogin [StrDebug] (captured : StashedAccount) (label : Option String)
    (existing : Option Config) : Verb CaptureReport := do
  let report ← onSeams do
    let active ← ExceptT.lift ClaudeState.readOauthAccount.run
    let activate :=
      shouldActivate (active.toOption.map (·.accountUuid)) captured.oauthAccount.accountUuid
    runLoginLocked captured activate existing label
  save report.config
  pure report

/-- `login`: a login that was cancelled captures nothing. -/
def login [StrDebug] (label : Option String) : Verb (Option CaptureReport) := do
  let existing ← loadExisting
  admitAppendOnly existing.isSome
  match ← loginAccount with
  | none => pure none
  | some captured => some <$> reconcileLogin captured label existing

/-! ## Enabling, disabling and removing -/

/-- `apply_enabled`: the roster, where the flag is not so already. -/
def applyEnabled (roster : List Account) (query : String) (enabled : Bool) :
    Except VerbError (Option (List Account)) :=
  match resolveTarget roster query with
  | .error e => .error (.seam e)
  | .ok i =>
    if roster[i]?.any (fun a => a.enabled == enabled) then .ok none
    else .ok (some (roster.modify i fun a => { a with enabled }))

def setEnabled (query : Option String) (enabled : Bool) : Verb Unit :=
  match query with
  | none => throw (.rotationLabelRequired (if enabled then "enable" else "disable"))
  | some query => do
    let config ← load
    match ← ExceptT.mk (pure (applyEnabled config.roster query enabled)) with
    | none => pure ()
    | some roster => save { config with roster }

/-- `apply_remove`: the roster without the account, and the account. -/
def applyRemove (roster : List Account) (query : String) : Except VerbError (List Account × Account) :=
  match resolveTarget roster query with
  | .error e => .error (.seam e)
  | .ok i =>
    match roster[i]? with
    | none => .error (.seam (.useTargetNotFound query))
    | some removed => .ok (roster.eraseIdx i, removed)

def removeAccount (query : Option String) : Verb Unit :=
  match query with
  | none => throw (.rotationLabelRequired "remove")
  | some query => do
    let config ← load
    let (roster, removed) ← ExceptT.mk (pure (applyRemove config.roster query))
    save { config with roster }
    deleteStash removed.stash

/-! ## A command line -/

inductive RosterVerb where
  | capture (label : Option String)
  | login (label : Option String)
  | setEnabled (query : Option String) (enabled : Bool)
  | remove (query : Option String)

def RosterVerb.program [StrDebug] : RosterVerb → Prog VerbSeams (Except VerbError Unit)
  | .capture label => (do let _ ← Roster.capture label).run
  | .login label => (do let _ ← Roster.login label).run
  | .setEnabled query enabled => (Roster.setEnabled query enabled).run
  | .remove query => (removeAccount query).run

end Sessiometer.Roster
