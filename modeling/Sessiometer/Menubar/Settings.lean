import Sessiometer.Framing.Decimal
import Sessiometer.Menubar.ConfigWire

/-! # The settings form

The model behind the settings window: drafts beside a baseline, a load of the configuration, and one
batched edit of what differs. Each suspends while its reply is in flight. -/

namespace Sessiometer.Menubar

/-! ## The tunables -/

inductive TunableField where
  | pollSecs
  | exhaustedPollSecs
  | nearLimitPollSecs
  | cooldownSecs
  | targetMaxSessionUsage
  | sessionCeiling
  | weeklyCeiling
  | sessionBlindSwapSecs
  | sessionBlindRiskBand
  | sessionVelocityHorizonSecs
  | sessionVelocityMinProjectAbove
  | sessionVelocityEmaAlphaPct
  | monitor401N
  | monitorRecoveryM
  | fleetRunwayWarnSecs
deriving DecidableEq

namespace TunableField

def allCases : List TunableField :=
  [.pollSecs, .exhaustedPollSecs, .nearLimitPollSecs, .cooldownSecs, .targetMaxSessionUsage,
    .sessionCeiling, .weeklyCeiling, .sessionBlindSwapSecs, .sessionBlindRiskBand,
    .sessionVelocityHorizonSecs, .sessionVelocityMinProjectAbove, .sessionVelocityEmaAlphaPct,
    .monitor401N, .monitorRecoveryM, .fleetRunwayWarnSecs]

/-- `value(in:)`. -/
def value : TunableField → TunablesView → UInt64
  | pollSecs, tunables => tunables.pollSecs
  | exhaustedPollSecs, tunables => tunables.exhaustedPollSecs
  | nearLimitPollSecs, tunables => tunables.nearLimitPollSecs
  | cooldownSecs, tunables => tunables.cooldownSecs
  | targetMaxSessionUsage, tunables => tunables.targetMaxSessionUsage.toUInt64
  | sessionCeiling, tunables => tunables.sessionCeiling.toUInt64
  | weeklyCeiling, tunables => tunables.weeklyCeiling.toUInt64
  | sessionBlindSwapSecs, tunables => tunables.sessionBlindSwapSecs
  | sessionBlindRiskBand, tunables => tunables.sessionBlindRiskBand.toUInt64
  | sessionVelocityHorizonSecs, tunables => tunables.sessionVelocityHorizonSecs
  | sessionVelocityMinProjectAbove, tunables => tunables.sessionVelocityMinProjectAbove.toUInt64
  | sessionVelocityEmaAlphaPct, tunables => tunables.sessionVelocityEmaAlphaPct.toUInt64
  | monitor401N, tunables => tunables.monitor401N.toUInt64
  | monitorRecoveryM, tunables => tunables.monitorRecoveryM.toUInt64
  | fleetRunwayWarnSecs, tunables => tunables.fleetRunwayWarnSecs

def set : TunableField → Int64 → SetTunables → SetTunables
  | pollSecs, value, tunables => { tunables with pollSecs := some value }
  | exhaustedPollSecs, value, tunables => { tunables with exhaustedPollSecs := some value }
  | nearLimitPollSecs, value, tunables => { tunables with nearLimitPollSecs := some value }
  | cooldownSecs, value, tunables => { tunables with cooldownSecs := some value }
  | targetMaxSessionUsage, value, tunables => { tunables with targetMaxSessionUsage := some value }
  | sessionCeiling, value, tunables => { tunables with sessionCeiling := some value }
  | weeklyCeiling, value, tunables => { tunables with weeklyCeiling := some value }
  | sessionBlindSwapSecs, value, tunables => { tunables with sessionBlindSwapSecs := some value }
  | sessionBlindRiskBand, value, tunables => { tunables with sessionBlindRiskBand := some value }
  | sessionVelocityHorizonSecs, value, tunables =>
    { tunables with sessionVelocityHorizonSecs := some value }
  | sessionVelocityMinProjectAbove, value, tunables =>
    { tunables with sessionVelocityMinProjectAbove := some value }
  | sessionVelocityEmaAlphaPct, value, tunables =>
    { tunables with sessionVelocityEmaAlphaPct := some value }
  | monitor401N, value, tunables => { tunables with monitor401N := some value }
  | monitorRecoveryM, value, tunables => { tunables with monitorRecoveryM := some value }
  | fleetRunwayWarnSecs, value, tunables => { tunables with fleetRunwayWarnSecs := some value }

end TunableField

/-! ## Numbers as text -/

abbrev Text := List Char

/-- `CharacterSet.whitespaces`: the space separators, and the tab. -/
def whitespaces (c : Char) : Bool :=
  c.toNat ∈ [0x09, 0x20, 0xA0, 0x1680, 0x202F, 0x205F, 0x3000] ||
    (0x2000 ≤ c.toNat && c.toNat ≤ 0x200A)

def trimmingCharacters (cs : Text) : Text :=
  ((cs.dropWhile whitespaces).reverse.dropWhile whitespaces).reverse

/-- The digits behind a sign, and whether it is a minus. -/
def unsigned : Text → Bool × Text
  | '-' :: digits => (true, digits)
  | '+' :: digits => (false, digits)
  | digits => (false, digits)

/-- `UInt64(_:)` of a text: a minus is read before a zero alone. -/
def parseUInt64 (cs : Text) : Option UInt64 :=
  let (negative, digits) := unsigned cs
  if digits = [] ∨ digits.any (fun c => !c.isDigit) then none
  else
    let n := Nat.ofDigitChars 10 digits 0
    if (negative ∧ n ≠ 0) ∨ 18446744073709551616 ≤ n then none else some (UInt64.ofNat n)

/-- `Int64(exactly:)`. -/
def exactlyInt64 (n : UInt64) : Option Int64 :=
  if n.toNat < 9223372036854775808 then some n.toInt64 else none

/-- `String(_:)` of a number. -/
def decimal (n : UInt64) : Text := Nat.toDigits 10 n.toNat

/-! ## The form -/

/-- How an exchange over the control socket fails. -/
inductive ControlCommandError where
  | connectionRefused (reason : String)
  | timedOut
  | closedBeforeAck
  | encodeFailed (reason : String)
  | io (reason : String)
deriving DecidableEq

inductive ConfigFailure where
  | transport (error : ControlCommandError)
  | daemonError (reason : String)
  | undecodable
  | unavailable
deriving DecidableEq

inductive LoadPhase (σ : Type) where
  | idle
  | loading
  | loaded (view : ConfigView σ)
  | failed (failure : ConfigFailure)

inductive ApplyPhase where
  | idle
  | applying
  | applied (effect : ConfigSetEffect)
  | rejected (reason : ConfigSetRejection) (detail : Option String)
  | invalidInput
  | failed (failure : ConfigFailure)
deriving DecidableEq

/-- The dictionaries are taken by their lookups. -/
structure SettingsModel (σ : Type) where
  /-- Whether there is a client. -/
  client : Bool
  loadPhase : LoadPhase σ
  applyPhase : ApplyPhase
  drafts : TunableField → Option Text
  labelDrafts : σ → Option σ
  accounts : List (AccountView σ)
  fieldErrors : TunableField → Option String
  restartPending : Bool
  pristineTunables : TunableField → Option UInt64
  pristineLabels : σ → Option σ

namespace SettingsModel

variable {σ : Type} [SwiftString σ]

def init (client : Bool) : SettingsModel σ where
  client := client
  loadPhase := .idle
  applyPhase := .idle
  drafts _ := none
  labelDrafts _ := none
  accounts := []
  fieldErrors _ := none
  restartPending := false
  pristineTunables _ := none
  pristineLabels _ := none

def normalizedDraft (m : SettingsModel σ) (field : TunableField) : Text :=
  trimmingCharacters ((m.drafts field).getD [])

def isDirtyTunable (m : SettingsModel σ) (field : TunableField) : Bool :=
  match m.pristineTunables field with
  | none => false
  | some pristine =>
    match parseUInt64 (m.normalizedDraft field) with
    | some value => value != pristine
    | none => true

def dirtyTunableFields (m : SettingsModel σ) : List TunableField :=
  TunableField.allCases.filter m.isDirtyTunable

def dirtyLabels (m : SettingsModel σ) (uuid : σ) : Option σ :=
  match m.labelDrafts uuid with
  | none => none
  | some draft =>
    let trimmed := SwiftString.trimmed draft
    if m.pristineLabels uuid ≠ some trimmed then some trimmed else none

def IsDirty (m : SettingsModel σ) : Prop :=
  m.dirtyTunableFields ≠ [] ∨ ∃ uuid, m.dirtyLabels uuid ≠ none

def setDraft (m : SettingsModel σ) (value : Text) (field : TunableField) : SettingsModel σ :=
  let fieldErrors := Function.update m.fieldErrors field none
  { m with
    drafts := Function.update m.drafts field (some value)
    fieldErrors := fieldErrors
    applyPhase :=
      if TunableField.allCases.all (fun f => (fieldErrors f).isNone) ∧ m.applyPhase = .invalidInput
      then .idle else m.applyPhase }

def setLabelDraft (m : SettingsModel σ) (value : σ) (uuid : σ) : SettingsModel σ :=
  { m with labelDrafts := Function.update m.labelDrafts uuid (some value) }

/-! ### Load -/

/-- The labels of a roster, unless it names an account twice. -/
def rosterLabels (accounts : List (AccountView σ)) : Option (σ → Option σ) :=
  accounts.foldlM (fun labels account =>
    if labels account.accountUuid = none then
      some (Function.update labels account.accountUuid (some account.label))
    else none) fun _ => none

def adopt (m : SettingsModel σ) (view : ConfigView σ) : Option (SettingsModel σ) :=
  (rosterLabels view.accounts).map fun labels =>
    { m with
      pristineTunables := fun field => some (field.value view.tunables)
      drafts := fun field => some (decimal (field.value view.tunables))
      accounts := view.accounts
      pristineLabels := labels
      labelDrafts := labels }

/-- `load`, up to where it suspends; the flag says whether a query was sent. -/
def beginLoad (m : SettingsModel σ) : SettingsModel σ × Bool :=
  let m := { m with applyPhase := .idle, restartPending := false, fieldErrors := fun _ => none }
  if m.client then ({ m with loadPhase := .loading }, true)
  else ({ m with loadPhase := .failed .unavailable }, false)

/-- `load`, from its reply on; the view is the one that was adopted. -/
def finishLoad [JsonDecoder] (m : SettingsModel σ) (result : Except ControlCommandError String) :
    SettingsModel σ × Option (ConfigView σ) :=
  match result with
  | .error error => ({ m with loadPhase := .failed (.transport error) }, none)
  | .ok line =>
    match decodeConfigGetReply line with
    | .ok (.ok view) =>
      match m.adopt view with
      | some m => ({ m with loadPhase := .loaded view }, some view)
      | none => ({ m with loadPhase := .failed .undecodable }, none)
    | .ok (.error reason) => ({ m with loadPhase := .failed (.daemonError reason) }, none)
    | .error _ => ({ m with loadPhase := .failed .undecodable }, none)

/-! ### Apply -/

/-- What a dirty draft is refused with, if it is. -/
def formatError (m : SettingsModel σ) (field : TunableField) : Option String :=
  match parseUInt64 (m.normalizedDraft field) with
  | none => some "Enter a whole number (0 or greater)."
  | some unsigned =>
    match exactlyInt64 unsigned with
    | none => some "That number is too large."
    | some _ => none

def formatErrors (m : SettingsModel σ) (field : TunableField) : Option String :=
  if field ∈ m.dirtyTunableFields then m.formatError field else none

/-- The dirty drafts as the wire carries them. -/
def edited (m : SettingsModel σ) : SetTunables :=
  m.dirtyTunableFields.foldl (fun edited field =>
    ((parseUInt64 (m.normalizedDraft field)).bind exactlyInt64).elim edited
      fun signed => field.set signed edited) .empty

/-- `apply`, up to where it suspends, with the command that was sent. -/
def beginApply (m : SettingsModel σ) : SettingsModel σ × Option (ConfigSetCommand σ) :=
  if m.applyPhase = .applying then (m, none)
  else if !m.client then ({ m with applyPhase := .failed .unavailable }, none)
  else if m.dirtyTunableFields.any (fun field => (m.formatError field).isSome) then
    ({ m with fieldErrors := m.formatErrors, applyPhase := .invalidInput }, none)
  else
    ({ m with fieldErrors := fun _ => none, applyPhase := .applying },
      some { tunables := m.edited, labels := m.dirtyLabels })

def rebaselineFromDrafts (m : SettingsModel σ) : SettingsModel σ :=
  let trimmed := fun uuid => (m.labelDrafts uuid).map SwiftString.trimmed
  { m with
    pristineTunables := fun field =>
      match parseUInt64 (m.normalizedDraft field) with
      | some unsigned => some unsigned
      | none => m.pristineTunables field
    labelDrafts := trimmed
    pristineLabels := trimmed }

def settleApplied (m : SettingsModel σ) (effect : ConfigSetEffect) : SettingsModel σ :=
  let m := m.rebaselineFromDrafts
  { m with
    restartPending := m.restartPending || effect == .restartRequired
    applyPhase := .applied effect }

/-- `apply`, from its reply on; the effect is the one that was applied. -/
def finishApply [JsonDecoder] (m : SettingsModel σ) (result : Except ControlCommandError String) :
    SettingsModel σ × Option ConfigSetEffect :=
  match result with
  | .error error => ({ m with applyPhase := .failed (.transport error) }, none)
  | .ok line =>
    match decodeConfigSetReply line with
    | .ok (.ack (.applied effect)) => (m.settleApplied effect, some effect)
    | .ok (.ack (.rejected reason detail)) =>
      ({ m with applyPhase := .rejected reason detail }, none)
    | .ok (.error reason detail) =>
      ({ m with applyPhase := .failed (.daemonError (detail.getD reason)) }, none)
    | .error _ => ({ m with applyPhase := .failed .undecodable }, none)

/-- The beat after a confirmation. -/
def applyReset (m : SettingsModel σ) (effect : ConfigSetEffect) : SettingsModel σ :=
  if m.applyPhase = .applied effect then { m with applyPhase := .idle } else m

end SettingsModel

/-! ## The form with what is in flight -/

/-- The model, how many queries wait for a reply, the commands that do, and the confirmations that are
to be cleared. -/
structure SettingsForm (σ : Type) where
  model : SettingsModel σ
  loads : ℕ
  applies : List (ConfigSetCommand σ)
  resets : List ConfigSetEffect

inductive FormAct (σ : Type) where
  | setDraft (value : Text) (field : TunableField)
  | setLabelDraft (value uuid : σ)
  | load
  | loadReply (result : Except ControlCommandError String)
  | apply
  | applyReply (index : ℕ) (result : Except ControlCommandError String)
  | applyReset (index : ℕ)

/-- What the daemon was heard to say: the view that was adopted, or the command that was applied. -/
inductive Said (σ : Type) where
  | adopted (view : ConfigView σ)
  | acknowledged (command : ConfigSetCommand σ)

namespace SettingsForm

variable {σ : Type} [SwiftString σ] [JsonDecoder]

def init (client : Bool) : SettingsForm σ := ⟨.init client, 0, [], []⟩

/-- One step, with the command it sends and what it hears. -/
def step (s : SettingsForm σ) :
    FormAct σ → Option (SettingsForm σ × Option (ConfigSetCommand σ) × Option (Said σ))
  | .setDraft value field => some ({ s with model := s.model.setDraft value field }, none, none)
  | .setLabelDraft value uuid =>
    some ({ s with model := s.model.setLabelDraft value uuid }, none, none)
  | .load =>
    some ({ s with
      model := s.model.beginLoad.1
      loads := s.loads + s.model.beginLoad.2.toNat }, none, none)
  | .loadReply result =>
    if s.loads = 0 then none
    else
      let (model, view) := s.model.finishLoad result
      some ({ s with model := model, loads := s.loads - 1 }, none, view.map .adopted)
  | .apply =>
    let (model, command) := s.model.beginApply
    some ({ s with model := model, applies := s.applies ++ command.toList }, command, none)
  | .applyReply index result =>
    (s.applies[index]?).map fun command =>
      let (model, effect) := s.model.finishApply result
      ({ s with
          model := model
          applies := s.applies.eraseIdx index
          resets := s.resets ++ effect.toList },
        none, effect.map fun _ => .acknowledged command)
  | .applyReset index =>
    (s.resets[index]?).map fun effect =>
      ({ s with
          model := s.model.applyReset effect
          resets := s.resets.eraseIdx index }, none, none)

end SettingsForm

end Sessiometer.Menubar
