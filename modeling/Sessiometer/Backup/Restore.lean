import Sessiometer.Backup.Ring
import Sessiometer.Config.Reload
import Sessiometer.Effects.Parts

/-! # Listing the ring, and restoring from it

A retention is put back by saving what it loads as, so that what it replaces is retained in turn. -/

namespace Sessiometer.Backup

open Effects

/-! ## The text of a configuration -/

/-- What the TOML reader makes of a text, and how the renderer spells its lines. -/
class TomlText where
  lines : String → Option (List Toml.Line)
  spell : List Toml.Line → String

section Text

variable [StrDebug] [TomlText]

/-- `Config::from_toml_str`. -/
def Config.fromTomlStr (text : String) : Except ConfigFileError Config :=
  match TomlText.lines text with
  | none => .error .configParse
  | some lines => Config.parse lines

def rendered (config : Config) : String := TomlText.spell config.render

instance fromToml : FromTomlStr :=
  ⟨fun text => (Config.fromTomlStr text).toOption.map Config.roster⟩

end Text

/-! ## Listing -/

structure ListedBackup where
  name : List Char
  takenAt : Stamp
  accounts : Option ℕ

inductive RestoreError where
  | backupNotRetained (index retained : ℕ)
  | io
  | config (e : ConfigFileError)
  | save (e : SaveError)

abbrev Restoring := ExceptT RestoreError (Prog SaveSeams)

section Verbs

variable [StrDebug] [TomlText]

/-- The accounts of a file that loads. -/
def accountsAt (path : Path) : Prog SaveSeams (Option ℕ) := do
  let text ← readToString path
  pure (text.bind fun text => (Config.fromTomlStr text).toOption.map fun config => config.roster.length)

def described : List (List Char × Stamp) → Prog SaveSeams (List ListedBackup)
  | [] => pure []
  | (name, stamp) :: found => do
    let accounts ← accountsAt (entry name)
    let rest ← described found
    pure (⟨name, stamp, accounts⟩ :: rest)

def list : Prog SaveSeams (List ListedBackup) := do
  let found ← scan
  described (newestFirst found)

/-- The entry under an index that counts from one. -/
def nth (retained : List ListedBackup) (index : ℕ) : Option ListedBackup :=
  if index = 0 then none else retained[index - 1]?

/-- A text is saved as it loads; what the verb prints before needs what it replaces. -/
def restoreText (text : String) : Restoring Unit :=
  match Config.fromTomlStr text with
  | .error e => throw (.config e)
  | .ok restored => do
    let _ ← ExceptT.lift (accountsAt configFile)
    ExceptT.adapt RestoreError.save (saveTo (rendered restored))

def restoreEntry (chosen : ListedBackup) : Restoring Unit := do
  match ← ExceptT.lift (readToString (entry chosen.name)) with
  | none => throw .io
  | some text => restoreText text

def configRestoreAt (index : ℕ) : Restoring Unit := do
  let retained ← ExceptT.lift list
  match nth retained index with
  | none => throw (.backupNotRetained index retained.length)
  | some chosen => restoreEntry chosen

end Verbs

end Sessiometer.Backup
