import Sessiometer.Backup.Names
import Sessiometer.Effects.Runs
import Sessiometer.Effects.Rules
import Sessiometer.Model.Credential

/-! # The ring of retained configurations

Saving a configuration retains the file it replaces, if that one loads and has accounts; what is retained
is kept once the replacement has landed, and the oldest are dropped then. -/

namespace Sessiometer.Backup

open Effects

/-! ## Files -/

inductive File where
  | text (contents : String)
  | unreadable
deriving DecidableEq

def File.text? : File → Option String
  | .text contents => some contents
  | .unreadable => none

inductive Dir where
  | config
  | ring
deriving DecidableEq

structure Path where
  dir : Dir
  name : List Char
deriving DecidableEq

/-- The staging name of `write_private_file`. -/
def Path.tmp (path : Path) : Path := ⟨path.dir, path.name ++ tmpSuffix⟩

def configFile : Path := ⟨.config, namePrefix ++ ['t', 'o', 'm', 'l']⟩

def entry (name : List Char) : Path := ⟨.ring, name⟩

inductive SaveError where
  | io
  | foreignOwnership
  | configWriteLockBusy
  | unrepresentable (secs : ℕ)
  | widerBackup
deriving DecidableEq

inductive SaveOp where
  | ensurePrivateDir (dir : Dir)
  | acquireWriteLock
  | readToString (path : Path)
  | readDir
  | now
  | removeFile (path : Path)
  | stage (path : Path) (contents : String)
  | rename (source target : Path)
  | ownerOnlyDeviation (path : Path)

def SaveOp.Reply : SaveOp → Type
  | .ensurePrivateDir _ => Except SaveError Unit
  | .acquireWriteLock => Bool
  | .readToString _ => Option String
  | .readDir => List (List Char)
  | .now => Stamp
  | .removeFile _ => Bool
  | .stage _ _ => Bool
  | .rename _ _ => Bool
  | .ownerOnlyDeviation _ => Except Unit Bool

/-- To stage is to create the file anew, to write it and to sync it. -/
abbrev SaveSeams : Interface := ⟨SaveOp, SaveOp.Reply⟩

abbrev Saving := ExceptT SaveError (Prog SaveSeams)

section Calls

variable (path : Path)

def acquireWriteLock : Prog SaveSeams Bool := Prog.call (S := SaveSeams) .acquireWriteLock

def readToString : Prog SaveSeams (Option String) := Prog.call (S := SaveSeams) (.readToString path)

def readDir : Prog SaveSeams (List (List Char)) := Prog.call (S := SaveSeams) .readDir

def now : Prog SaveSeams Stamp := Prog.call (S := SaveSeams) .now

def removeFile : Prog SaveSeams Bool := Prog.call (S := SaveSeams) (.removeFile path)

def stage (contents : String) : Prog SaveSeams Bool := Prog.call (S := SaveSeams) (.stage path contents)

def rename (target : Path) : Prog SaveSeams Bool := Prog.call (S := SaveSeams) (.rename path target)

def ensurePrivateDir (dir : Dir) : Saving Unit := Prog.call (S := SaveSeams) (.ensurePrivateDir dir)

def ownerOnlyDeviation : Prog SaveSeams (Except Unit Bool) :=
  Prog.call (S := SaveSeams) (.ownerOnlyDeviation path)

end Calls

/-! ## Saving -/

/-- The accounts of a text that parses and validates. -/
class FromTomlStr where
  fromTomlStr : String → Option (List Account)

def qualifies [FromTomlStr] (contents : String) : Bool :=
  match FromTomlStr.fromTomlStr contents with
  | some roster => !roster.isEmpty
  | none => false

def writePrivateFile (path : Path) (contents : String) : Saving Unit := do
  let _ ← ExceptT.lift (removeFile path.tmp)
  if ← ExceptT.lift (stage path.tmp contents) then
    if ← ExceptT.lift (rename path.tmp path) then pure () else throw .io
  else throw .io

def qualifyingContents [FromTomlStr] (path : Path) : Prog SaveSeams (Option String) := do
  let contents ← readToString path
  pure (contents.filter qualifies)

/-- The retained files with their instants. -/
def decoded (names : List (List Char)) : List (List Char × Stamp) :=
  names.filterMap (fun name => (stampOf name).map (fun stamp => (name, stamp)))

def scan : Prog SaveSeams (List (List Char × Stamp)) := do
  let names ← readDir
  pure (decoded names)

/-- The instant now, or the one after the newest. -/
def clamped (stamp : Stamp) (found : List (List Char × Stamp)) : Stamp :=
  match (found.map Prod.snd).max? with
  | some newest => if stamp ≤ newest then nextAfter newest else stamp
  | none => stamp

def stampFor : Prog SaveSeams Stamp := do
  let stamp ← now
  let found ← scan
  pure (clamped stamp found)

def representable (stamp : Stamp) : Saving Stamp :=
  if 10 ^ secsDigits ≤ stamp.secs then throw (.unrepresentable stamp.secs) else pure stamp

/-- A retention that is wider than its owner is taken back. -/
def retain (contents : String) : Saving (List Char) := do
  ensurePrivateDir .ring
  let stamp ← ExceptT.lift stampFor
  let stamp ← representable stamp
  let target := fileName stamp
  writePrivateFile (entry target) contents
  match ← ExceptT.lift (ownerOnlyDeviation (entry target)) with
  | .error () => throw .io
  | .ok true => do
    let _ ← ExceptT.lift (removeFile (entry target))
    throw .widerBackup
  | .ok false => pure target

def retainIfQualifying [FromTomlStr] : Saving (Option (List Char)) := do
  match ← ExceptT.lift (qualifyingContents configFile) with
  | none => pure none
  | some contents => some <$> retain contents

def removeAll : List (List Char) → Prog SaveSeams Unit
  | [] => pure ()
  | name :: names => do
    let _ ← removeFile (entry name)
    removeAll names

/-- The staging name of a retention that is older than the newest. -/
def stranded (newest : Stamp) (name : List Char) : Bool :=
  match name.dropSuffix? tmpSuffix with
  | some stem => (stampOf stem).any (fun stamp => decide (stamp < newest))
  | none => false

def sweepAbandonedTemps (newest : Stamp) : Prog SaveSeams Unit := do
  let names ← readDir
  removeAll (names.filter (stranded newest))

/-- The newest first. -/
def newestFirst (found : List (List Char × Stamp)) : List (List Char × Stamp) :=
  found.mergeSort (fun a b => decide (b.2 ≤ a.2))

def sweepBelow : Option (List Char × Stamp) → Prog SaveSeams Unit
  | some newest => sweepAbandonedTemps newest.2
  | none => pure ()

def prune : Prog SaveSeams Unit := do
  let found ← scan
  removeAll (((newestFirst found).drop ringDepth).map Prod.fst)
  sweepBelow (newestFirst found).head?

def commit : Option (List Char) → Prog SaveSeams Unit
  | some _ => prune
  | none => pure ()

def rollBack : Option (List Char) → Prog SaveSeams Unit
  | some target => do
    let _ ← removeFile (entry target)
    pure ()
  | none => pure ()

/-- What becomes of the retention once the replacement has been attempted. -/
def resolve (retention : Option (List Char)) (written : Except SaveError Unit) : Saving Unit :=
  match written with
  | .ok () => ExceptT.lift (commit retention)
  | .error e => do
    ExceptT.lift (rollBack retention)
    throw e

/-- `save_to_within`. -/
def saveTo [FromTomlStr] (rendered : String) : Saving Unit := do
  ensurePrivateDir .config
  if ← ExceptT.lift acquireWriteLock then
    let retention ← retainIfQualifying
    let written ← ExceptT.lift (writePrivateFile configFile rendered).run
    resolve retention written
  else throw .configWriteLockBusy

/-! ## The file system -/

/-- The files, what the wall clock has last told, and the retentions of the saves so far that are still
there, in the order they were taken. -/
structure Store where
  files : Path → Option File
  clock : Stamp
  taken : List (List Char) := []

namespace Store

def put (s : Store) (path : Path) (file : File) : Store :=
  { s with files := Function.update s.files path (some file) }

def remove (s : Store) (path : Path) : Store :=
  { s with
    files := Function.update s.files path none
    taken := if path.dir = .ring then s.taken.filter (fun name => decide (name ≠ path.name)) else s.taken }

def move (s : Store) (source target : Path) (file : File) : Store :=
  { s with
    files := Function.update (Function.update s.files source none) target (some file)
    taken := if target.dir = .ring then s.taken ++ [target.name] else s.taken }

/-- There is a retention under the name. -/
def Holds (s : Store) (name : List Char) (stamp : Stamp) : Prop :=
  stampOf name = some stamp ∧ s.files (entry name) ≠ none

def Qualified [FromTomlStr] (s : Store) : Prop :=
  ∃ contents, s.files configFile = some (.text contents) ∧ qualifies contents = true

end Store

/-- A file system that lists and reads what there is. It may fail at any write, rename or unlink, a write
that fails may leave any file, and the wall clock tells any instant. -/
def disk : Device SaveSeams Store
  | .ensurePrivateDir _, s, _, s' => s' = s
  | .acquireWriteLock, s, _, s' => s' = s
  | .readToString path, s, (r : Option String), s' => s' = s ∧ r = (s.files path).bind File.text?
  | .readDir, s, (names : List (List Char)), s' => s' = s ∧ names.Nodup ∧
    ∀ name, name ∈ names ↔ s.files (entry name) ≠ none
  | .now, s, (stamp : Stamp), s' => s' = { s with clock := stamp } ∧ stamp.nanos < 10 ^ nanosDigits
  | .removeFile path, s, (r : Bool), s' => if r then s.files path ≠ none ∧ s' = s.remove path else s' = s
  | .stage path contents, s, (r : Bool), s' =>
    if r then s.files path = none ∧ s' = s.put path (.text contents)
    else s' = s ∨ s.files path = none ∧ ∃ file, s' = s.put path file
  | .rename source target, s, (r : Bool), s' =>
    if r then ∃ file, s.files source = some file ∧ s' = s.move source target file else s' = s
  | .ownerOnlyDeviation _, s, _, s' => s' = s

/-- The same, where a file that is there can be unlinked. -/
def unlinking : Device SaveSeams Store
  | .removeFile path, s, (r : Bool), s' =>
    if r then s.files path ≠ none ∧ s' = s.remove path else s.files path = none ∧ s' = s
  | o, s, r, s' => disk o s r s'

end Sessiometer.Backup
