import Sessiometer.Effects.Rules
import Sessiometer.Framing.Utf8

/-! # Following the event log

The follower of the event log: a position that survives the log being truncated or replaced under it. -/

namespace Sessiometer.Log

open Effects Framing

/-! ## The file -/

structure FileIdentity where
  dev : ℕ
  ino : ℕ
deriving DecidableEq, Repr

structure LogFile where
  identity : FileIdentity
  content : List UInt8

/-- What the path of the log names. -/
abbrev Disk := Option LogFile

def contents (disk : Disk) : List UInt8 := disk.elim [] LogFile.content

inductive IoError where
  | notFound
  | unexpectedEof
  | other
deriving DecidableEq, Repr

inductive LogOp where
  | metadata
  | readByteAt (offset : ℕ)
  | readToEnd (offset : ℕ)

def LogOp.Reply : LogOp → Type
  | .metadata => Except IoError (FileIdentity × ℕ)
  | .readByteAt _ => Except IoError UInt8
  | .readToEnd _ => Except IoError (List UInt8)

/-- Both reads open the path, seek and read. -/
abbrev LogSeams : Interface := ⟨LogOp, LogOp.Reply⟩

/-! ## The follower -/

inductive Transition where
  | absent
  | attached
  | appended
  | idle
  | truncated
  | rewritten
  | replaced
deriving DecidableEq, Repr

structure Polled where
  text : String
  transition : Transition
deriving DecidableEq, Repr

structure Attachment where
  identity : FileIdentity
  offset : ℕ
deriving DecidableEq, Repr

structure Follower where
  attached : Option Attachment
deriving DecidableEq, Repr

def Follower.new : Follower := ⟨none⟩

inductive FollowError where
  | io (err : IoError)
  | invalidData (message : String)
deriving DecidableEq, Repr

abbrev Following := ExceptT FollowError (Prog LogSeams)

/-- One operation on the log, its errors not yet looked at. -/
def attempt (o : LogOp) : Following (LogOp.Reply o) := ExceptT.lift (Prog.call (S := LogSeams) o)

def anchored (offset : ℕ) : Following Bool :=
  match offset with
  | 0 => pure true
  | previous + 1 => do
    match ← attempt (.readByteAt previous) with
    | .ok byte => pure (byte == lineFeed)
    | .error .unexpectedEof => pure false
    | .error err => throw (.io err)

def readForward (offset : ℕ) : Following (String × ℕ) := do
  match ← attempt (.readToEnd offset) with
  | .error err => throw (.io err)
  | .ok buf =>
    match fromUtf8 (complete lineFeed buf) with
    | none => throw (.invalidData "the event log is not valid UTF-8")
    | some text => pure (text, offset + completeLength lineFeed buf)

/-- What the file did, and where to read from; nothing where there is nothing new to read. -/
def Follower.classify (follower : Follower) (identity : FileIdentity) (len : ℕ) :
    Following (Option (Transition × ℕ)) :=
  match follower.attached with
  | none => pure (some (.attached, 0))
  | some attached =>
    if attached.identity ≠ identity then pure (some (.replaced, 0))
    else if len < attached.offset then pure (some (.truncated, 0))
    else if attached.offset < len then do
      if ← anchored attached.offset then pure (some (.appended, attached.offset))
      else pure (some (.rewritten, 0))
    else pure none

def Follower.resume (follower : Follower) (identity : FileIdentity) :
    Option (Transition × ℕ) → Following (Polled × Follower)
  | none => pure (⟨"", .idle⟩, follower)
  | some (transition, start) => do
    let (text, offset) ← readForward start
    pure (⟨text, transition⟩, ⟨some ⟨identity, offset⟩⟩)

def Follower.poll (follower : Follower) : Following (Polled × Follower) := do
  match ← attempt .metadata with
  | .error .notFound => pure (⟨"", .absent⟩, ⟨none⟩)
  | .error err => throw (.io err)
  | .ok (identity, len) => do
    let next ← follower.classify identity len
    follower.resume identity next

/-! ## The file system -/

/-- A file system that tells the truth of what it reads, of a missing file and of an early end. It may
fail at any operation. -/
def fileSystem : Device LogSeams Disk
  | .metadata, disk, (r : Except IoError (FileIdentity × ℕ)), disk' => disk' = disk ∧
    match r with
    | .ok (identity, len) => ∃ file, disk = some file ∧ identity = file.identity ∧ len = file.content.length
    | .error err => err = .notFound → disk = none
  | .readByteAt offset, disk, (r : Except IoError UInt8), disk' => disk' = disk ∧
    match r with
    | .ok byte => ∃ file, disk = some file ∧ file.content[offset]? = some byte
    | .error err => err = .unexpectedEof → ∃ file, disk = some file ∧ file.content.length ≤ offset
  | .readToEnd offset, disk, (r : Except IoError (List UInt8)), disk' => disk' = disk ∧
    match r with
    | .ok bytes => ∃ file, disk = some file ∧ bytes = file.content.drop offset
    | .error _ => True

/-- A file system that only fails for a missing file or an early end. -/
def soundFileSystem : Device LogSeams Disk
  | .metadata, disk, (r : Except IoError (FileIdentity × ℕ)), disk' =>
    fileSystem .metadata disk r disk' ∧ ∀ err, r = .error err → err = .notFound ∧ disk = none
  | .readByteAt offset, disk, (r : Except IoError UInt8), disk' =>
    fileSystem (.readByteAt offset) disk r disk' ∧ ∀ err, r = .error err →
      err = .notFound ∧ disk = none ∨ err = .unexpectedEof ∧ (contents disk).length ≤ offset
  | .readToEnd offset, disk, (r : Except IoError (List UInt8)), disk' =>
    fileSystem (.readToEnd offset) disk r disk' ∧ ∀ err, r = .error err → err = .notFound ∧ disk = none

/-- A file is created, or grows. -/
structure Grows (disk disk' : Disk) : Prop where
  content : contents disk <+: contents disk'
  kept : ∀ file, disk = some file → ∃ file', disk' = some file' ∧ file'.identity = file.identity

theorem Grows.refl (disk : Disk) : Grows disk disk := ⟨List.prefix_rfl, fun file h => ⟨file, h, rfl⟩⟩

theorem Grows.trans {disk disk' disk'' : Disk} (h : Grows disk disk') (h' : Grows disk' disk'') :
    Grows disk disk'' := by
  refine ⟨h.content.trans h'.content, ?_⟩
  intro file hfile
  obtain ⟨file', hfile', hidentity⟩ := h.kept file hfile
  obtain ⟨file'', hfile'', hidentity'⟩ := h'.kept file' hfile'
  exact ⟨file'', hfile'', hidentity'.trans hidentity⟩

theorem Grows.file {file : LogFile} {disk' : Disk} (h : Grows (some file) disk') :
    ∃ file', disk' = some file' ∧ file'.identity = file.identity ∧ file.content <+: file'.content := by
  obtain ⟨file', rfl, hidentity⟩ := h.kept file rfl
  exact ⟨file', rfl, hidentity, h.content⟩

end Sessiometer.Log
