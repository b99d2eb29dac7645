import Sessiometer.Effects.Rules
import Sessiometer.Model.Credential

/-! # The seams of the program

The operations the program performs on its surroundings, and the surroundings themselves: the
canonical keychain item, the two items of each account's stash, `~/.claude.json`, the swap lock,
the clock. -/

namespace Sessiometer

open Effects

/-- A monotonic instant or a duration, in nanoseconds. -/
abbrev Nanos := ℕ

def secs (n : ℕ) : Nanos := n * 1000000000

structure Usage where
  session : Option ℚ
  weekly : Option ℚ
  weeklyResetsAt : Option Int
  sessionResetsAt : Option Int
deriving DecidableEq, Repr

structure PolledReading where
  usage : Usage
  severity : Option String
deriving DecidableEq, Repr

inductive RefreshErrorReason where
  | spawnFailed
  | readbackUnreadable
  | malformed
deriving DecidableEq, Repr

inductive RefreshOutcome where
  | refreshed (rotated : Bool)
  | noChange
  | dead
  | error (reason : RefreshErrorReason)
deriving DecidableEq, Repr

structure RefreshReport where
  outcome : RefreshOutcome
  expiresAtDeltaSecs : Option Int
  reStashed : Bool
deriving DecidableEq, Repr

/-- What the identity item of a stash holds: the hex of a document, or something else. -/
inductive OauthPayload where
  | document (raw : Value)
  | notJson
  | notHex

inductive Op where
  | readCanonical
  | writeCanonical (credential : Credential)
  | probeResolution
  | findCredential (service : String)
  | findOauthAccount (service : String)
  | addCredential (service : String) (payload : List UInt8)
  | addOauthAccount (service : String) (raw : Value)
  | readClaudeJson
  | writeClaudeJson (root : Value)
  | acquireSwapLock
  | releaseSwapLock
  | now
  | epochNow
  | nextUnit
  | nextNormal
  | poll (account : Account) (active : Bool)
  | refresh (account : Account)
  | keepWarm (account : Account) (canonical : Credential)

def Op.Reply : Op → Type
  | .readCanonical => Except Error Credential
  | .writeCanonical _ => Except Error Unit
  | .probeResolution => Except Error Unit
  | .findCredential _ => Except Error (List UInt8)
  | .findOauthAccount _ => Except Error OauthPayload
  | .addCredential _ _ => Except Error Unit
  | .addOauthAccount _ _ => Except Error Unit
  | .readClaudeJson => Except Error Value
  | .writeClaudeJson _ => Except Error Unit
  | .acquireSwapLock => Except Error Unit
  | .releaseSwapLock => Unit
  | .now => Nanos
  | .epochNow => Int
  | .nextUnit => ℚ
  | .nextNormal => ℚ
  | .poll _ _ => Except Error PolledReading
  | .refresh _ => Except Error RefreshReport
  | .keepWarm _ _ => Except Error (RefreshReport × Option Credential)

abbrev Seams : Interface := ⟨Op, Op.Reply⟩

/-- A program over the seams. -/
abbrev Seam := Prog Seams

/-- A program over the seams that stops at its first error, as the source's `?` does. -/
abbrev Attempt := ExceptT Error Seam

/-- What the swap lock protects: the canonical item and the stash items. -/
structure Stores where
  canonical : Option Credential
  credentialItem : String → Option (List UInt8)
  oauthItem : String → Option OauthPayload

namespace Stores

def setCanonical (t : Stores) (c : Credential) : Stores := { t with canonical := some c }

def setCredential (t : Stores) (service : String) (payload : List UInt8) : Stores :=
  { t with credentialItem := Function.update t.credentialItem service (some payload) }

def setOauthAccount (t : Stores) (service : String) (raw : Value) : Stores :=
  { t with oauthItem := Function.update t.oauthItem service (some (.document raw)) }

end Stores

structure World where
  stores : Stores
  claudeJson : Option Value
  swapLock : Option ℕ
  clock : Nanos

namespace World

def setStores (w : World) (t : Stores) : World := { w with stores := t }

def setClaudeJson (w : World) (root : Value) : World := { w with claudeJson := some root }

@[simp] theorem setStores_stores (w : World) (t : Stores) : (w.setStores t).stores = t := rfl

@[simp] theorem setClaudeJson_stores (w : World) (root : Value) :
    (w.setClaudeJson root).stores = w.stores := rfl

end World

/-- A write that may fail: a success has landed, a failure may or may not have. -/
def Writes (w : World) (written : World) (r : Except Error Unit) (w' : World) : Prop :=
  match r with
  | .ok () => w' = written
  | .error _ => w' = w ∨ w' = written

/-- A read that may fail: what it returns is there; `absent` is told only of a missing item. -/
def Reads {α : Type} (item : Option α) (absent : Error) (r : Except Error α) : Prop :=
  match r with
  | .ok a => item = some a
  | .error e => e = absent → item = none

/-- A sample of the unit interval. -/
def IsUnit01 (u : ℚ) : Prop := 0 ≤ u ∧ u < 1

/-- The surroundings of process `pid`. -/
def surroundings (pid : ℕ) : Device Seams World
  | .readCanonical, w, r, w' => w' = w ∧ Reads w.stores.canonical .credentialNotFound r
  | .writeCanonical c, w, r, w' => Writes w (w.setStores (w.stores.setCanonical c)) r w'
  | .probeResolution, w, _, w' => w' = w
  | .findCredential service, w, r, w' =>
      w' = w ∧ Reads (w.stores.credentialItem service) (.stashIncomplete service) r
  | .findOauthAccount service, w, r, w' =>
      w' = w ∧ Reads (w.stores.oauthItem service) (.stashIncomplete service) r
  | .addCredential service payload, w, r, w' =>
      Writes w (w.setStores (w.stores.setCredential service payload)) r w'
  | .addOauthAccount service raw, w, r, w' =>
      Writes w (w.setStores (w.stores.setOauthAccount service raw)) r w'
  | .readClaudeJson, w, r, w' => w' = w ∧ Reads w.claudeJson .claudeStateNotFound r
  | .writeClaudeJson root, w, r, w' => Writes w (w.setClaudeJson root) r w'
  | .acquireSwapLock, w, r, w' =>
      match (r : Except Error Unit) with
      | .ok () => w.swapLock = none ∧ w' = { w with swapLock := some pid }
      | .error _ => w' = w
  | .releaseSwapLock, w, _, w' => w' = { w with swapLock := none }
  | .now, w, r, w' => w.clock ≤ r ∧ w' = { w with clock := r }
  | .epochNow, w, _, w' => w' = w
  | .nextUnit, w, r, w' => w' = w ∧ IsUnit01 r
  | .nextNormal, w, _, w' => w' = w
  | .poll _ _, w, _, w' => w' = w
  | .refresh account, w, _, w' =>
      w' = w ∨ ∃ payload, w' = w.setStores (w.stores.setCredential account.stash payload)
  | .keepWarm _ _, w, _, w' => w' = w

/-- The operations that may write a store or the display. -/
def Op.isWrite : Op → Bool
  | .writeCanonical _ => true
  | .addCredential _ _ => true
  | .addOauthAccount _ _ => true
  | .writeClaudeJson _ => true
  | .refresh _ => true
  | _ => false

/-- The operations that may write one of the stores. -/
def Op.writesStores : Op → Bool
  | .writeCanonical _ => true
  | .addCredential _ _ => true
  | .addOauthAccount _ _ => true
  | .refresh _ => true
  | _ => false

/-- The operations that neither write a store nor touch the swap lock. -/
def Op.isQuiet : Op → Bool
  | .acquireSwapLock => false
  | .releaseSwapLock => false
  | o => !o.writesStores

theorem Op.writesStores_of_isWrite {o : Op} (h : o.isWrite = false) : o.writesStores = false := by
  cases o <;> simp_all [Op.isWrite, Op.writesStores]

theorem surroundings_stores {pid : ℕ} {o : Op} {w w' : World} {r : o.Reply}
    (ho : o.writesStores = false) (h : surroundings pid o w r w') : w'.stores = w.stores := by
  cases o with
  | writeCanonical | addCredential | addOauthAccount | refresh => simp [Op.writesStores] at ho
  | writeClaudeJson root =>
    simp only [surroundings, Writes] at h
    split at h
    · rw [h, World.setClaudeJson_stores]
    · rcases h with rfl | rfl <;> rfl
  | acquireSwapLock =>
    simp only [surroundings] at h
    split at h
    · rw [h.2]
    · rw [h]
  | releaseSwapLock => rw [show w' = _ from h]
  | now => rw [h.2]
  | readCanonical | findCredential | findOauthAccount | readClaudeJson | nextUnit => rw [h.1]
  | probeResolution | epochNow | nextNormal | poll | keepWarm => rw [show w' = w from h]

theorem surroundings_claudeJson {pid : ℕ} {o : Op} {w w' : World} {r : o.Reply}
    (ho : o.isWrite = false) (h : surroundings pid o w r w') : w'.claudeJson = w.claudeJson := by
  cases o with
  | writeCanonical | addCredential | addOauthAccount | refresh | writeClaudeJson =>
    simp [Op.isWrite] at ho
  | acquireSwapLock =>
    simp only [surroundings] at h
    split at h
    · rw [h.2]
    · rw [h]
  | releaseSwapLock => rw [show w' = _ from h]
  | now => rw [h.2]
  | readCanonical | findCredential | findOauthAccount | readClaudeJson | nextUnit => rw [h.1]
  | probeResolution | epochNow | nextNormal | poll | keepWarm => rw [show w' = w from h]

theorem surroundings_quiet {pid : ℕ} {o : Op} {w w' : World} {r : o.Reply}
    (ho : o.isQuiet = true) (h : surroundings pid o w r w') :
    w'.stores = w.stores ∧ w'.swapLock = w.swapLock := by
  cases o with
  | writeCanonical | addCredential | addOauthAccount | refresh | acquireSwapLock
  | releaseSwapLock => simp [Op.isQuiet, Op.writesStores] at ho
  | writeClaudeJson root =>
    simp only [surroundings, Writes] at h
    split at h
    · rw [h]
      exact ⟨rfl, rfl⟩
    · rcases h with rfl | rfl <;> exact ⟨rfl, rfl⟩
  | now =>
    rw [h.2]
    exact ⟨rfl, rfl⟩
  | readCanonical | findCredential | findOauthAccount | readClaudeJson | nextUnit =>
    rw [h.1]
    exact ⟨rfl, rfl⟩
  | probeResolution | epochNow | nextNormal | poll | keepWarm =>
    rw [show w' = w from h]
    exact ⟨rfl, rfl⟩

end Sessiometer
