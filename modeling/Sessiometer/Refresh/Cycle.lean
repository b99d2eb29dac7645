import Sessiometer.Swap.Engine

/-! # One refresh cycle

The cycle that refreshes a parked account: its credential is copied into an isolated keychain item, a
client is spawned on that, and what it leaves there is stored again. -/

namespace Sessiometer

open Effects

/-! ## What a refresh does to a credential -/

section Blobs

variable [SerdeJson]

/-- The copy whose expiry makes the client refresh it. -/
def backdate [SerdeToVec] (blob : List UInt8) (nowMs : Int) : Option (List UInt8) := do
  let value ← SerdeJson.fromSlice blob
  let oauth ← value.get "claudeAiOauth"
  let oauth ← oauth.insert "expiresAt" (.int nowMs)
  let value ← value.insert "claudeAiOauth" oauth
  pure (SerdeToVec.toVec value)

def classify (original seeded after : List UInt8) : RefreshOutcome × Option Int :=
  let afterExp := expiresAt after
  let outcome : RefreshOutcome := match refreshToken after with
    | none => .error .malformed
    | some afterRt =>
      if afterRt = "" then .dead
      else match afterExp, expiresAt seeded with
        | some afterExp, some seededExp =>
          if seededExp < afterExp then
            -- an unreadable seed is no evidence of a rotation
            .refreshed ((refreshToken seeded).any (fun seededRt => decide (seededRt ≠ afterRt)))
          else .noChange
        | _, _ => .error .malformed
  let delta := match outcome with
    | .refreshed _ =>
      match afterExp, expiresAt original with
      | some afterExp, some originalExp => some ((afterExp - originalExp).tdiv 1000)
      | _, _ => none
    | _ => none
  (outcome, delta)

end Blobs

/-- A cycle whose credential could not be back-dated. -/
def RefreshReport.indeterminate : RefreshReport := ⟨.error .malformed, none, false⟩

/-! ## The isolated session -/

/-- What a cycle does beside the stores, in the session of an account. -/
inductive IsolatedOp where
  | createIsolatedDir (session : String)
  | seed (session : String) (blob : List UInt8)
  | writeClaudeJson (session : String)
  | spawn (session : String)
  | readBack (session : String)
  | delete (session : String)
  | deleteBlocking (session : String)
  | removeDirAll (session : String)
  | sleep

def IsolatedOp.Reply : IsolatedOp → Type
  | .createIsolatedDir _ => Except Error Unit
  | .seed _ _ => Except Error Unit
  | .writeClaudeJson _ => Except Error Unit
  | .spawn _ => Except Error Unit
  | .readBack _ => Except Error Credential
  | .delete _ => Except Error Unit
  | .deleteBlocking _ => Unit
  | .removeDirAll _ => Unit
  | .sleep => Unit

abbrev IsolatedSeams : Interface := ⟨IsolatedOp, IsolatedOp.Reply⟩

abbrev CycleSeams : Interface := Seams.sum IsolatedSeams

abbrev CycleSeam := Prog CycleSeams

abbrev CycleM := ExceptT Error CycleSeam

def onSeams {α : Type} (p : Attempt α) : CycleM α := ExceptT.mk (p.run.left IsolatedSeams)

namespace IsolatedSession

def create (session : String) : CycleM Unit :=
  ExceptT.mk (Prog.call (S := CycleSeams) (.inr (.createIsolatedDir session)))

def seed (session : String) (blob : List UInt8) : CycleM Unit :=
  ExceptT.mk (Prog.call (S := CycleSeams) (.inr (.seed session blob)))

def writeClaudeJson (session : String) : CycleM Unit :=
  ExceptT.mk (Prog.call (S := CycleSeams) (.inr (.writeClaudeJson session)))

def spawn (session : String) : CycleM Unit :=
  ExceptT.mk (Prog.call (S := CycleSeams) (.inr (.spawn session)))

def readBack (session : String) : CycleM Credential :=
  ExceptT.mk (Prog.call (S := CycleSeams) (.inr (.readBack session)))

def delete (session : String) : CycleM Unit :=
  ExceptT.mk (Prog.call (S := CycleSeams) (.inr (.delete session)))

def deleteBlocking (session : String) : CycleSeam Unit :=
  Prog.call (S := CycleSeams) (.inr (.deleteBlocking session))

def removeDirAll (session : String) : CycleSeam Unit :=
  Prog.call (S := CycleSeams) (.inr (.removeDirAll session))

def sleep : CycleSeam Unit := Prog.call (S := CycleSeams) (.inr .sleep)

def teardownDeleteRetries : ℕ := 3

/-- Whether one of so many attempts has deleted the item. -/
def deleteRetried (session : String) : ℕ → CycleSeam Bool
  | 0 => pure false
  | n + 1 => do
    match ← (delete session).run with
    | .ok () => pure true
    | .error _ => do
      sleep
      deleteRetried session n

def teardown (session : String) : CycleSeam Unit := do
  let deleted ← deleteRetried session teardownDeleteRetries
  if deleted then removeDirAll session
  else do
    deleteBlocking session
    removeDirAll session

end IsolatedSession

/-! ## The cycle -/

section Cycle

variable [SerdeJson]

def mintIsolated (session : String) (seed original : List UInt8) :
    CycleM (RefreshOutcome × Option Int × Option Credential) := do
  IsolatedSession.seed session seed
  IsolatedSession.writeClaudeJson session
  match ← ExceptT.lift (IsolatedSession.spawn session).run with
  | .error _ => pure (.error .spawnFailed, none, none)
  | .ok () =>
    match ← ExceptT.lift (IsolatedSession.readBack session).run with
    | .error _ => pure (.error .readbackUnreadable, none, none)
    | .ok after =>
      let (outcome, delta) := classify original seed after.blob
      pure (outcome, delta, some after)

/-- The compare-and-set: the credential half is compared, and both halves are written. -/
def reStash (stashService : String) (snapshot : StashedAccount) (after : Credential) : Attempt Bool :=
  withSwapLock do
    let current ← AccountStash.read stashService
    if current.credential.matches snapshot.credential then do
      AccountStash.write stashService ⟨after, snapshot.oauthAccount⟩
      pure true
    else pure false

def runIsolated (account : Account) (seed : List UInt8) (snapshot : StashedAccount) :
    CycleM RefreshReport := do
  let (outcome, delta, after) ← mintIsolated account.accountUuid seed snapshot.credential.blob
  let reStashed ← match outcome, after with
    | .refreshed _, some after => onSeams (reStash account.stash snapshot after)
    | _, _ => pure false
  pure ⟨outcome, delta, reStashed⟩

/-- The directory and the isolated item are named after the account. -/
def refreshCycle [SerdeToVec] (account : Account) (nowMs : Int) : CycleM RefreshReport := do
  let snapshot ← onSeams (withSwapLock (AccountStash.read account.stash))
  match backdate snapshot.credential.blob nowMs with
  | none => pure .indeterminate
  | some seed => do
    IsolatedSession.create account.accountUuid
    let result ← ExceptT.lift (runIsolated account seed snapshot).run
    ExceptT.lift (IsolatedSession.teardown account.accountUuid)
    ExceptT.mk (pure result)

end Cycle

/-! ## The surroundings of a cycle -/

/-- The directory of a session, and its keychain item. -/
structure Isolated where
  dir : Bool
  claudeJson : Bool
  item : Option (List UInt8)

/-- The refresh tokens of an account, as the server knows them. -/
structure Grants where
  live : String
  issued : List String

structure RefreshWorld where
  world : World
  isolated : String → Isolated
  grants : String → Grants

namespace RefreshWorld

def setIsolated (w : RefreshWorld) (session : String) (isolated : Isolated) : RefreshWorld :=
  { w with isolated := Function.update w.isolated session isolated }

def setItem (w : RefreshWorld) (session : String) (item : Option (List UInt8)) : RefreshWorld :=
  w.setIsolated session { w.isolated session with item := item }

def setDir (w : RefreshWorld) (session : String) (dir claudeJson : Bool) : RefreshWorld :=
  w.setIsolated session { w.isolated session with dir := dir, claudeJson := claudeJson }

@[simp] theorem setItem_item (w : RefreshWorld) (session : String) (item : Option (List UInt8)) :
    ((w.setItem session item).isolated session).item = item := by
  simp [setItem, setIsolated]

@[simp] theorem setDir_item (w : RefreshWorld) (session : String) (dir claudeJson : Bool) :
    ((w.setDir session dir claudeJson).isolated session).item = (w.isolated session).item := by
  simp [setDir, setIsolated]

@[simp] theorem setItem_world (w : RefreshWorld) (session : String) (item : Option (List UInt8)) :
    (w.setItem session item).world = w.world := rfl

@[simp] theorem setDir_world (w : RefreshWorld) (session : String) (dir claudeJson : Bool) :
    (w.setDir session dir claudeJson).world = w.world := rfl

@[simp] theorem setItem_grants (w : RefreshWorld) (session : String) (item : Option (List UInt8)) :
    (w.setItem session item).grants = w.grants := rfl

@[simp] theorem setDir_grants (w : RefreshWorld) (session : String) (dir claudeJson : Bool) :
    (w.setDir session dir claudeJson).grants = w.grants := rfl

end RefreshWorld

/-- What the spawned client does to the item of its session and to the grants. -/
abbrev Client := String → RefreshWorld → Except Error Unit → RefreshWorld → Prop

def isolatedSurroundings (client : Client) : Device IsolatedSeams RefreshWorld
  | .createIsolatedDir session, w, r, w' =>
      match (r : Except Error Unit) with
      | .ok () => w' = w.setDir session true false
      | .error _ => ∃ dir claudeJson, w' = w.setDir session dir claudeJson
  | .seed session blob, w, r, w' =>
      match (r : Except Error Unit) with
      | .ok () => w' = w.setItem session (some blob)
      | .error _ => w' = w ∨ w' = w.setItem session (some blob)
  | .writeClaudeJson session, w, _, w' =>
      w' = w ∨ w' = w.setDir session (w.isolated session).dir true
  | .spawn session, w, r, w' => client session w r w'
  | .readBack session, w, r, w' =>
      w' = w ∧ Reads ((w.isolated session).item.map Credential.mk) .credentialNotFound r
  | .delete session, w, r, w' =>
      match (r : Except Error Unit) with
      | .ok () => w' = w.setItem session none
      | .error _ => w' = w ∨ w' = w.setItem session none
  | .deleteBlocking session, w, _, w' => w' = w ∨ w' = w.setItem session none
  | .removeDirAll session, w, _, w' => ∃ dir claudeJson, w' = w.setDir session dir claudeJson
  | .sleep, w, _, w' => w' = w

/-- The surroundings of a cycle that process `pid` runs. -/
def refreshing (client : Client) (pid : ℕ) : Device CycleSeams RefreshWorld
  | .inl o, w, r, w' =>
      surroundings pid o w.world r w'.world ∧ w'.isolated = w.isolated ∧ w'.grants = w.grants
  | .inr o, w, r, w' => isolatedSurroundings client o w r w'

end Sessiometer
