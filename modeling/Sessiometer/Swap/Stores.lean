import Sessiometer.Model.Seams

namespace Sessiometer

open Effects

namespace CredentialStore

def read : Attempt Credential := ExceptT.mk (Prog.call (S := Seams) .readCanonical)

def write (c : Credential) : Attempt Unit := ExceptT.mk (Prog.call (S := Seams) (.writeCanonical c))

def probeResolution : Attempt Unit := ExceptT.mk (Prog.call (S := Seams) .probeResolution)

end CredentialStore

namespace AccountStash

def findCredential (service : String) : Attempt (List UInt8) :=
  ExceptT.mk (Prog.call (S := Seams) (.findCredential service))

def findOauthAccount (service : String) : Attempt OauthPayload :=
  ExceptT.mk (Prog.call (S := Seams) (.findOauthAccount service))

def addCredential (service : String) (payload : List UInt8) : Attempt Unit :=
  ExceptT.mk (Prog.call (S := Seams) (.addCredential service payload))

def addOauthAccount (service : String) (raw : Value) : Attempt Unit :=
  ExceptT.mk (Prog.call (S := Seams) (.addOauthAccount service raw))

/-- The identity half as `read` decodes it: hex first, then JSON, then the object. -/
def decodeOauth (service : String) : OauthPayload → Except Error OauthAccount
  | .document raw => OauthAccount.fromObject raw
  | .notJson => .error .claudeStateParse
  | .notHex => .error (.stashIncomplete service)

def read (service : String) : Attempt StashedAccount := do
  let credential ← findCredential service
  let payload ← findOauthAccount service
  let oauthAccount ← ExceptT.mk (pure (decodeOauth service payload))
  pure ⟨⟨credential⟩, oauthAccount⟩

/-- Credential first, then identity: two items, so a failure between them leaves half a write. -/
def write (service : String) (account : StashedAccount) : Attempt Unit := do
  addCredential service account.credential.blob
  addOauthAccount service account.oauthAccount.raw

end AccountStash

namespace ClaudeState

def readRoot : Attempt Value := ExceptT.mk (Prog.call (S := Seams) .readClaudeJson)

def writeRoot (root : Value) : Attempt Unit :=
  ExceptT.mk (Prog.call (S := Seams) (.writeClaudeJson root))

def oauthAccountOf (root : Value) : Except Error OauthAccount :=
  match root.get "oauthAccount" with
  | some v => OauthAccount.fromObject v
  | none => .error .oauthAccountMissing

def readOauthAccount : Attempt OauthAccount := do
  let root ← readRoot
  ExceptT.mk (pure (oauthAccountOf root))

/-- Replaces `oauthAccount` in the document on disk and leaves its other entries. -/
def writeOauthAccount (oauth : OauthAccount) : Attempt Unit := do
  let root ← readRoot
  match root.insert "oauthAccount" oauth.raw with
  | some root' => writeRoot root'
  | none => throw .oauthAccountMissing

end ClaudeState

namespace SwapLock

def acquire : Attempt Unit := ExceptT.mk (Prog.call (S := Seams) .acquireSwapLock)

def release : Seam Unit := Prog.call (S := Seams) .releaseSwapLock

end SwapLock

/-- The stash of a service as `AccountStash.read` finds it when nothing fails. -/
def Stores.stash (t : Stores) (service : String) : Except Error StashedAccount :=
  match t.credentialItem service, t.oauthItem service with
  | some blob, some payload =>
    match AccountStash.decodeOauth service payload with
    | .ok oauth => .ok ⟨⟨blob⟩, oauth⟩
    | .error e => .error e
  | _, _ => .error (.stashIncomplete service)

/-- The identity that the display names when nothing fails. -/
def World.displayed (w : World) : Except Error OauthAccount :=
  match w.claudeJson with
  | some root => ClaudeState.oauthAccountOf root
  | none => .error .claudeStateNotFound

namespace Stores

variable {t : Stores} {service : String} {a : StashedAccount}

theorem stash_eq_ok_iff : t.stash service = .ok a ↔
    t.credentialItem service = some a.credential.blob ∧ ∃ payload,
      t.oauthItem service = some payload ∧
        AccountStash.decodeOauth service payload = .ok a.oauthAccount := by
  obtain ⟨⟨blob⟩, oauth⟩ := a
  unfold stash
  cases hc : t.credentialItem service with
  | none => simp
  | some b =>
    cases ho : t.oauthItem service with
    | none => simp
    | some payload =>
      cases hd : AccountStash.decodeOauth service payload with
      | error e => simp [hd]
      | ok o => simp [hd]

/-- A written stash reads back as written. -/
theorem stash_written :
    ((t.setCredential service a.credential.blob).setOauthAccount service
      a.oauthAccount.raw).stash service = .ok a := by
  rw [stash_eq_ok_iff]
  refine ⟨by simp [setCredential, setOauthAccount], .document a.oauthAccount.raw, ?_, ?_⟩
  · simp [setOauthAccount]
  · exact OauthAccount.fromObject_raw _

/-- A new credential half leaves the identity half it is paired with. -/
theorem stash_setCredential {c : Credential} (h : t.stash service = .ok a) :
    (t.setCredential service c.blob).stash service = .ok ⟨c, a.oauthAccount⟩ := by
  rw [stash_eq_ok_iff] at h ⊢
  exact ⟨by simp [setCredential], h.2⟩

theorem stash_setCredential_of_ne {other : String} {payload : List UInt8} (h : other ≠ service) :
    (t.setCredential service payload).stash other = t.stash other := by
  simp [stash, setCredential, Function.update_of_ne h]

theorem stash_setOauthAccount_of_ne {other : String} {raw : Value} (h : other ≠ service) :
    (t.setOauthAccount service raw).stash other = t.stash other := by
  simp [stash, setOauthAccount, Function.update_of_ne h]

@[simp] theorem stash_setCanonical {c : Credential} :
    (t.setCanonical c).stash service = t.stash service := rfl

end Stores

end Sessiometer
