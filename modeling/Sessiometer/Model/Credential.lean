import Sessiometer.Model.Json

namespace Sessiometer

inductive Error where
  | credentialNotFound
  | credentialAmbiguous (count : ℕ)
  | keychainLocked (op : String)
  | keychain (op : String) (code : Int)
  | claudeStateNotFound
  | claudeStateParse
  | oauthAccountMissing
  | oauthAccountFieldMissing (field : String)
  | stashIncomplete (service : String)
  | usageTransient (retryAfter : Option ℕ)
  | usageRateLimited (retryAfter : Option ℕ)
  | usageRejected (status : ℕ)
  | usageUnauthorized
  | usageScopeMissing
  | usageParse (detail : String)
  | activeAccountUnresolved
  | useTargetNotFound (query : String)
  | useTargetAmbiguous (query : String) (count : ℕ)
  | useTargetWeeklyExhausted (label : String)
  | useCooldownActive
  | useTargetQuarantined (label : String)
  | useViabilityUnverifiable (label : String)
  | swapLockBusy
  | swapWrongIdentityRestash
  | canaryDrift (displayed matched : String)
  | canaryUnparseableCanonical
  | canaryProbeNotLive (verdict : String)
  | claudeBinaryNotFound
  | sharedCredentialMutated
  | io
deriving DecidableEq, Repr

/-- A credential blob: the bytes of a keychain item. -/
structure Credential where
  blob : List UInt8
deriving DecidableEq, Repr

namespace Credential

/-- `matches` in the source: the two blobs are the same bytes. -/
def «matches» (c other : Credential) : Bool := c.blob == other.blob

theorem matches_iff {c d : Credential} : c.matches d = true ↔ c = d := by
  cases c
  cases d
  simp [«matches»]

end Credential

section Blob

variable [SerdeJson]

def oauthField (blob : List UInt8) (field : String) : Option Value :=
  ((SerdeJson.fromSlice blob).bind (·.get "claudeAiOauth")).bind (·.get field)

def expiresAt (blob : List UInt8) : Option Int :=
  (oauthField blob "expiresAt").bind Value.asI64

def refreshTokenExpiresAt (blob : List UInt8) : Option Int :=
  (oauthField blob "refreshTokenExpiresAt").bind Value.asI64

def refreshToken (blob : List UInt8) : Option String :=
  (oauthField blob "refreshToken").bind Value.asStr

def isWellFormedCredential (blob : List UInt8) : Bool :=
  ((oauthField blob "accessToken").bind Value.asStr).isSome &&
    (refreshToken blob).isSome && (expiresAt blob).isSome

end Blob

/-- What the daemon last took the canonical item to hold. -/
structure CanonicalWatch where
  last : Option Credential
deriving DecidableEq, Repr

inductive CanonicalChange where
  | primed
  | unchanged
  | changed
deriving DecidableEq, Repr

namespace CanonicalWatch

def new : CanonicalWatch := ⟨none⟩

def classify (watch : CanonicalWatch) (current : Credential) : CanonicalChange :=
  match watch.last with
  | none => .primed
  | some prev => if prev.matches current then .unchanged else .changed

def commit (_ : CanonicalWatch) (current : Credential) : CanonicalWatch := ⟨some current⟩

def baseline (watch : CanonicalWatch) : Option Credential := watch.last

@[simp] theorem commit_last (watch : CanonicalWatch) (c : Credential) :
    (watch.commit c).last = some c := rfl

theorem classify_changed_iff {watch : CanonicalWatch} {c : Credential} :
    watch.classify c = .changed ↔ ∃ prev, watch.last = some prev ∧ prev ≠ c := by
  cases h : watch.last with
  | none => simp [classify, h]
  | some prev =>
    by_cases hm : prev = c
    · simp [classify, h, hm, Credential.matches_iff.mpr]
    · have : prev.matches c = false := by
        rw [Bool.eq_false_iff]
        exact fun hc => hm (Credential.matches_iff.mp hc)
      simp [classify, h, this, hm]

theorem classify_commit (watch : CanonicalWatch) (c : Credential) :
    (watch.commit c).classify c = .unchanged := by
  simp [classify, commit, Credential.matches_iff.mpr]

end CanonicalWatch

/-- The Unicode white space that `str::trim` removes. -/
def isWhitespace (c : Char) : Bool :=
  c.toNat ∈ [0x09, 0x0A, 0x0B, 0x0C, 0x0D, 0x20, 0x85, 0xA0, 0x1680, 0x2028, 0x2029, 0x202F,
    0x205F, 0x3000] || (0x2000 ≤ c.toNat && c.toNat ≤ 0x200A)

def isBlank (s : String) : Bool := s.toList.all isWhitespace

def stringField (v : Value) (field : String) : Except Error String :=
  match (v.get field).bind Value.asStr with
  | some s => .ok s
  | none => .error (.oauthAccountFieldMissing field)

/-- The account uuid that `OauthAccount::from_object` accepts a document with. -/
def accountUuidOf (v : Value) : Except Error String :=
  if v.isObject then
    match stringField v "accountUuid" with
    | .ok accountUuid =>
      if isBlank accountUuid then .error (.oauthAccountFieldMissing "accountUuid")
      else .ok accountUuid
    | .error e => .error e
  else .error .oauthAccountMissing

/-- The display identity: an `oauthAccount` document with the uuid it names. -/
structure OauthAccount where
  raw : Value
  accountUuid : String
  wellFormed : accountUuidOf raw = .ok accountUuid

def OauthAccount.fromObject (v : Value) : Except Error OauthAccount :=
  match h : accountUuidOf v with
  | .ok accountUuid => .ok ⟨v, accountUuid, h⟩
  | .error e => .error e

@[simp] theorem OauthAccount.fromObject_raw (o : OauthAccount) :
    OauthAccount.fromObject o.raw = .ok o := by
  obtain ⟨raw, uuid, h⟩ := o
  unfold fromObject
  split
  · next u hu =>
    rw [h] at hu
    cases hu
    rfl
  · next e he =>
    rw [h] at he
    cases he

theorem OauthAccount.fromObject_eq_ok {v : Value} {o : OauthAccount}
    (h : OauthAccount.fromObject v = .ok o) : v = o.raw := by
  unfold fromObject at h
  split at h
  · cases h
    rfl
  · cases h

structure StashedAccount where
  credential : Credential
  oauthAccount : OauthAccount

/-- A roster entry. -/
structure Account where
  accountUuid : String
  label : String
  enabled : Bool
deriving DecidableEq, Repr

def stashPrefix : String := "Sessiometer/"

def Account.stash (a : Account) : String := stashPrefix ++ a.accountUuid

theorem stash_injective {a b : Account} (h : a.stash = b.stash) :
    a.accountUuid = b.accountUuid := by
  unfold Account.stash at h
  exact String.append_right_inj _ |>.mp h

end Sessiometer
