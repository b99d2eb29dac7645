import Sessiometer.Swap.Rules

namespace Sessiometer

open Effects

/-- One way the surroundings may answer: which operations fail, and what the outside replies. -/
structure Script where
  fails : Op → Bool
  epoch : Int
  unit : ℚ
  normal : ℚ
  poll : Account → Bool → Except Error PolledReading
  refresh : Account → Except Error RefreshReport
  keepWarm : Account → Credential → Except Error (RefreshReport × Option Credential)

namespace Script

/-- Nothing fails, and the outside has nothing to say. -/
def calm : Script where
  fails := fun _ => false
  epoch := 0
  unit := 0
  normal := 0
  poll := fun _ _ => .error (.usageTransient none)
  refresh := fun _ => .error .io
  keepWarm := fun _ _ => .error .io

def orFail {α : Type} (fails : Bool) (r : Except Error α) : Except Error α :=
  if fails then .error .io else r

def item {α : Type} (absent : Error) : Option α → Except Error α
  | some a => .ok a
  | none => .error absent

/-- A failing operation leaves the world as it is. -/
def handler (s : Script) (pid : ℕ) : Handler Seams World
  | .readCanonical, w =>
      (orFail (s.fails .readCanonical) (item .credentialNotFound w.stores.canonical), w)
  | .writeCanonical c, w =>
      if s.fails (.writeCanonical c) then (.error .io, w)
      else (.ok (), w.setStores (w.stores.setCanonical c))
  | .probeResolution, w =>
      (orFail (s.fails .probeResolution)
        (if w.stores.canonical.isSome then .ok () else .error .credentialNotFound), w)
  | .findCredential service, w =>
      (orFail (s.fails (.findCredential service))
        (item (.stashIncomplete service) (w.stores.credentialItem service)), w)
  | .findOauthAccount service, w =>
      (orFail (s.fails (.findOauthAccount service))
        (item (.stashIncomplete service) (w.stores.oauthItem service)), w)
  | .addCredential service p, w =>
      if s.fails (.addCredential service p) then (.error .io, w)
      else (.ok (), w.setStores (w.stores.setCredential service p))
  | .addOauthAccount service raw, w =>
      if s.fails (.addOauthAccount service raw) then (.error .io, w)
      else (.ok (), w.setStores (w.stores.setOauthAccount service raw))
  | .readClaudeJson, w =>
      (orFail (s.fails .readClaudeJson) (item .claudeStateNotFound w.claudeJson), w)
  | .writeClaudeJson root, w =>
      if s.fails (.writeClaudeJson root) then (.error .io, w) else (.ok (), w.setClaudeJson root)
  | .acquireSwapLock, w =>
      if s.fails .acquireSwapLock then (.error .io, w)
      else if w.swapLock = none then (.ok (), { w with swapLock := some pid })
      else (.error .swapLockBusy, w)
  | .releaseSwapLock, w => ((), { w with swapLock := none })
  | .now, w => (w.clock, w)
  | .epochNow, w => (s.epoch, w)
  | .nextUnit, w => (s.unit, w)
  | .nextNormal, w => (s.normal, w)
  | .poll account active, w => (s.poll account active, w)
  | .refresh account, w => (s.refresh account, w)
  | .keepWarm account canonical, w => (s.keepWarm account canonical, w)

theorem reads_orFail {α : Type} {fails : Bool} {x : Option α} {absent : Error}
    (h : absent ≠ .io) : Reads x absent (orFail fails (item absent x)) := by
  cases fails <;> cases x <;> simp [orFail, item, Reads, Ne.symm h]

/-- A script is one of the things the surroundings may do. -/
theorem handler_refines (s : Script) (hu : IsUnit01 s.unit) (pid : ℕ) :
    (s.handler pid).Refines (surroundings pid) := by
  intro o w
  cases o with
  | readCanonical | findCredential | findOauthAccount | readClaudeJson =>
    exact ⟨rfl, reads_orFail (by simp)⟩
  | writeCanonical c =>
    cases h : s.fails (.writeCanonical c) <;> simp [handler, h, surroundings, Writes]
  | addCredential service p =>
    cases h : s.fails (.addCredential service p) <;> simp [handler, h, surroundings, Writes]
  | addOauthAccount service raw =>
    cases h : s.fails (.addOauthAccount service raw) <;> simp [handler, h, surroundings, Writes]
  | writeClaudeJson root =>
    cases h : s.fails (.writeClaudeJson root) <;> simp [handler, h, surroundings, Writes]
  | acquireSwapLock =>
    cases h : s.fails .acquireSwapLock <;> cases hl : w.swapLock <;>
      simp [handler, h, hl, surroundings]
  | now => exact ⟨le_refl _, rfl⟩
  | nextUnit => exact ⟨rfl, hu⟩
  | refresh account => exact .inl rfl
  | releaseSwapLock | probeResolution | epochNow | nextNormal | poll | keepWarm => rfl

end Script

section Captured

/-- The `oauthAccount` document that names an account and nothing else. -/
def identityDocument (accountUuid : String) : Value :=
  .object [("accountUuid", .string accountUuid)]

/-- Stores as `capture` leaves them: each account's credential under its own identity. -/
def captured (canonical : Option Credential) (stashes : List (Account × Credential)) : Stores where
  canonical := canonical
  credentialItem := fun service => (stashes.find? (·.1.stash = service)).map (·.2.blob)
  oauthItem := fun service =>
    (stashes.find? (·.1.stash = service)).map (fun e => .document (identityDocument e.1.accountUuid))

/-- A world at rest, whose display names the given account. -/
def atRest (stores : Stores) (displayed : String) : World where
  stores := stores
  claudeJson := some (.object [("oauthAccount", identityDocument displayed)])
  swapLock := none
  clock := 0

def sampleAccount (accountUuid : String) : Account := ⟨accountUuid, accountUuid, true⟩

/-- A parser for one-byte credentials: the byte names the grant, and zero is a cleared one. -/
@[reducible] def sampleJson : SerdeJson where
  fromSlice := fun
    | [n] => some (.object [("claudeAiOauth", .object [("accessToken", .string "access"),
        ("refreshToken", .string (if n = 0 then "" else toString n)), ("expiresAt", .int 0)])])
    | _ => none

end Captured

section Calm

variable {pid : ℕ} {w : World}

/-- The surroundings when nothing fails. -/
def calmly (pid : ℕ) : Handler Seams World := Script.calm.handler pid

theorem calmly_refines (pid : ℕ) : (calmly pid).Refines (surroundings pid) :=
  Script.handler_refines .calm ⟨by decide, by decide⟩ pid

theorem run_except_bind {α β : Type} {H : Handler Seams World} {p : Attempt α}
    {f : α → Attempt β} :
    run H (p >>= f).run w = match run H p.run w with
      | (.ok a, w') => run H (f a).run w'
      | (.error e, w') => (.error e, w') := by
  rw [ExceptT.run_bind, run_bind]
  rcases run H p.run w with ⟨r, w'⟩
  cases r <;> rfl

@[simp] theorem run_canonical_read :
    run (calmly pid) CredentialStore.read.run w =
      (Script.item .credentialNotFound w.stores.canonical, w) := rfl

@[simp] theorem run_canonical_write {c : Credential} :
    run (calmly pid) (CredentialStore.write c).run w =
      (.ok (), w.setStores (w.stores.setCanonical c)) := rfl

@[simp] theorem run_findCredential {service : String} :
    run (calmly pid) (AccountStash.findCredential service).run w =
      (Script.item (.stashIncomplete service) (w.stores.credentialItem service), w) := rfl

@[simp] theorem run_findOauthAccount {service : String} :
    run (calmly pid) (AccountStash.findOauthAccount service).run w =
      (Script.item (.stashIncomplete service) (w.stores.oauthItem service), w) := rfl

@[simp] theorem run_mk_pure {α : Type} {H : Handler Seams World} {r : Except Error α} :
    run H (ExceptT.mk (pure r) : Attempt α).run w = (r, w) := rfl

@[simp] theorem run_stash_read {service : String} :
    run (calmly pid) (AccountStash.read service).run w = (w.stores.stash service, w) := by
  unfold AccountStash.read Stores.stash
  rw [run_except_bind, run_findCredential]
  cases w.stores.credentialItem service with
  | none => rfl
  | some blob =>
    simp only [Script.item]
    rw [run_except_bind, run_findOauthAccount]
    cases w.stores.oauthItem service with
    | none => rfl
    | some payload =>
      simp only [Script.item]
      rw [run_except_bind, run_mk_pure]
      cases AccountStash.decodeOauth service payload <;> rfl

@[simp] theorem run_stash_write {service : String} {a : StashedAccount} :
    run (calmly pid) (AccountStash.write service a).run w =
      (.ok (), w.setStores ((w.stores.setCredential service a.credential.blob).setOauthAccount
        service a.oauthAccount.raw)) := rfl

theorem run_swapInputs {outgoing incoming : String} {x : SwapInputs}
    (h : InputsOf w.stores outgoing incoming x) :
    run (calmly pid) (swapInputs outgoing incoming).run w = (.ok x, w) := by
  unfold swapInputs
  rw [run_except_bind, run_canonical_read, h.canonical]
  simp only [Script.item]
  rw [run_except_bind, run_stash_read, h.outgoing]
  simp only
  rw [run_except_bind, run_stash_read, h.incoming]
  simp only
  rw [if_neg (by simp [h.guard])]
  rfl

theorem run_lift_map {α β : Type} {H : Handler Seams World} {p : Attempt α}
    {f : Except Error α → β} :
    run H (ExceptT.lift (f <$> p.run) : Attempt β).run w =
      (.ok (f (run H p.run w).1), (run H p.run w).2) := by
  simp only [ExceptT.run_lift, map_eq_pure_bind, run_bind, bind_assoc, Prog.pure_eq, run_pure]

/-- When nothing fails, installing an account succeeds. -/
theorem run_installIncoming {incoming : StashedAccount} :
    ∃ rep w', run (calmly pid) (installIncoming incoming).run w = (.ok rep, w') := by
  unfold installIncoming
  rw [run_except_bind, run_canonical_write]
  simp only
  rw [run_except_bind, run_lift_map]
  simp only
  rw [run_except_bind, run_lift_map]
  exact ⟨_, _, rfl⟩

theorem run_swap (pid : ℕ) {outgoing incoming : String} {x : SwapInputs}
    (h : InputsOf w.stores outgoing incoming x) :
    ∃ rep w', run (calmly pid) (swap outgoing incoming).run w = (.ok rep, w') := by
  unfold swap swapWrites
  rw [run_except_bind, run_swapInputs h]
  simp only
  rw [run_except_bind, run_stash_write]
  exact run_installIncoming

/-- From inputs that pass the guard, a swap can succeed. -/
theorem exec_swap (pid : ℕ) {outgoing incoming : String} {x : SwapInputs}
    (h : InputsOf w.stores outgoing incoming x) :
    ∃ rep w', Exec (surroundings pid) (swap outgoing incoming).run w (.ok rep) w' := by
  obtain ⟨rep, w', hr⟩ := run_swap pid h
  have he := exec_of_run (calmly_refines pid) (swap outgoing incoming).run w
  rw [hr] at he
  exact ⟨rep, w', he⟩

end Calm

end Sessiometer
