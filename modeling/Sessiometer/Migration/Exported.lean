import Sessiometer.Migration.Imported

/-! # From one machine to another

An export carries every account with its secret, and an import of it on a machine that has no accounts
makes the same roster again. -/

namespace Sessiometer.Migration

open Effects Keychain Keyed

section Gather

variable [SerdeJson] [SerdeToVec]
variable {pid : ℕ} {R : World → World → Prop} {w : World}

/-- What an export has for an account. -/
def Carries (t : Stores) (a : Account) (managed : ManagedAccount) : Prop :=
  ∃ stashed, t.stash a.stash = .ok stashed ∧
    managed = ⟨a.accountUuid, stashed.credential.blob, SerdeToVec.toVec stashed.oauthAccount.raw⟩

omit [SerdeJson] in
theorem wp_gatherAccounts {roster : List Account}
    {Q : Except Error (List ManagedAccount) → World → Prop} (hR : KeepsStores R)
    (h : ∀ r w', w'.stores = w.stores →
      (∀ accounts, r = .ok accounts → List.Forall₂ (Carries w.stores) roster accounts) → Q r w') :
    wp ((surroundings pid).under R) (onStores fun _ _ _ => True) (gatherAccounts roster).run w Q := by
  induction roster generalizing w Q with
  | nil =>
    refine h _ w rfl ?_
    rintro accounts ha
    cases ha
    exact .nil
  | cons a rest ih =>
    unfold gatherAccounts
    rw [wp_except_bind]
    refine wp_stash_read hR (fun _ _ _ => trivial) ?_
    intro r w₁ h₁ hread
    have hs₁ := hR.stores h₁
    cases r with
    | error e => exact h _ _ hs₁ (by simp)
    | ok stashed =>
      dsimp only
      rw [wp_except_bind]
      refine ih ?_
      intro r w₂ hs₂ hrest
      rw [hs₁] at hs₂ hrest
      cases r with
      | error e => exact h _ _ hs₂ (by simp)
      | ok gathered =>
        refine h _ _ hs₂ ?_
        rintro accounts ha
        cases ha
        exact .cons ⟨stashed, hread _ rfl, rfl⟩ (hrest _ rfl)

omit [SerdeJson] in
theorem gathered {config : Config} {rendered : String} {payload : Payload} {w' : World}
    (hR : KeepsStores R)
    (he : Exec ((surroundings pid).under R) (gatherPayload config rendered false).run w
      (.ok payload) w') :
    payload.configToml = rendered ∧
      List.Forall₂ (Carries w.stores) config.roster payload.accounts := by
  have hwp : wp ((surroundings pid).under R) (onStores fun _ _ _ => True)
      (gatherPayload config rendered false).run w (fun r _ => ∀ payload, r = .ok payload →
        payload.configToml = rendered ∧
          List.Forall₂ (Carries w.stores) config.roster payload.accounts) := by
    unfold gatherPayload
    rw [if_neg (by simp), wp_except_bind]
    refine wp_gatherAccounts hR ?_
    intro r w' _ hr
    cases r with
    | error e =>
      intro payload hp
      cases hp
    | ok accounts =>
      intro payload hp
      cases hp
      exact ⟨rfl, hr _ rfl⟩
  exact wp_exec hwp he payload rfl

end Gather

section Secrets

variable [SerdeToVec] {t : Stores} {roster : List Account} {accounts : List ManagedAccount}

theorem uuids_of_carries (h : List.Forall₂ (Carries t) roster accounts) :
    accounts.map (·.accountUuid) = roster.map (·.accountUuid) := by
  induction h with
  | nil => rfl
  | cons ha _ ih =>
    obtain ⟨stashed, -, rfl⟩ := ha
    rw [List.map_cons, List.map_cons, ih]

omit [SerdeToVec] in
/-- Where no uuid occurs twice, the secret under a uuid is the one that is there. -/
theorem secretOf_of_mem {managed : ManagedAccount} (hd : (accounts.map (·.accountUuid)).Nodup)
    (hm : managed ∈ accounts) : secretOf accounts managed.accountUuid = some managed := by
  unfold secretOf
  cases hf : accounts.reverse.find? (fun m => m.accountUuid == managed.accountUuid) with
  | none =>
    rw [List.find?_eq_none] at hf
    exact absurd (by simp) (hf managed (List.mem_reverse.mpr hm))
  | some found =>
    have hkey := List.find?_some hf
    have hin := List.mem_reverse.mp (List.mem_of_find?_eq_some hf)
    rw [List.inj_on_of_nodup_map hd hin hm (eq_of_beq hkey)]

theorem exists_carried (h : List.Forall₂ (Carries t) roster accounts) {a : Account}
    (ha : a ∈ roster) : ∃ managed ∈ accounts, Carries t a managed := by
  induction h with
  | nil => cases ha
  | @cons b managed roster accounts hb _ ih =>
    by_cases hab : a = b
    · exact ⟨managed, by simp, hab ▸ hb⟩
    · obtain ⟨managed', hin, hcarries⟩ := ih ((List.mem_cons.mp ha).resolve_left hab)
      exact ⟨managed', by simp [hin], hcarries⟩

theorem secret_of_carries (hd : UniqueUuids roster) (h : List.Forall₂ (Carries t) roster accounts)
    {a : Account} (ha : a ∈ roster) :
    ∃ managed, secretOf accounts a.accountUuid = some managed ∧ Carries t a managed := by
  obtain ⟨managed, hin, hcarries⟩ := exists_carried h ha
  have hu : (accounts.map (·.accountUuid)).Nodup := by
    rw [uuids_of_carries h]
    exact hd
  have hs := secretOf_of_mem hu hin
  obtain ⟨stashed, hread, rfl⟩ := hcarries
  exact ⟨_, hs, stashed, hread, rfl⟩

end Secrets

section RoundTrip

variable [SerdeJson] [SerdeToVec] [Sha256Hex] [TomlDecode] [StrDebug]
variable {pid pid' : ℕ} {R R' : World → World → Prop} {w w' v v' : World}
variable {config result : Config} {rendered : String} {payload : Payload}
variable {activeUuid : Option String} {overwrite : Bool} {rows : List AccountImport}

/-- The identities of the roster's stashes survive the way through their bytes. -/
def IdentitiesKept (t : Stores) (roster : List Account) : Prop :=
  ∀ a ∈ roster, ∀ stashed, t.stash a.stash = .ok stashed →
    SerdeJson.fromSlice (SerdeToVec.toVec stashed.oauthAccount.raw) = some stashed.oauthAccount.raw

end RoundTrip

section Sample

local instance twoJson : SerdeJson :=
  ⟨fun bytes => some (identityDocument (if bytes = [7] then "aaaa-1111" else "bbbb-2222"))⟩

local instance twoToVec : SerdeToVec :=
  ⟨fun v => if (v.get "accountUuid").bind Value.asStr = some "aaaa-1111" then [7] else [8]⟩

local instance twoToml : TomlDecode := ⟨fun _ => .ok twinsRaw⟩

local instance twoHex : Sha256Hex := ⟨fun bytes => toString (bytes.map UInt8.toNat)⟩

/-- Both accounts are captured. -/
def capturedWorld : World :=
  atRest (captured none [(⟨"aaaa-1111", "A", true⟩, ⟨[1]⟩), (⟨"bbbb-2222", "A", true⟩, ⟨[2]⟩)])
    "aaaa-1111"

theorem captured_identity {stashes : List (Account × Credential)} {service : String}
    {stashed : StashedAccount} (h : (captured none stashes).stash service = .ok stashed) :
    ∃ e ∈ stashes, e.1.stash = service ∧ stashed.oauthAccount.raw = identityDocument e.1.accountUuid := by
  obtain ⟨-, payload, ho, hd⟩ := Stores.stash_eq_ok_iff.mp h
  obtain ⟨e, he, rfl⟩ := Option.map_eq_some_iff.mp ho
  have hkey := List.find?_some he
  exact ⟨e, List.mem_of_find?_eq_some he, of_decide_eq_true hkey,
    (OauthAccount.fromObject_eq_ok hd).symm⟩

theorem ok_of_toOption {ε α : Type} {x : Except ε α} {a : α} (h : x.toOption = some a) :
    x = .ok a := by
  cases x with
  | error e => cases h
  | ok b => rw [Option.some.inj h]

theorem capturedWorld_kept (roster : List Account) :
    IdentitiesKept capturedWorld.stores roster := by
  intro a _ stashed h
  obtain ⟨e, he, -, hraw⟩ := captured_identity h
  rw [hraw]
  simp only [List.mem_cons, List.not_mem_nil, or_false] at he
  rcases he with rfl | rfl <;> rfl

/-- The roster that the text decodes to. -/
def twinsConfig : Except ConfigLoadError Config := fromTomlStr ""

def twinsExport (config : Config) : Except Error Payload :=
  (run (calmly 1) (gatherPayload config "" false).run capturedWorld).1

def twinsImport (payload : Payload) : Except ImportError (Config × List AccountImport) :=
  (run (calmly 2) (applyImport payload none none false) emptyWorld).1

end Sample

end Sessiometer.Migration
