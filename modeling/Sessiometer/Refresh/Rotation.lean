import Sessiometer.Refresh.Phases
import Sessiometer.Refresh.Script

/-! # Two cycles of one account

Cycles of several processes that refresh the same parked account, with a server that replaces a refresh
token when it is presented. They share the isolated item, and only the compare-and-set is locked. -/

namespace Sessiometer

open Effects

/-! ## The client and the server -/

section Clients

variable [SerdeJson]

/-- What a client does to the item it finds: nothing, or it presents the refresh token. A live one is
exchanged for a new one, and the answer is saved unless the client is killed before; of one that is no
longer live the item is cleared. -/
inductive Rotating (session : String) (w : RefreshWorld) :
    Except Error Unit → RefreshWorld → Prop
  | unspawned (e : Error) : Rotating session w (.error e) w
  | idle : Rotating session w (.ok ()) w
  | exchanged {item saved : List UInt8} {token fresh : String} {expiry : Int} :
      (w.isolated session).item = some item → refreshToken item = some token →
      token = (w.grants session).live → fresh ∉ (w.grants session).issued → fresh ≠ "" →
      refreshToken saved = some fresh → expiresAt saved = some expiry →
      (∀ before, expiresAt item = some before → before < expiry) →
      Rotating session w (.ok ())
        { w.setItem session (some saved) with
          grants := Function.update w.grants session ⟨fresh, fresh :: (w.grants session).issued⟩ }
  | killed {item : List UInt8} {token fresh : String} :
      (w.isolated session).item = some item → refreshToken item = some token →
      token = (w.grants session).live → fresh ∉ (w.grants session).issued → fresh ≠ "" →
      Rotating session w (.ok ())
        { w with
          grants := Function.update w.grants session ⟨fresh, fresh :: (w.grants session).issued⟩ }
  | refused {item cleared : List UInt8} {token : String} :
      (w.isolated session).item = some item → refreshToken item = some token →
      token ≠ (w.grants session).live → refreshToken cleared = some "" →
      Rotating session w (.ok ()) (w.setItem session (some cleared))

end Clients

/-! ## What the world holds of an account -/

structure Holdings where
  credential : Option (List UInt8)
  oauth : Option OauthPayload
  item : Option (List UInt8)
  grants : Grants

def RefreshWorld.holdings (w : RefreshWorld) (account : Account) : Holdings where
  credential := w.world.stores.credentialItem account.stash
  oauth := w.world.stores.oauthItem account.stash
  item := (w.isolated account.accountUuid).item
  grants := w.grants account.accountUuid

/-- Others may do as they like with everything else. -/
def Parked (account : Account) (w w' : RefreshWorld) : Prop := w'.holdings account = w.holdings account

theorem holdings_setDir (w : RefreshWorld) (account : Account) (session : String)
    (dir claudeJson : Bool) : (w.setDir session dir claudeJson).holdings account = w.holdings account := by
  have hitem : ((w.setDir session dir claudeJson).isolated account.accountUuid).item =
      (w.isolated account.accountUuid).item := by
    by_cases h : account.accountUuid = session
    · rw [h]
      exact RefreshWorld.setDir_item _ _ _ _
    · simp [RefreshWorld.setDir, RefreshWorld.setIsolated, Function.update_of_ne h]
  unfold RefreshWorld.holdings
  rw [hitem]
  rfl

theorem holdings_setItem (w : RefreshWorld) (account : Account) (item : Option (List UInt8)) :
    (w.setItem account.accountUuid item).holdings account = { w.holdings account with item := item } := by
  unfold RefreshWorld.holdings
  rw [RefreshWorld.setItem_item]
  rfl

/-- The operations that may change what the world holds of an account. -/
def changesHoldings : CycleSeams.Op → Bool
  | .inl o => o.writesStores
  | .inr (.seed _ _) => true
  | .inr (.spawn _) => true
  | .inr (.delete _) => true
  | .inr (.deleteBlocking _) => true
  | .inr _ => false

theorem holdings_kept {client : Client} {pid : ℕ} {w w' : RefreshWorld} (account : Account)
    {o : CycleSeams.Op} {r : CycleSeams.Reply o} (ho : changesHoldings o = false)
    (hd : refreshing client pid o w r w') : w'.holdings account = w.holdings account := by
  cases o with
  | inl o =>
    have hstores := surroundings_stores ho hd.1
    unfold RefreshWorld.holdings
    rw [hstores, hd.2.1, hd.2.2]
  | inr o =>
    cases o with
    | createIsolatedDir session =>
      cases r with
      | ok =>
        rw [show w' = _ from hd]
        exact holdings_setDir _ _ _ _ _
      | error e =>
        obtain ⟨dir, claudeJson, rfl⟩ := hd
        exact holdings_setDir _ _ _ _ _
    | writeClaudeJson session =>
      rcases hd with rfl | rfl
      · rfl
      · exact holdings_setDir _ _ _ _ _
    | readBack session => rw [hd.1]
    | removeDirAll session =>
      obtain ⟨dir, claudeJson, rfl⟩ := hd
      exact holdings_setDir _ _ _ _ _
    | sleep => rw [show w' = w from hd]
    | seed | spawn | delete | deleteBlocking => cases ho

/-! ## What back-dating leaves of a credential -/

theorem Value.lookup_insertField_of_ne {key other : String} (h : other ≠ key) (v : Value)
    (fields : List (String × Value)) :
    (Value.insertField key v fields).lookup other = fields.lookup other := by
  induction fields with
  | nil =>
    have hne : (other == key) = false := by simp [h]
    simp [Value.insertField, List.lookup_cons, hne]
  | cons f rest ih =>
    obtain ⟨k, u⟩ := f
    unfold Value.insertField
    by_cases hk : k = key
    · have hne : (other == k) = false := by simp [hk, h]
      have hne' : (other == key) = false := by simp [h]
      rw [if_pos hk, List.lookup_cons, List.lookup_cons, hne, hne']
    · rw [if_neg hk, List.lookup_cons, List.lookup_cons, ih]

theorem Value.get_insert_of_ne {root root' : Value} {key other : String} {v : Value}
    (h : root.insert key v = some root') (hne : other ≠ key) : root'.get other = root.get other := by
  cases root with
  | object fields =>
    simp only [Value.insert, Option.some.injEq] at h
    subst h
    exact Value.lookup_insertField_of_ne hne v fields
  | _ => simp [Value.insert] at h

section Backdating

variable [SerdeJson] [SerdeToVec]

/-- A document that was parsed, once its expiry is replaced and it is written out, parses to one with the
same refresh token and with the new expiry. -/
def ReparsesBackdated (nowMs : Int) : Prop :=
  ∀ blob value oauth oauth' value' field, SerdeJson.fromSlice blob = some value →
    value.get "claudeAiOauth" = some oauth → oauth.insert "expiresAt" (.int nowMs) = some oauth' →
    value.insert "claudeAiOauth" oauth' = some value' → field = "refreshToken" ∨ field = "expiresAt" →
    oauthField (SerdeToVec.toVec value') field = oauth'.get field

variable {blob seed : List UInt8} {nowMs : Int}

theorem backdate_fields (hserde : ReparsesBackdated nowMs) (h : backdate blob nowMs = some seed)
    {field : String} (hfield : field = "refreshToken" ∨ field = "expiresAt") :
    oauthField seed field =
      if field = "expiresAt" then some (.int nowMs) else oauthField blob field := by
  unfold backdate at h
  simp only [Option.bind_eq_bind, Option.bind_eq_some_iff, Option.pure_def, Option.some.injEq] at h
  obtain ⟨value, hvalue, oauth, hoauth, oauth', hinsert, value', hinsert', rfl⟩ := h
  rw [hserde blob value oauth oauth' value' field hvalue hoauth hinsert hinsert' hfield]
  by_cases hf : field = "expiresAt"
  · rw [if_pos hf, hf]
    exact Value.get_insert hinsert
  · unfold oauthField
    rw [if_neg hf, hvalue, Option.bind_some, hoauth, Option.bind_some]
    exact Value.get_insert_of_ne hinsert hf

theorem backdate_refreshToken (hserde : ReparsesBackdated nowMs) (h : backdate blob nowMs = some seed) :
    refreshToken seed = refreshToken blob := by
  unfold refreshToken
  rw [backdate_fields hserde h (.inl rfl), if_neg (by decide)]

theorem backdate_expiresAt (hserde : ReparsesBackdated nowMs) (h : backdate blob nowMs = some seed)
    (hi64 : -9223372036854775808 ≤ nowMs ∧ nowMs < 9223372036854775808) :
    expiresAt seed = some nowMs := by
  unfold expiresAt
  rw [backdate_fields hserde h (.inr rfl), if_pos rfl, Option.bind_some]
  exact if_pos hi64

end Backdating

/-! ## What the read-back is taken for -/

section Classes

variable [SerdeJson] {original seed after : List UInt8}

theorem classify_cleared (h : refreshToken after = some "") :
    (classify original seed after).1 = .dead := by
  simp [classify, h]

/-- A copy that the client has not touched is never taken for a refreshed one. -/
theorem classify_untouched (rotated : Bool) : (classify original seed seed).1 ≠ .refreshed rotated := by
  unfold classify
  dsimp only
  cases refreshToken seed with
  | none => simp
  | some token =>
    dsimp only
    by_cases h : token = ""
    · simp [h]
    · rw [if_neg h]
      cases expiresAt seed with
      | none => simp
      | some expiry => simp

theorem classify_saved {token : String} {before expiry : Int} (htoken : refreshToken after = some token)
    (hne : token ≠ "") (hbefore : expiresAt seed = some before) (hexpiry : expiresAt after = some expiry)
    (hlt : before < expiry) : ∃ rotated, (classify original seed after).1 = .refreshed rotated := by
  refine ⟨(refreshToken seed).any (fun seededRt => decide (seededRt ≠ token)), ?_⟩
  unfold classify
  simp only [htoken, hne, if_false, hexpiry, hbefore, hlt, if_true]

end Classes

end Sessiometer
