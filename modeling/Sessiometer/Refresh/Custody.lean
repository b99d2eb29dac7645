import Sessiometer.Refresh.Rotation
import Mathlib.Data.Fintype.Basic

/-! # Who has the live token

Cycles of one account keep its refresh token as long as no other cycle touches the isolated item from
the seeding of one to its read-back, and a cycle whose client has exchanged the token gets to store it. -/

namespace Sessiometer

open Effects

/-! ## Careful runs -/

/-- Which cycles are between their seeding and their read-back, and whose client was the last to exchange
the token. -/
structure Custody (ι : Type) where
  inUse : ι → Bool
  exchanger : Option ι

def touchesItem : CycleSeams.Op → Bool
  | .inr (.seed _ _) => true
  | .inr (.spawn _) => true
  | .inr (.delete _) => true
  | .inr (.deleteBlocking _) => true
  | _ => false

namespace Custody

variable {ι : Type} [DecidableEq ι]

def unused : Custody ι := ⟨fun _ => false, none⟩

def after (c : Custody ι) (i : ι) (o : CycleSeams.Op) (exchanged : Bool) : Custody ι where
  inUse := match o with
    | .inr (.seed _ _) => Function.update c.inUse i true
    | .inr (.readBack _) => Function.update c.inUse i false
    | .inr (.delete _) => Function.update c.inUse i false
    | .inr (.deleteBlocking _) => Function.update c.inUse i false
    | _ => c.inUse
  exchanger := if exchanged then some i else c.exchanger

theorem after_inUse_of_ne (c : Custody ι) {i j : ι} (h : j ≠ i) (o : CycleSeams.Op) (exchanged : Bool) :
    (c.after i o exchanged).inUse j = c.inUse j := by
  unfold after
  dsimp only
  split <;> simp [Function.update_of_ne h]

@[simp] theorem after_exchanger_false (c : Custody ι) (i : ι) (o : CycleSeams.Op) :
    (c.after i o false).exchanger = c.exchanger := rfl

@[simp] theorem after_exchanger_true (c : Custody ι) (i : ι) (o : CycleSeams.Op) :
    (c.after i o true).exchanger = some i := rfl

end Custody

/-- A read, a write or a lock that the storing of a refreshed credential needs has failed. -/
def failed : Occurrence CycleSeams → Bool
  | ⟨.inl .acquireSwapLock, r⟩ => !(r : Except Error Unit).isOk
  | ⟨.inl (.findCredential _), r⟩ => !(r : Except Error (List UInt8)).isOk
  | ⟨.inl (.findOauthAccount _), r⟩ => !(r : Except Error OauthPayload).isOk
  | ⟨.inl (.addCredential _ _), r⟩ => !(r : Except Error Unit).isOk
  | ⟨.inr (.readBack _), r⟩ => !(r : Except Error Credential).isOk
  | _ => false

section Steps

variable [SerdeJson]

/-- The stash does not hold the live token. -/
def Holdings.Exposed (v : Holdings) : Prop := v.credential.bind refreshToken ≠ some v.grants.live

instance (v : Holdings) : Decidable v.Exposed := inferInstanceAs (Decidable (_ ≠ _))

variable {ι : Type} [DecidableEq ι]

/-- An operation of cycle `i` that puts no token at risk. -/
structure Careful (c : Custody ι) (i : ι) (l : Occurrence CycleSeams) (v v' : Holdings) : Prop where
  exclusive : touchesItem l.1 = true → ∀ j, j ≠ i → c.inUse j = false
  stored : c.exchanger = some i → v.Exposed → failed l = false
  saved : v'.grants.live ≠ v.grants.live → v'.item.bind refreshToken = some v'.grants.live

instance [Fintype ι] (c : Custody ι) (i : ι) (l : Occurrence CycleSeams) (v v' : Holdings) :
    Decidable (Careful c i l v v') :=
  decidable_of_iff ((touchesItem l.1 = true → ∀ j, j ≠ i → c.inUse j = false) ∧
      (c.exchanger = some i → v.Exposed → failed l = false) ∧
      (v'.grants.live ≠ v.grants.live → v'.item.bind refreshToken = some v'.grants.live))
    ⟨fun h => ⟨h.1, h.2.1, h.2.2⟩, fun h => ⟨h.exclusive, h.stored, h.saved⟩⟩

/-- Cycles of one account, and who has its token. -/
structure GuardedCycles (ι : Type) where
  pool : Pool CycleSeams ι (Except Error RefreshReport) RefreshWorld
  custody : Custody ι

def GuardedCycles.holdings (account : Account) (s : GuardedCycles ι) : Holdings := s.pool.world.holdings account

structure CarefulStep (D : ι → Device CycleSeams RefreshWorld) (account : Account) (s : GuardedCycles ι)
    (l : ι × Occurrence CycleSeams) (s' : GuardedCycles ι) : Prop where
  step : PoolStep D s.pool l s'.pool
  careful : Careful s.custody l.1 l.2 (s.holdings account) (s'.holdings account)
  custody : s'.custody = s.custody.after l.1 l.2.1
    (decide ((s'.holdings account).grants.live ≠ (s.holdings account).grants.live))

end Steps

/-! ## What a cycle knows -/

section Phases

variable [SerdeJson] (account : Account)

def Decodes (v : Holdings) : Prop :=
  ∃ payload oauth, v.oauth = some payload ∧ AccountStash.decodeOauth account.stash payload = .ok oauth

/-- A credential that was read from the stash: the stash still holds it, or its token is spent. -/
def Known (v : Holdings) (blob : List UInt8) : Prop :=
  (v.credential = some blob ∨ refreshToken blob ≠ some v.grants.live) ∧
    ∀ token, refreshToken blob = some token → token ∈ v.grants.issued

/-- The copy that a cycle is about to give to its client. -/
structure Primed [SerdeToVec] (nowMs : Int) (v : Holdings) (m : Minting) : Prop where
  known : Known v m.snapshot.credential.blob
  seed : backdate m.snapshot.credential.blob nowMs = some m.seed
  decodes : Decodes account v

/-- The item has the refreshed credential. -/
structure Exchanged (v : Holdings) (m : Minting) : Prop where
  saved : ∃ item before expiry, v.item = some item ∧ refreshToken item = some v.grants.live ∧
    v.grants.live ≠ "" ∧ expiresAt m.seed = some before ∧ expiresAt item = some expiry ∧ before < expiry
  credential : v.credential = some m.snapshot.credential.blob
  decodes : Decodes account v

/-- The cycle itself has the refreshed credential. -/
structure Fetched (v : Holdings) (m : Minted) : Prop where
  token : refreshToken m.after.blob = some v.grants.live
  credential : v.credential = some m.snapshot.credential.blob
  decodes : Decodes account v

/-- A cycle between its seeding and its read-back. -/
def UsesItem : CyclePhase → Prop
  | .writingClaudeJson _ => True
  | .spawning _ => True
  | .readingBack _ => True
  | _ => False

/-- What holds of a cycle that does not have the live token. -/
def Idle [SerdeToVec] (nowMs : Int) (v : Holdings) : CyclePhase → Prop
  | .readingOauth blob => Known v blob
  | .unlocking r => ∀ snapshot, r = .ok snapshot → Known v snapshot.credential.blob ∧ Decodes account v
  | .creating m => Primed account nowMs v m
  | .seeding m => Primed account nowMs v m
  | .writingClaudeJson m => Primed account nowMs v m ∧ v.item = some m.seed
  | .spawning m => Primed account nowMs v m ∧ v.item = some m.seed
  | .readingBack m => v.item = some m.seed ∨ v.item.bind refreshToken = some ""
  | .relocking _ => False
  | .rereadingCredential _ => False
  | .rereadingOauth _ _ => False
  | .restashingCredential _ => False
  | _ => True

/-- What holds of the one that has it while the stash does not. -/
def Holding (v : Holdings) : CyclePhase → Prop
  | .readingBack m => Exchanged account v m
  | .relocking m => Fetched account v m
  | .rereadingCredential m => Fetched account v m
  | .rereadingOauth m blob => Fetched account v m ∧ blob = m.snapshot.credential.blob
  | .restashingCredential m => Fetched account v m
  | _ => False

end Phases

/-! ## What the others leave of it -/

section Frames

variable [SerdeJson] {account : Account} {v v' : Holdings}

theorem Idle.mono [SerdeToVec] {nowMs : Int} {φ : CyclePhase} (h : Idle account nowMs v φ)
    (hitem : UsesItem φ → v'.item = v.item) (hknown : ∀ blob, Known v blob → Known v' blob)
    (hdecodes : Decodes account v → Decodes account v') : Idle account nowMs v' φ := by
  have hprimed : ∀ m, Primed account nowMs v m → Primed account nowMs v' m :=
    fun m hm => ⟨hknown _ hm.known, hm.seed, hdecodes hm.decodes⟩
  cases φ with
  | readingOauth blob => exact hknown blob h
  | unlocking r =>
    intro snapshot hr
    exact ⟨hknown _ (h snapshot hr).1, hdecodes (h snapshot hr).2⟩
  | creating m => exact hprimed m h
  | seeding m => exact hprimed m h
  | writingClaudeJson m => exact ⟨hprimed m h.1, (hitem trivial).trans h.2⟩
  | spawning m => exact ⟨hprimed m h.1, (hitem trivial).trans h.2⟩
  | readingBack m =>
    have hsame := hitem trivial
    change v'.item = some m.seed ∨ v'.item.bind refreshToken = some ""
    rw [hsame]
    exact h
  | _ => exact h

theorem Fetched.mono {m : Minted} (h : Fetched account v m) (hcredential : v'.credential = v.credential)
    (hgrants : v'.grants = v.grants) (hdecodes : Decodes account v → Decodes account v') :
    Fetched account v' m := by
  constructor
  · rw [hgrants]
    exact h.token
  · exact hcredential.trans h.credential
  · exact hdecodes h.decodes

theorem Holding.mono {φ : CyclePhase} (h : Holding account v φ) (hitem : UsesItem φ → v'.item = v.item)
    (hcredential : v'.credential = v.credential) (hgrants : v'.grants = v.grants)
    (hdecodes : Decodes account v → Decodes account v') : Holding account v' φ := by
  cases φ with
  | readingBack m =>
    obtain ⟨hsaved, hsnapshot, hoauth⟩ := h
    constructor
    · rw [hitem trivial, hgrants]
      exact hsaved
    · exact hcredential.trans hsnapshot
    · exact hdecodes hoauth
  | relocking m => exact Fetched.mono h hcredential hgrants hdecodes
  | rereadingCredential m => exact Fetched.mono h hcredential hgrants hdecodes
  | rereadingOauth m blob => exact ⟨Fetched.mono h.1 hcredential hgrants hdecodes, h.2⟩
  | restashingCredential m => exact Fetched.mono h hcredential hgrants hdecodes
  | _ => exact h

/-- A credential known before an exchange does not have the new token. -/
theorem Known.exchanged {blob : List UInt8} {fresh : String} (h : Known v blob)
    (hfresh : fresh ∉ v.grants.issued) (hcredential : v'.credential = v.credential)
    (hgrants : v'.grants = ⟨fresh, fresh :: v.grants.issued⟩) : Known v' blob := by
  rw [Known, hcredential, hgrants]
  constructor
  · right
    intro htoken
    exact hfresh (h.2 fresh htoken)
  · intro token htoken
    exact List.mem_cons_of_mem _ (h.2 token htoken)

/-- One known before a new credential is stored is spent if it was the stored one. -/
theorem Known.restashed {blob : List UInt8} (h : Known v blob) (hexposed : v.Exposed)
    (hgrants : v'.grants = v.grants) : Known v' blob := by
  rw [Known, hgrants]
  refine ⟨?_, h.2⟩
  right
  rcases h.1 with hstored | hspent
  · intro htoken
    apply hexposed
    rw [hstored]
    exact htoken
  · exact hspent

end Frames

/-! ## What the operations do to the holdings -/

section Operations

variable {client : Client} {pid : ℕ} {account : Account} {w w' : RefreshWorld}

theorem credential_read {r : Except Error (List UInt8)} {blob : List UInt8}
    (hd : refreshing client pid (.inl (.findCredential account.stash)) w r w') (hr : r = .ok blob) :
    (w.holdings account).credential = some blob := by
  subst hr
  exact hd.1.2

theorem oauth_read {r : Except Error OauthPayload} {payload : OauthPayload}
    (hd : refreshing client pid (.inl (.findOauthAccount account.stash)) w r w') (hr : r = .ok payload) :
    (w.holdings account).oauth = some payload := by
  subst hr
  exact hd.1.2

theorem item_read {r : Except Error Credential} {after : Credential}
    (hd : refreshing client pid (.inr (.readBack account.accountUuid)) w r w') (hr : r = .ok after) :
    (w.holdings account).item = some after.blob := by
  subst hr
  obtain ⟨item, hitem, rfl⟩ := Option.map_eq_some_iff.mp hd.2
  exact hitem

theorem item_seeded {r : Except Error Unit} {seed : List UInt8}
    (hd : refreshing client pid (.inr (.seed account.accountUuid seed)) w r w') :
    ∃ item, w'.holdings account = { w.holdings account with item := item } ∧
      (r = .ok () → item = some seed) := by
  cases r with
  | ok =>
    refine ⟨some seed, ?_, fun _ => rfl⟩
    rw [show w' = _ from hd]
    exact holdings_setItem w account (some seed)
  | error e =>
    rcases hd with rfl | rfl
    · exact ⟨(w'.holdings account).item, rfl, nofun⟩
    · exact ⟨some seed, holdings_setItem w account (some seed), nofun⟩

theorem item_deleted {r : Except Error Unit}
    (hd : refreshing client pid (.inr (.delete account.accountUuid)) w r w') :
    ∃ item, w'.holdings account = { w.holdings account with item := item } := by
  cases r with
  | ok =>
    rw [show w' = _ from hd]
    exact ⟨none, holdings_setItem w account none⟩
  | error e =>
    rcases hd with rfl | rfl
    · exact ⟨(w'.holdings account).item, rfl⟩
    · exact ⟨none, holdings_setItem w account none⟩

theorem item_deletedBlocking {r : Unit}
    (hd : refreshing client pid (.inr (.deleteBlocking account.accountUuid)) w r w') :
    ∃ item, w'.holdings account = { w.holdings account with item := item } := by
  rcases hd with rfl | rfl
  · exact ⟨(w'.holdings account).item, rfl⟩
  · exact ⟨none, holdings_setItem w account none⟩

theorem credential_written {r : Except Error Unit} {blob : List UInt8}
    (hd : refreshing client pid (.inl (.addCredential account.stash blob)) w r w') (hr : r = .ok ()) :
    w'.holdings account = { w.holdings account with credential := some blob } := by
  subst hr
  obtain ⟨hworld, hisolated, hgrants⟩ := hd
  unfold RefreshWorld.holdings
  rw [show w'.world = _ from hworld, hisolated, hgrants]
  simp [Stores.setCredential]

theorem oauth_written {r : Except Error Unit} {raw : Value}
    (hd : refreshing client pid (.inl (.addOauthAccount account.stash raw)) w r w') :
    w'.holdings account = w.holdings account ∨
      w'.holdings account = { w.holdings account with oauth := some (.document raw) } := by
  obtain ⟨hworld, hisolated, hgrants⟩ := hd
  unfold RefreshWorld.holdings
  rw [hisolated, hgrants]
  have hstores : w'.world = w.world ∨
      w'.world = w.world.setStores (w.world.stores.setOauthAccount account.stash raw) := by
    cases r with
    | ok => exact .inr hworld
    | error e => exact hworld
  rcases hstores with h | h
  · left
    rw [h]
  · right
    rw [h]
    simp [Stores.setOauthAccount]

/-- What a client that was given its chance has done. -/
theorem rotating_holdings [SerdeJson] {r : Except Error Unit} (h : Rotating account.accountUuid w r w') :
    w'.holdings account = w.holdings account ∨
    (∃ cleared, refreshToken cleared = some "" ∧
      w'.holdings account = { w.holdings account with item := some cleared }) ∨
    ∃ item fresh, (w.holdings account).item = some item ∧
      refreshToken item = some (w.holdings account).grants.live ∧
      fresh ∉ (w.holdings account).grants.issued ∧ fresh ≠ "" ∧
      (w'.holdings account = { w.holdings account with
          grants := ⟨fresh, fresh :: (w.holdings account).grants.issued⟩ } ∨
        r = .ok () ∧ ∃ saved expiry, refreshToken saved = some fresh ∧ expiresAt saved = some expiry ∧
          (∀ before, expiresAt item = some before → before < expiry) ∧
          w'.holdings account = { w.holdings account with
            item := some saved, grants := ⟨fresh, fresh :: (w.holdings account).grants.issued⟩ }) := by
  cases h with
  | unspawned e => exact .inl rfl
  | idle => exact .inl rfl
  | @exchanged item saved token fresh expiry hitem htoken hlive hfresh hne hsaved hexpiry hlater =>
    right
    right
    refine ⟨item, fresh, hitem, hlive ▸ htoken, hfresh, hne, .inr ⟨rfl, saved, expiry, hsaved, hexpiry,
      hlater, ?_⟩⟩
    simp [RefreshWorld.holdings, RefreshWorld.setItem, RefreshWorld.setIsolated]
  | @killed item token fresh hitem htoken hlive hfresh hne =>
    right
    right
    refine ⟨item, fresh, hitem, hlive ▸ htoken, hfresh, hne, .inl ?_⟩
    simp [RefreshWorld.holdings]
  | @refused item cleared token hitem htoken hlive hcleared =>
    right
    left
    exact ⟨cleared, hcleared, holdings_setItem w account (some cleared)⟩

end Operations

/-! ## The steps of one cycle -/

section Cycles

variable [SerdeJson] [SerdeToVec] {client : Client} {pid : ℕ} {account : Account} {nowMs : Int}
variable {w w' : RefreshWorld} {v : Holdings} {o : CycleSeams.Op} {r : CycleSeams.Reply o}
variable {φ : CyclePhase}

theorem idle_ending (result : Except Error RefreshReport) :
    Idle account nowMs v (.ending result) := trivial

theorem idle_tearingDown (result : Except Error RefreshReport) (n : ℕ) :
    Idle account nowMs v (CyclePhase.tearingDown result n) := by
  cases n <;> trivial

theorem idle_snapshotted {read : Except Error StashedAccount}
    (h : ∀ snapshot, read = .ok snapshot → Known v snapshot.credential.blob ∧ Decodes account v) :
    Idle account nowMs v (.snapshotted nowMs read) := by
  cases read with
  | error e => trivial
  | ok snapshot =>
    obtain ⟨hknown, hdecodes⟩ := h snapshot rfl
    unfold CyclePhase.snapshotted
    dsimp only
    cases hseed : backdate snapshot.credential.blob nowMs with
    | none => trivial
    | some seed => exact ⟨hknown, hseed, hdecodes⟩

/-- An item that is untouched or cleared leads to no write. -/
theorem idle_classified {m : Minting} {after : Credential} (hread : v.item = some after.blob)
    (h : v.item = some m.seed ∨ v.item.bind refreshToken = some "") :
    Idle account nowMs v (.classified m after) := by
  have hnot : ∀ rotated, (classify m.snapshot.credential.blob m.seed after.blob).1 ≠ .refreshed rotated := by
    intro rotated
    rw [hread] at h
    rcases h with h | h
    · rw [Option.some.inj h]
      exact classify_untouched rotated
    · rw [classify_cleared h]
      simp
  unfold CyclePhase.classified
  split
  · next rotated delta hclass => exact absurd (congrArg Prod.fst hclass) (hnot rotated)
  · exact idle_ending _

/-- What a cycle that does not have the token does without touching anything. -/
theorem idle_quiet (h : Idle account nowMs v φ) (hn : φ.next account = .inl o)
    (hquiet : changesHoldings o = false) (hd : refreshing client pid o w r w')
    (hv : w.holdings account = v)
    (hstored : ∀ blob token, v.credential = some blob → refreshToken blob = some token →
      token ∈ v.grants.issued) :
    Idle account nowMs v (φ.after account nowMs o r) := by
  subst hv
  cases φ with
  | locking =>
    obtain rfl := Sum.inl.inj hn
    cases r <;> trivial
  | readingCredential =>
    obtain rfl := Sum.inl.inj hn
    cases r with
    | ok blob =>
      have hread := credential_read hd rfl
      exact ⟨.inl hread, fun token => hstored blob token hread⟩
    | error e => exact nofun
  | readingOauth blob =>
    obtain rfl := Sum.inl.inj hn
    cases r with
    | error e => exact nofun
    | ok payload =>
      have hread := oauth_read hd rfl
      intro snapshot hsnapshot
      cases hdecoded : AccountStash.decodeOauth account.stash payload with
      | error e => simp [hdecoded] at hsnapshot
      | ok oauth =>
        simp only [hdecoded, Except.ok.injEq] at hsnapshot
        subst hsnapshot
        exact ⟨h, payload, oauth, hread, hdecoded⟩
  | unlocking read =>
    obtain rfl := Sum.inl.inj hn
    exact idle_snapshotted h
  | creating m =>
    obtain rfl := Sum.inl.inj hn
    cases r with
    | ok => exact h
    | error e => trivial
  | writingClaudeJson m =>
    obtain rfl := Sum.inl.inj hn
    cases r with
    | ok => exact h
    | error e => exact idle_ending _
  | readingBack m =>
    obtain rfl := Sum.inl.inj hn
    cases r with
    | ok after => exact idle_classified (item_read hd rfl) h
    | error e => exact idle_ending _
  | reunlocking m result =>
    obtain rfl := Sum.inl.inj hn
    exact idle_ending _
  | sleeping left result =>
    obtain rfl := Sum.inl.inj hn
    exact idle_tearingDown result left
  | removing result =>
    obtain rfl := Sum.inl.inj hn
    trivial
  | relocking | rereadingCredential | rereadingOauth | restashingCredential => exact h.elim
  | seeding | spawning | restashingOauth | deleting | deletingBlocking =>
    obtain rfl := Sum.inl.inj hn
    cases hquiet
  | finished result => cases hn

omit [SerdeToVec] in
/-- The refreshed credential is taken for one. -/
theorem holding_classified {m : Minting} {after : Credential} (hread : v.item = some after.blob)
    (h : Exchanged account v m) : Holding account v (.classified m after) := by
  obtain ⟨item, before, expiry, hitem, htoken, hne, hbefore, hexpiry, hlater⟩ := h.saved
  obtain rfl : item = after.blob := Option.some.inj (hitem.symm.trans hread)
  obtain ⟨rotated, hrefreshed⟩ : ∃ rotated,
      (classify m.snapshot.credential.blob m.seed after.blob).1 = .refreshed rotated :=
    classify_saved htoken hne hbefore hexpiry hlater
  unfold CyclePhase.classified
  generalize classify m.snapshot.credential.blob m.seed after.blob = taken at hrefreshed ⊢
  obtain ⟨outcome, delta⟩ := taken
  obtain rfl : outcome = .refreshed rotated := hrefreshed
  exact ⟨htoken, h.credential, h.decodes⟩

/-- A cycle that has the token goes on to store it. -/
theorem holding_quiet (h : Holding account v φ) (hn : φ.next account = .inl o)
    (hquiet : changesHoldings o = false) (hd : refreshing client pid o w r w')
    (hv : w.holdings account = v) (hkept : failed ⟨o, r⟩ = false) :
    Holding account v (φ.after account nowMs o r) := by
  subst hv
  cases φ with
  | readingBack m =>
    obtain rfl := Sum.inl.inj hn
    cases r with
    | ok after => exact holding_classified (item_read hd rfl) h
    | error e => cases hkept
  | relocking m =>
    obtain rfl := Sum.inl.inj hn
    cases r with
    | ok => exact h
    | error e => cases hkept
  | rereadingCredential m =>
    obtain rfl := Sum.inl.inj hn
    cases r with
    | ok blob =>
      have hread := credential_read hd rfl
      exact ⟨h, Option.some.inj (hread.symm.trans (Fetched.credential h))⟩
    | error e => cases hkept
  | rereadingOauth m blob =>
    obtain rfl := Sum.inl.inj hn
    obtain ⟨hfetched, rfl⟩ := h
    cases r with
    | ok payload =>
      obtain ⟨stored, oauth, hstored, hdecoded⟩ := hfetched.decodes
      obtain rfl : stored = payload := Option.some.inj (hstored.symm.trans (oauth_read hd rfl))
      have hafter : (CyclePhase.rereadingOauth m m.snapshot.credential.blob).after account nowMs
          (.inl (.findOauthAccount account.stash)) (.ok stored) = .restashingCredential m := by
        simp [CyclePhase.after, hdecoded, Credential.matches]
      rw [hafter]
      exact hfetched
    | error e => cases hkept
  | restashingCredential m =>
    obtain rfl := Sum.inl.inj hn
    cases hquiet
  | _ => exact h.elim

end Cycles

/-! ## The steps of a pool -/

section Pools

variable [SerdeJson] [SerdeToVec] {ι : Type} [DecidableEq ι]

/-- The stash holds the live token, or one cycle has it and goes on to store it. -/
def TokenHeld (account : Account) (nowMs : ι → Int) (exchanger : Option ι) (v : Holdings)
    (x : ι → CyclePhase) : Prop :=
  (¬ v.Exposed ∧ ∀ i, Idle account (nowMs i) v (x i)) ∨
    v.Exposed ∧ ∃ k, exchanger = some k ∧ Holding account v (x k) ∧
      ∀ i, i ≠ k → Idle account (nowMs i) v (x i)

/-- The server has issued the live token and the one that is stored. -/
structure Issued (v : Holdings) : Prop where
  live : v.grants.live ∈ v.grants.issued
  stored : ∀ blob token, v.credential = some blob → refreshToken blob = some token →
    token ∈ v.grants.issued

structure Kept (account : Account) (nowMs : ι → Int) (x : ι → CyclePhase) (s : GuardedCycles ι) : Prop where
  embodied : ∀ i, Embodies (cycleAutomaton account (nowMs i)) (s.pool.progs i) (x i)
  inUse : ∀ i, UsesItem (x i) → s.custody.inUse i = true
  issued : Issued (s.holdings account)
  held : TokenHeld account nowMs s.custody.exchanger (s.holdings account) x

variable {account : Account} {nowMs : ι → Int} {x : ι → CyclePhase} {exchanger : Option ι}
variable {v v' : Holdings} {i : ι} {φ : CyclePhase}

theorem TokenHeld.update (h : TokenHeld account nowMs exchanger v x) (hexposed : v'.Exposed ↔ v.Exposed)
    (hidle : Idle account (nowMs i) v (x i) → Idle account (nowMs i) v' φ)
    (hholding : v.Exposed → exchanger = some i → Holding account v (x i) → Holding account v' φ)
    (hidles : ∀ j, j ≠ i → Idle account (nowMs j) v (x j) → Idle account (nowMs j) v' (x j))
    (hholdings : ∀ j, j ≠ i → Holding account v (x j) → Holding account v' (x j)) :
    TokenHeld account nowMs exchanger v' (Function.update x i φ) := by
  have hmoved : ∀ j, (j = i → Idle account (nowMs i) v (x i)) → (j ≠ i → Idle account (nowMs j) v (x j)) →
      Idle account (nowMs j) v' (Function.update x i φ j) := by
    intro j hself hother
    by_cases hj : j = i
    · rw [hj, Function.update_self]
      exact hidle (hself hj)
    · rw [Function.update_of_ne hj]
      exact hidles j hj (hother hj)
  rcases h with ⟨hsafe, hall⟩ | ⟨hrisk, k, hk, hhold, hall⟩
  · left
    exact ⟨fun h => hsafe (hexposed.mp h), fun j => hmoved j (fun _ => hall i) (fun _ => hall j)⟩
  · right
    refine ⟨hexposed.mpr hrisk, k, hk, ?_, ?_⟩
    · by_cases hki : k = i
      · subst hki
        rw [Function.update_self]
        exact hholding hrisk hk hhold
      · rw [Function.update_of_ne hki]
        exact hholdings k hki hhold
    · intro j hj
      exact hmoved j (fun h => hall i (h ▸ hj)) (fun _ => hall j hj)

/-- A step that changes nothing but the item, which no other cycle uses. -/
theorem TokenHeld.item_changed {item : Option (List UInt8)} (h : TokenHeld account nowMs exchanger v x)
    (hv' : v' = { v with item := item }) (hothers : ∀ j, j ≠ i → ¬ UsesItem (x j))
    (hnot : ¬ Holding account v (x i))
    (hidle : Idle account (nowMs i) v (x i) → Idle account (nowMs i) v' φ) :
    TokenHeld account nowMs exchanger v' (Function.update x i φ) := by
  subst hv'
  have hexposed : Holdings.Exposed { v with item := item } ↔ v.Exposed := Iff.rfl
  apply h.update hexposed hidle
  · intro _ _ hholding
    exact absurd hholding hnot
  · intro j hj hidle
    exact hidle.mono (fun huses => absurd huses (hothers j hj)) (fun _ => id) id
  · intro j hj hholding
    exact hholding.mono (fun huses => absurd huses (hothers j hj)) rfl rfl id

/-- The client of a cycle has exchanged the token: the stash held it, and the item has the new one. -/
theorem TokenHeld.exchanged {m : Minting} {item saved : List UInt8} {fresh : String} {expiry : Int}
    (h : TokenHeld account nowMs exchanger v x) (hissued : Issued v)
    (hi : x i = .spawning m) (hserde : ReparsesBackdated (nowMs i))
    (hnow : -9223372036854775808 ≤ nowMs i ∧ nowMs i < 9223372036854775808)
    (hothers : ∀ j, j ≠ i → ¬ UsesItem (x j)) (hitem : v.item = some item)
    (htoken : refreshToken item = some v.grants.live) (hfresh : fresh ∉ v.grants.issued)
    (hne : fresh ≠ "") (hsaved : refreshToken saved = some fresh) (hexpiry : expiresAt saved = some expiry)
    (hlater : ∀ before, expiresAt item = some before → before < expiry)
    (hv' : v' = { v with item := some saved, grants := ⟨fresh, fresh :: v.grants.issued⟩ }) :
    TokenHeld account nowMs (some i) v' (Function.update x i (.readingBack m)) := by
  subst hv'
  have hidle : Idle account (nowMs i) v (.spawning m) := by
    rcases h with ⟨hsafe, hall⟩ | ⟨hrisk, k, hk, hhold, hall⟩
    · exact hi ▸ hall i
    · apply hi ▸ hall i
      rintro rfl
      rw [hi] at hhold
      exact hhold
  obtain ⟨⟨hknown, hseed, hdecodes⟩, hcopy⟩ := hidle
  obtain rfl : item = m.seed := Option.some.inj (hitem.symm.trans hcopy)
  have hsnapshot : refreshToken m.snapshot.credential.blob = some v.grants.live := by
    rw [← backdate_refreshToken hserde hseed]
    exact htoken
  have hcredential : v.credential = some m.snapshot.credential.blob :=
    hknown.1.resolve_right (fun hspent => hspent hsnapshot)
  have hsafe : ¬ v.Exposed := by
    intro hexposed
    apply hexposed
    rw [hcredential]
    exact hsnapshot
  have hall : ∀ j, Idle account (nowMs j) v (x j) := by
    rcases h with ⟨_, hall⟩ | ⟨hrisk, _⟩
    · exact hall
    · exact absurd hrisk hsafe
  right
  refine ⟨?_, i, rfl, ?_, ?_⟩
  · intro hstored
    apply hfresh
    apply hissued.stored _ fresh hcredential
    rw [← hstored]
    exact (congrArg (·.bind refreshToken) hcredential).symm
  · rw [Function.update_self]
    have hbefore := backdate_expiresAt hserde hseed hnow
    exact ⟨⟨saved, nowMs i, expiry, rfl, hsaved, hne, hbefore, hexpiry, hlater _ hbefore⟩, hcredential,
      hdecodes⟩
  · intro j hj
    rw [Function.update_of_ne hj]
    exact (hall j).mono (fun huses => absurd huses (hothers j hj))
      (fun _ hknown => hknown.exchanged hfresh rfl rfl) id

/-- A cycle that is not idle has the token. -/
theorem TokenHeld.holder (h : TokenHeld account nowMs exchanger v x) (hi : ¬ Idle account (nowMs i) v (x i)) :
    v.Exposed ∧ exchanger = some i ∧ Holding account v (x i) ∧
      ∀ j, j ≠ i → Idle account (nowMs j) v (x j) := by
  rcases h with ⟨hsafe, hall⟩ | ⟨hrisk, k, hk, hhold, hall⟩
  · exact absurd (hall i) hi
  · have hki : k = i := by
      by_contra hne
      exact hi (hall i (Ne.symm hne))
    subst hki
    exact ⟨hrisk, hk, hhold, hall⟩

/-- The cycle that has the token stores it. -/
theorem TokenHeld.restashed {m : Minted} (h : TokenHeld account nowMs exchanger v x)
    (hi : x i = .restashingCredential m) (hv' : v' = { v with credential := some m.after.blob }) :
    TokenHeld account nowMs exchanger v' (Function.update x i (.restashingOauth m)) := by
  subst hv'
  obtain ⟨hrisk, -, hhold, hall⟩ := h.holder (i := i) (by rw [hi]; exact id)
  rw [hi] at hhold
  have hfetched : Fetched account v m := hhold
  left
  constructor
  · intro hexposed
    exact hexposed hfetched.token
  · intro j
    by_cases hj : j = i
    · rw [hj, Function.update_self]
      trivial
    · rw [Function.update_of_ne hj]
      exact (hall j hj).mono (fun _ => rfl) (fun _ hknown => hknown.restashed hrisk rfl) id

/-- The cycle that uses the item is known to. -/
theorem usesItem_after {c : Custody ι} {nowMs : Int} {o : CycleSeams.Op} {r : CycleSeams.Reply o}
    {exchanged : Bool} (hn : φ.next account = .inl o) (huses : UsesItem φ → c.inUse i = true)
    (h : UsesItem (φ.after account nowMs o r)) : (c.after i o exchanged).inUse i = true := by
  have hending : ∀ result, ¬ UsesItem (.ending result) := fun _ => id
  cases φ with
  | seeding m =>
    obtain rfl := Sum.inl.inj hn
    exact Function.update_self _ _ _
  | writingClaudeJson m =>
    obtain rfl := Sum.inl.inj hn
    exact huses trivial
  | spawning m =>
    obtain rfl := Sum.inl.inj hn
    exact huses trivial
  | unlocking read =>
    obtain rfl := Sum.inl.inj hn
    exfalso
    revert h
    change ¬ UsesItem (.snapshotted nowMs read)
    unfold CyclePhase.snapshotted
    split
    · exact id
    · split <;> exact id
  | readingBack m =>
    obtain rfl := Sum.inl.inj hn
    exfalso
    cases r with
    | error e => exact hending _ h
    | ok after =>
      revert h
      change ¬ UsesItem (.classified m after)
      unfold CyclePhase.classified
      split
      · exact id
      · exact hending _
  | rereadingOauth m blob =>
    obtain rfl := Sum.inl.inj hn
    exfalso
    revert h
    unfold CyclePhase.after
    dsimp only
    split
    · split
      · split <;> exact id
      · exact id
    · exact id
  | sleeping left result =>
    obtain rfl := Sum.inl.inj hn
    exfalso
    cases left <;> exact h
  | finished result => cases hn
  | locking | readingCredential | readingOauth | creating | relocking | rereadingCredential
  | restashingCredential | restashingOauth | reunlocking | deleting | deletingBlocking | removing =>
    obtain rfl := Sum.inl.inj hn
    exfalso
    cases r <;> exact h

omit [SerdeToVec] in
theorem Issued.mono (h : Issued v) (hcredential : v'.credential = v.credential)
    (hgrants : v'.grants = v.grants) : Issued v' := by
  constructor
  · rw [hgrants]
    exact h.live
  · rw [hcredential, hgrants]
    exact h.stored

section Step

variable {c : Custody ι} {pid : ℕ} {w w' : RefreshWorld} {o : CycleSeams.Op} {r : CycleSeams.Reply o}

/-- What a client does to the item of a cycle that keeps it for itself. -/
theorem held_spawn {m : Minting} {r : Except Error Unit} (hserde : ReparsesBackdated (nowMs i))
    (hnow : -9223372036854775808 ≤ nowMs i ∧ nowMs i < 9223372036854775808)
    (hissued : Issued (w.holdings account))
    (hheld : TokenHeld account nowMs c.exchanger (w.holdings account) x) (hi : x i = .spawning m)
    (hothers : ∀ j, j ≠ i → ¬ UsesItem (x j)) (hd : Rotating account.accountUuid w r w')
    (hsaved : (w'.holdings account).grants.live ≠ (w.holdings account).grants.live →
      (w'.holdings account).item.bind refreshToken = some (w'.holdings account).grants.live) :
    Issued (w'.holdings account) ∧
      TokenHeld account nowMs
        (if (w'.holdings account).grants.live ≠ (w.holdings account).grants.live then some i
          else c.exchanger)
        (w'.holdings account)
        (Function.update x i ((CyclePhase.spawning m).after account (nowMs i)
          (.inr (.spawn account.accountUuid)) r)) := by
  have hnot : ¬ Holding account (w.holdings account) (x i) := by
    rw [hi]
    exact id
  have hafter : ∀ v', (v'.item = some m.seed ∨ v'.item.bind refreshToken = some "") →
      Idle account (nowMs i) v' ((CyclePhase.spawning m).after account (nowMs i)
        (.inr (.spawn account.accountUuid)) r) := by
    intro v' hitem
    cases r with
    | ok => exact hitem
    | error e => exact idle_ending _
  rcases rotating_holdings hd with hsame | ⟨cleared, hcleared, hv'⟩ |
    ⟨item, fresh, hitem, htoken, hfresh, hne, hkilled | ⟨rfl, saved, expiry, hfreshSaved, hexpiry,
      hlater, hv'⟩⟩
  · rw [hsame, if_neg (fun h => h rfl)]
    have hunchanged : w.holdings account =
        { w.holdings account with item := (w.holdings account).item } := rfl
    refine ⟨hissued, hheld.item_changed hunchanged hothers hnot ?_⟩
    intro hidle
    rw [hi] at hidle
    exact hafter _ (.inl hidle.2)
  · have hgrants : (w'.holdings account).grants = (w.holdings account).grants := by rw [hv']
    rw [if_neg (fun h => h (congrArg Grants.live hgrants))]
    refine ⟨hissued.mono (by rw [hv']) hgrants, hheld.item_changed hv' hothers hnot ?_⟩
    intro _
    apply hafter
    right
    rw [hv']
    exact hcleared
  · exfalso
    have hnew : fresh ≠ (w.holdings account).grants.live := fun h => hfresh (h ▸ hissued.live)
    rw [hkilled] at hsaved
    have hold : (w.holdings account).item.bind refreshToken = some fresh := hsaved hnew
    rw [hitem, Option.bind_some, htoken] at hold
    exact hnew (Option.some.inj hold).symm
  · have hnew : fresh ≠ (w.holdings account).grants.live := fun h => hfresh (h ▸ hissued.live)
    have hlive : (w'.holdings account).grants.live ≠ (w.holdings account).grants.live := by
      rw [hv']
      exact hnew
    rw [if_pos hlive]
    constructor
    · rw [hv']
      constructor
      · exact List.mem_cons_self
      · intro blob token hblob htoken
        exact List.mem_cons_of_mem _ (hissued.stored blob token hblob htoken)
    · exact hheld.exchanged hissued hi hserde hnow hothers hitem htoken hfresh hne hfreshSaved hexpiry
        hlater hv'

theorem held_step (hserde : ReparsesBackdated (nowMs i))
    (hnow : -9223372036854775808 ≤ nowMs i ∧ nowMs i < 9223372036854775808)
    (hinUse : ∀ j, UsesItem (x j) → c.inUse j = true) (hissued : Issued (w.holdings account))
    (hheld : TokenHeld account nowMs c.exchanger (w.holdings account) x)
    (hn : (x i).next account = .inl o) (hd : refreshing Rotating pid o w r w')
    (hcareful : Careful c i ⟨o, r⟩ (w.holdings account) (w'.holdings account)) :
    Issued (w'.holdings account) ∧
      TokenHeld account nowMs
        (if (w'.holdings account).grants.live ≠ (w.holdings account).grants.live then some i
          else c.exchanger)
        (w'.holdings account) (Function.update x i ((x i).after account (nowMs i) o r)) := by
  have hothers : touchesItem o = true → ∀ j, j ≠ i → ¬ UsesItem (x j) := by
    intro htouches j hj huses
    have hfree := hcareful.exclusive htouches j hj
    rw [hinUse j huses] at hfree
    cases hfree
  by_cases hquiet : changesHoldings o = false
  · rw [holdings_kept account hquiet hd, if_neg (fun h => h rfl)]
    refine ⟨hissued, hheld.update Iff.rfl ?_ ?_ (fun _ _ => id) (fun _ _ => id)⟩
    · intro hidle
      exact idle_quiet hidle hn hquiet hd rfl hissued.stored
    · intro hexposed hexchanger hholding
      exact holding_quiet hholding hn hquiet hd rfl (hcareful.stored hexchanger hexposed)
  -- what is left are the operations that may change the holdings
  have hitem : ∀ item, w'.holdings account = { w.holdings account with item := item } →
      touchesItem o = true → ¬ Holding account (w.holdings account) (x i) →
      (Idle account (nowMs i) (w.holdings account) (x i) →
        Idle account (nowMs i) (w'.holdings account) ((x i).after account (nowMs i) o r)) →
      Issued (w'.holdings account) ∧
        TokenHeld account nowMs
          (if (w'.holdings account).grants.live ≠ (w.holdings account).grants.live then some i
            else c.exchanger)
          (w'.holdings account) (Function.update x i ((x i).after account (nowMs i) o r)) := by
    intro item hv' htouches hnot hidle
    have hgrants : (w'.holdings account).grants = (w.holdings account).grants := by rw [hv']
    rw [if_neg (fun h => h (congrArg Grants.live hgrants))]
    exact ⟨hissued.mono (by rw [hv']) hgrants, hheld.item_changed hv' (hothers htouches) hnot hidle⟩
  cases hi : x i with
  | seeding m =>
    rw [hi] at hn
    obtain rfl := Sum.inl.inj hn
    obtain ⟨item, hv', hseeded⟩ := item_seeded hd
    rw [← hi]
    apply hitem item hv' rfl
    · rw [hi]
      exact id
    · rw [hi]
      intro hidle
      cases r with
      | error e => exact idle_ending _
      | ok =>
        have hprimed : Primed account (nowMs i) (w.holdings account) m := hidle
        rw [hv', hseeded rfl]
        exact ⟨⟨hprimed.known, hprimed.seed, hprimed.decodes⟩, rfl⟩
  | spawning m =>
    rw [hi] at hn
    obtain rfl := Sum.inl.inj hn
    exact held_spawn hserde hnow hissued hheld hi (hothers rfl) hd hcareful.saved
  | deleting left result =>
    rw [hi] at hn
    obtain rfl := Sum.inl.inj hn
    obtain ⟨item, hv'⟩ := item_deleted hd
    rw [← hi]
    apply hitem item hv' rfl
    · rw [hi]
      exact id
    · rw [hi]
      intro _
      cases r <;> trivial
  | deletingBlocking result =>
    rw [hi] at hn
    obtain rfl := Sum.inl.inj hn
    obtain ⟨item, hv'⟩ := item_deletedBlocking hd
    rw [← hi]
    apply hitem item hv' rfl
    · rw [hi]
      exact id
    · rw [hi]
      intro _
      trivial
  | restashingCredential m =>
    rw [hi] at hn
    obtain rfl := Sum.inl.inj hn
    obtain ⟨hrisk, hexchanger, hhold, -⟩ := hheld.holder (i := i) (by rw [hi]; exact id)
    rw [hi] at hhold
    have hfetched : Fetched account (w.holdings account) m := hhold
    have hkept := hcareful.stored hexchanger hrisk
    cases r with
    | error e => cases hkept
    | ok =>
      have hv' := credential_written hd rfl
      have hgrants : (w'.holdings account).grants = (w.holdings account).grants := by rw [hv']
      rw [if_neg (fun h => h (congrArg Grants.live hgrants))]
      refine ⟨?_, hheld.restashed hi hv'⟩
      constructor
      · rw [hgrants]
        exact hissued.live
      · rw [hv']
        intro blob token hblob htoken
        obtain rfl := Option.some.inj hblob
        rw [hfetched.token] at htoken
        exact Option.some.inj htoken ▸ hissued.live
  | restashingOauth m =>
    rw [hi] at hn
    obtain rfl := Sum.inl.inj hn
    have hsame : ∃ oauth, w'.holdings account = { w.holdings account with oauth := oauth } ∧
        (Decodes account (w.holdings account) → Decodes account (w'.holdings account)) := by
      rcases oauth_written hd with hv' | hv'
      · exact ⟨(w.holdings account).oauth, hv', fun h => hv' ▸ h⟩
      · refine ⟨_, hv', fun _ => ⟨_, m.snapshot.oauthAccount, by rw [hv'], ?_⟩⟩
        exact OauthAccount.fromObject_raw _
    obtain ⟨oauth, hv', hdecodes⟩ := hsame
    have hgrants : (w'.holdings account).grants = (w.holdings account).grants := by rw [hv']
    rw [if_neg (fun h => h (congrArg Grants.live hgrants))]
    refine ⟨hissued.mono (by rw [hv']) hgrants, ?_⟩
    have hexposed : (w'.holdings account).Exposed ↔ (w.holdings account).Exposed := by
      rw [hv']
      exact Iff.rfl
    apply hheld.update hexposed
    · intro _
      cases r <;> trivial
    · intro _ _ hholding
      rw [hi] at hholding
      exact hholding.elim
    · intro j hj hidle
      apply hidle.mono (fun _ => by rw [hv']) _ hdecodes
      intro blob hknown
      rw [hv']
      exact hknown
    · intro j hj hholding
      exact hholding.mono (fun _ => by rw [hv']) (by rw [hv']) hgrants hdecodes
  | locking | readingCredential | readingOauth | unlocking | creating | writingClaudeJson | readingBack
  | relocking | rereadingCredential | rereadingOauth | reunlocking | sleeping | removing =>
    rw [hi] at hn
    obtain rfl := Sum.inl.inj hn
    exact absurd rfl hquiet
  | finished result =>
    rw [hi] at hn
    cases hn

/-- Cycles of one account in processes of their own, which the rest of the system leaves alone. -/
def parkedCycles (account : Account) (pid : ι → ℕ) (i : ι) : Device CycleSeams RefreshWorld :=
  (refreshing Rotating (pid i)).under (Parked account)

theorem kept_step {pid : ι → ℕ} {s s' : GuardedCycles ι} {l : ι × Occurrence CycleSeams}
    (hserde : ∀ i, ReparsesBackdated (nowMs i))
    (hnow : ∀ i, -9223372036854775808 ≤ nowMs i ∧ nowMs i < 9223372036854775808)
    (hk : Kept account nowMs x s) (hs : CarefulStep (parkedCycles account pid) account s l s') :
    ∃ x', Kept account nowMs x' s' := by
  obtain ⟨i, o, r⟩ := l
  obtain ⟨hn, ⟨w₁, hparked, hd⟩, hembodied⟩ := PoolStep.automata hk.embodied hs.step
  have hv : w₁.holdings account = s.holdings account := hparked
  have hcareful := hs.careful
  have hissued := hk.issued
  have hheld := hk.held
  rw [← hv] at hcareful hissued hheld
  obtain ⟨hissued', hheld'⟩ := held_step (hserde i) (hnow i) hk.inUse hissued hheld hn hd hcareful
  have hexchanger : s'.custody.exchanger =
      if (s'.holdings account).grants.live ≠ (w₁.holdings account).grants.live then some i
        else s.custody.exchanger := by
    rw [hs.custody, ← hv]
    unfold Custody.after
    by_cases h : (s'.holdings account).grants.live ≠ (w₁.holdings account).grants.live
    · rw [if_pos h, if_pos (decide_eq_true h)]
    · rw [if_neg h, decide_eq_false h]
      rfl
  refine ⟨Function.update x i ((x i).after account (nowMs i) o r), hembodied, ?_, hissued', ?_⟩
  · intro j huses
    rw [hs.custody]
    by_cases hj : j = i
    · subst hj
      rw [Function.update_self] at huses
      exact usesItem_after hn (hk.inUse j) huses
    · rw [Function.update_of_ne hj] at huses
      rw [Custody.after_inUse_of_ne _ hj]
      exact hk.inUse j huses
  · rw [hexchanger]
    exact hheld'

end Step

/-- The cycles before their first operation. -/
def GuardedCycles.started (account : Account) (nowMs : ι → Int) (w : RefreshWorld) : GuardedCycles ι where
  pool := ⟨fun i => (refreshCycle account (nowMs i)).run, w⟩
  custody := .unused

omit [DecidableEq ι] in
theorem kept_started {w : RefreshWorld}
    (hstash : ((w.holdings account).credential.bind refreshToken) = some (w.holdings account).grants.live)
    (hissued : (w.holdings account).grants.live ∈ (w.holdings account).grants.issued) :
    Kept account nowMs (fun _ => .locking) (.started account nowMs w) := by
  constructor
  · intro i
    exact embodies_refreshCycle account (nowMs i)
  · intro i huses
    exact huses.elim
  · constructor
    · exact hissued
    · intro blob token hblob htoken
      change (w.holdings account).credential = some blob at hblob
      rw [hblob, Option.bind_some, htoken] at hstash
      exact Option.some.inj hstash ▸ hissued
  · left
    exact ⟨fun hexposed => hexposed hstash, fun i => trivial⟩

/-- Cycles of one parked account, run with care until all of them have finished, leave its live refresh
token in the stash. -/
theorem cycles_keep_token {pid : ι → ℕ} {w : RefreshWorld} {tr : List (ι × Occurrence CycleSeams)}
    {s : GuardedCycles ι} (hserde : ∀ i, ReparsesBackdated (nowMs i))
    (hnow : ∀ i, -9223372036854775808 ≤ nowMs i ∧ nowMs i < 9223372036854775808)
    (hstash : ((w.holdings account).credential.bind refreshToken) = some (w.holdings account).grants.live)
    (hissued : (w.holdings account).grants.live ∈ (w.holdings account).grants.issued)
    (hs : Runs (CarefulStep (parkedCycles account pid) account) (.started account nowMs w) tr s)
    (hfinished : ∀ i, ∃ report, s.pool.progs i = .pure report) :
    (s.holdings account).credential.bind refreshToken = some (s.holdings account).grants.live := by
  obtain ⟨x, hk⟩ : ∃ x, Kept account nowMs x s := by
    apply hs.state_invariant (I := fun s => ∃ x, Kept account nowMs x s)
    · exact ⟨_, kept_started hstash hissued⟩
    · intro s s' l ⟨x, hk⟩ hstep
      exact kept_step hserde hnow hk hstep
  rcases hk.held with ⟨hsafe, -⟩ | ⟨-, k, -, hhold, -⟩
  · exact not_not.mp hsafe
  · exfalso
    obtain ⟨report, hreport⟩ := hfinished k
    have hembodied := hk.embodied k
    rw [hreport] at hembodied
    have hnext := hembodied.returned
    cases hx : x k with
    | finished result =>
      rw [hx] at hhold
      exact hhold
    | _ =>
      rw [hx] at hnext
      cases hnext

end Pools

section Sample

local instance custodyJson : SerdeJson := sampleText

local instance custodyToVec : SerdeToVec := sampleToVec

theorem sampleText_reparses : ReparsesBackdated 0 := by
  intro blob value oauth oauth' value' field hvalue hoauth hinsert hinsert' hfield
  cases blob with
  | nil => simp [SerdeJson.fromSlice] at hvalue
  | cons token rest =>
    simp only [SerdeJson.fromSlice, Option.some.injEq] at hvalue
    subst hvalue
    simp only [Value.get, List.lookup_cons_self, Option.some.injEq] at hoauth
    subst hoauth
    simp only [Value.insert, Value.insertField, Option.some.injEq] at hinsert
    subst hinsert
    simp only [Value.insert, Value.insertField, Option.some.injEq] at hinsert'
    subst hinsert'
    by_cases h0 : token = 0
    · rcases hfield with rfl | rfl <;> simp only [h0, if_true] <;> rfl
    · by_cases h1 : token = 1
      · rcases hfield with rfl | rfl <;> simp only [h1] <;> rfl
      · rcases hfield with rfl | rfl <;> simp only [h0, h1, if_false] <;> rfl

/-- What the client does: it saves what it gets for a live token, and clears the item of a spent one. -/
def rotated (session : String) (w : RefreshWorld) : RefreshWorld :=
  match (w.isolated session).item with
  | none => w
  | some item =>
    match refreshToken item with
    | none => w
    | some token =>
      if token = (w.grants session).live then
        if "second" ∈ (w.grants session).issued ∨ 3 ≤ (expiresAt item).getD 0 then w
        else
          { w.setItem session (some [2, 0, 0, 0]) with
            grants := Function.update w.grants session
              ⟨"second", "second" :: (w.grants session).issued⟩ }
      else w.setItem session (some [0])

theorem rotating_rotated (session : String) (w : RefreshWorld) :
    Rotating session w (.ok ()) (rotated session w) := by
  unfold rotated
  cases hitem : (w.isolated session).item with
  | none => exact .idle
  | some item =>
    dsimp only
    cases htoken : refreshToken item with
    | none => exact .idle
    | some token =>
      dsimp only
      by_cases hlive : token = (w.grants session).live
      · rw [if_pos hlive]
        by_cases hold : "second" ∈ (w.grants session).issued ∨ 3 ≤ (expiresAt item).getD 0
        · rw [if_pos hold]
          exact .idle
        · rw [if_neg hold]
          rw [not_or, not_le] at hold
          have hexpiry : expiresAt [2, 0, 0, 0] = some 3 := by decide
          apply Rotating.exchanged hitem htoken hlive hold.1 (by decide) (by decide) hexpiry
          intro before hbefore
          rw [hbefore] at hold
          exact hold.2
      · rw [if_neg hlive]
        exact .refused hitem htoken hlive (by decide)

def calmRotation (pid : ℕ) : Handler CycleSeams RefreshWorld
  | .inr (.spawn session), w => (.ok (), rotated session w)
  | o, w => calmCycle true pid o w

theorem calmRotation_refines (account : Account) (pid : ℕ) :
    (calmRotation pid).Refines ((refreshing Rotating pid).under (Parked account)) := by
  intro o w
  refine ⟨w, rfl, ?_⟩
  have hcalm := calmCycle_refines true pid o w
  cases o with
  | inl o => exact hcalm
  | inr o =>
    cases o with
    | spawn session => exact rotating_rotated session w
    | _ => exact hcalm

/-- The next operation of a cycle, if it is a careful one. -/
def GuardedCycles.perform {ι : Type} [DecidableEq ι] [Fintype ι] (H : ι → Handler CycleSeams RefreshWorld)
    (account : Account) (s : GuardedCycles ι) (i : ι) : Option (GuardedCycles ι) :=
  match s.pool.progs i with
  | .pure _ => some s
  | .perform o k =>
    let pool : Pool CycleSeams ι (Except Error RefreshReport) RefreshWorld :=
      ⟨Function.update s.pool.progs i (k (H i o s.pool.world).1), (H i o s.pool.world).2⟩
    if Careful s.custody i ⟨o, (H i o s.pool.world).1⟩ (s.holdings account)
        (pool.world.holdings account) then
      some ⟨pool, s.custody.after i o
        (decide ((pool.world.holdings account).grants.live ≠ (s.holdings account).grants.live))⟩
    else none

theorem runs_guarded {ι : Type} [DecidableEq ι] [Fintype ι] {H : ι → Handler CycleSeams RefreshWorld}
    {D : ι → Device CycleSeams RefreshWorld} {account : Account} (hH : ∀ i, (H i).Refines (D i))
    (schedule : List ι) {s s' : GuardedCycles ι}
    (h : schedule.foldlM (GuardedCycles.perform H account) s = some s') :
    ∃ tr, Runs (CarefulStep D account) s tr s' := by
  induction schedule generalizing s with
  | nil =>
    obtain rfl := Option.some.inj h
    exact ⟨[], .refl⟩
  | cons i rest ih =>
    rw [List.foldlM_cons] at h
    obtain ⟨s₁, hfirst, hrest⟩ := Option.bind_eq_some_iff.mp h
    obtain ⟨tr, hrun⟩ := ih hrest
    unfold GuardedCycles.perform at hfirst
    cases hp : s.pool.progs i with
    | pure a =>
      rw [hp] at hfirst
      obtain rfl := Option.some.inj hfirst
      exact ⟨tr, hrun⟩
    | perform o k =>
      rw [hp] at hfirst
      dsimp only at hfirst
      split at hfirst
      · next hcareful =>
        obtain rfl := Option.some.inj hfirst
        have hstep : CarefulStep D account s (i, ⟨o, (H i o s.pool.world).1⟩)
            ⟨⟨Function.update s.pool.progs i (k (H i o s.pool.world).1), (H i o s.pool.world).2⟩,
              s.custody.after i o (decide (((H i o s.pool.world).2.holdings account).grants.live ≠
                (s.holdings account).grants.live))⟩ :=
          ⟨.step hp (hH i o s.pool.world), hcareful, rfl⟩
        exact ⟨_, runs_cons_iff.mpr ⟨_, hstep, hrun⟩⟩
      · cases hfirst

/-- What a program that has come to its end has returned. -/
def result {S : Interface} {α : Type} : Prog S α → Option α
  | .pure a => some a
  | .perform _ _ => none

theorem pure_of_result {S : Interface} {α : Type} {p : Prog S α} {a : α} (h : result p = some a) :
    p = .pure a := by
  cases p with
  | pure b => exact congrArg Prog.pure (Option.some.inj h)
  | perform o k => cases h

/-- The cycles of the daemon and of a poke. -/
def bothCycles : GuardedCycles Bool := .started (sampleAccount "A") (fun _ => 0) parkedWorld

def bothHandlers (i : Bool) : Handler CycleSeams RefreshWorld := calmRotation i.toNat

/-- The second cycle has read the stash before the first has stored what it was given. -/
def careful : List Bool :=
  List.replicate 4 false ++ List.replicate 4 true ++ List.replicate 13 false ++ List.replicate 13 true

theorem cycles_keep_token_both : ∃ tr s,
    Runs (CarefulStep (parkedCycles (sampleAccount "A") Bool.toNat) (sampleAccount "A")) bothCycles tr s ∧
    (s.holdings (sampleAccount "A")).grants.live = "second" ∧
    (s.holdings (sampleAccount "A")).credential.bind refreshToken =
      some (s.holdings (sampleAccount "A")).grants.live := by
  have hruns : ((careful.foldlM (GuardedCycles.perform bothHandlers (sampleAccount "A")) bothCycles).all
      (fun s => (result (s.pool.progs false)).isSome && (result (s.pool.progs true)).isSome &&
        decide ((s.holdings (sampleAccount "A")).grants.live = "second"))) = true := by decide +kernel
  have hsome : (careful.foldlM (GuardedCycles.perform bothHandlers (sampleAccount "A")) bothCycles).isSome =
      true := by decide +kernel
  obtain ⟨s, hs⟩ := Option.isSome_iff_exists.mp hsome
  rw [hs, Option.all_some, Bool.and_eq_true, Bool.and_eq_true] at hruns
  obtain ⟨⟨hfirst, hsecond⟩, hlive⟩ := hruns
  obtain ⟨tr, hrun⟩ := runs_guarded
    (fun i => calmRotation_refines (sampleAccount "A") (Bool.toNat i)) careful hs
  have hfinished : ∀ i, ∃ report, s.pool.progs i = .pure report := by
    intro i
    have hi : (result (s.pool.progs i)).isSome = true := by
      cases i
      · exact hfirst
      · exact hsecond
    obtain ⟨report, hreport⟩ := Option.isSome_iff_exists.mp hi
    exact ⟨report, pure_of_result hreport⟩
  exact ⟨tr, s, hrun, of_decide_eq_true hlive, cycles_keep_token (fun _ => sampleText_reparses)
    (fun _ => by decide) (by decide) (by decide) hrun hfinished⟩

/-- The second cycle seeds its copy between the exchange and the read-back of the first. -/
def overlapping : List Bool :=
  List.replicate 4 false ++ List.replicate 4 true ++ List.replicate 4 false ++ List.replicate 2 true ++
    [false] ++ List.replicate 11 true ++ List.replicate 12 false

def overlapped : Pool CycleSeams Bool (Except Error RefreshReport) RefreshWorld :=
  overlapping.foldl (Pool.perform bothHandlers) bothCycles.pool

theorem overlap_forfeits :
    (bothCycles.holdings (sampleAccount "A")).credential.bind refreshToken =
      some (bothCycles.holdings (sampleAccount "A")).grants.live ∧
    (∃ tr, PoolRun (parkedCycles (sampleAccount "A") Bool.toNat) bothCycles.pool tr overlapped) ∧
    overlapped.progs false = .pure (.ok ⟨.noChange, none, false⟩) ∧
    overlapped.progs true = .pure (.ok ⟨.dead, none, false⟩) ∧
    (overlapped.world.holdings (sampleAccount "A")).credential.bind refreshToken ≠
      some (overlapped.world.holdings (sampleAccount "A")).grants.live := by
  refine ⟨by decide, ?_, ?_, ?_, by decide +kernel⟩
  · exact poolRun_schedule
      (fun i => calmRotation_refines (sampleAccount "A") (Bool.toNat i)) overlapping bothCycles.pool
  · apply pure_of_result
    decide +kernel
  · apply pure_of_result
    decide +kernel

end Sample

end Sessiometer
