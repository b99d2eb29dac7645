import Sessiometer.Daemon.Cleared
import Sessiometer.Refresh.Script

/-! # The promotion of a minted credential

While a client mints a credential out of the canonical one, nothing is locked. Before the minted one is
written the canonical item is read again, and only the account that it is taken for is compared. -/

namespace Sessiometer

open Effects

/-- What a minted credential replaces: the one that it was derived from, and those that this one had
replaced. All of them belong to one account. -/
structure Lineage (source minted : Credential) where
  owner : Credential → String
  superseded : Credential → Prop
  source : superseded source
  sameOwner : ∀ c, superseded c → owner c = owner minted

section Promotion

variable {pid : ℕ} {roster : List Account} {i : ℕ} {source cred : Credential}

/-- What happens under the swap lock. -/
def recheckThenWrite (roster : List Account) (i : ℕ) (cred : Credential) : Attempt Bool := do
  let current ← ExceptT.lift CredentialStore.read.run
  let stillActive ← match current with
    | .ok current => do
      let resolved ← ExceptT.lift (Active.resolveAccountFor roster current)
      pure (decide (resolved = some i))
    | .error _ => pure false
  if stillActive then do
    CredentialStore.write cred
    pure true
  else pure false

theorem promoteStores_eq : promoteStores roster i cred = withSwapLock (recheckThenWrite roster i cred) :=
  rfl

/-- The operations that tell which account a credential is taken for. -/
def Op.isLookup : Op → Bool
  | .findCredential _ => true
  | .findOauthAccount _ => true
  | .readClaudeJson => true
  | _ => false

/-- Those that follow the second reading. -/
def Op.isRecheck : Op → Bool
  | .writeCanonical _ => true
  | .releaseSwapLock => true
  | o => o.isLookup

theorem Op.isRecheck_of_isLookup {o : Op} (h : o.isLookup = true) : o.isRecheck = true := by
  cases o <;> simp_all [Op.isLookup, Op.isRecheck]

theorem steps_only {S : Interface} {W α : Type} {D : Device S W} {φ : S.Op → Prop} {p q : Prog S α}
    {w w' : W} {tr : List (Occurrence S)} (hp : Only φ p) (hs : Steps D p w tr q w') :
    Only φ q ∧ ∀ x ∈ tr, φ x.1 := by
  induction hs with
  | refl => exact ⟨hp, by simp⟩
  | head hd _ ih =>
    obtain ⟨hq, htr⟩ := ih (hp.2 _)
    refine ⟨hq, ?_⟩
    intro x hx
    rcases List.mem_cons.mp hx with rfl | hx
    · exact hp.1
    · exact htr x hx

theorem only_stashRead (service : String) :
    Only (Op.isLookup · = true) (AccountStash.read service).run := by
  unfold AccountStash.read
  refine only_except_bind (only_call rfl) (fun blob => ?_)
  refine only_except_bind (only_call rfl) (fun payload => ?_)
  exact only_except_bind trivial (fun oauth => trivial)

theorem only_firstMatching (roster : List Account) (c : Credential) (j : ℕ) :
    Only (Op.isLookup · = true) (firstMatching c none roster j) := by
  induction roster generalizing j with
  | nil => trivial
  | cons account rest ih =>
    unfold firstMatching
    rw [if_neg (Option.some_ne_none j).symm]
    apply only_bind (only_stashRead account.stash)
    intro r
    cases r with
    | error e => exact ih (j + 1)
    | ok stashed =>
      dsimp only
      split
      · trivial
      · exact ih (j + 1)

theorem only_resolveAccountFor (roster : List Account) (c : Credential) :
    Only (Op.isLookup · = true) (Active.resolveAccountFor roster c) := by
  have hread : Only (Op.isLookup · = true) ClaudeState.readOauthAccount.run :=
    only_except_bind (only_call rfl) (fun _ => trivial)
  unfold Active.resolveAccountFor
  apply only_bind (only_firstMatching roster c 0)
  intro r
  cases r with
  | some x => trivial
  | none =>
    apply only_bind hread
    intro displayed
    cases displayed <;> trivial

/-- What is left once the canonical item has been read again. -/
def recheckedWith (roster : List Account) (i : ℕ) (cred : Credential) (current : Except Error Credential) :
    Attempt Bool := do
  let stillActive ← match current with
    | .ok current => do
      let resolved ← ExceptT.lift (Active.resolveAccountFor roster current)
      pure (decide (resolved = some i))
    | .error _ => pure false
  if stillActive then do
    CredentialStore.write cred
    pure true
  else pure false

theorem only_recheckedWith (current : Except Error Credential) :
    Only (Op.isRecheck · = true) (recheckedWith roster i cred current).run := by
  cases current with
  | error e => trivial
  | ok current =>
    have hresolve := (only_resolveAccountFor roster current).mono
      (fun _ => Op.isRecheck_of_isLookup)
    refine only_except_bind (only_lift hresolve) ?_
    intro resolved
    rw [pure_bind]
    by_cases hactive : decide (resolved = some i) = true
    · dsimp only
      rw [if_pos hactive]
      exact only_except_bind (only_call rfl) (fun _ => trivial)
    · dsimp only
      rw [if_neg hactive]
      trivial

/-- The re-read, and all that follows it. -/
def promotionFrom {α : Type} (roster : List Account) (i : ℕ) (cred : Credential)
    (f : Except Error Bool → Seam α) : Seam α := do
  let r ← (recheckThenWrite roster i cred).run
  SwapLock.release
  f r

theorem promotionFrom_eq {α : Type} (f : Except Error Bool → Seam α) :
    promotionFrom roster i cred f = .perform (S := Seams) .readCanonical (fun current =>
      (recheckedWith roster i cred current).run >>= fun r => SwapLock.release >>= fun _ => f r) := by
  unfold promotionFrom recheckThenWrite
  rw [ExceptT.run_bind, ExceptT.run_lift, map_eq_pure_bind, bind_assoc, bind_assoc]
  apply congrArg (Prog.perform (S := Seams) .readCanonical)
  funext current
  cases current <;> rfl

/-- After the second reading there is no third. -/
theorem only_promotionFrom {α : Type} {f : Except Error Bool → Seam α} (hf : ∀ r, ∃ a, f r = .pure a)
    (current : Except Error Credential) :
    Only (Op.isRecheck · = true) ((recheckedWith roster i cred current).run >>= fun r =>
      SwapLock.release >>= fun _ => f r) := by
  apply only_bind (only_recheckedWith current)
  intro r
  have hrelease : Only (Op.isRecheck · = true) SwapLock.release := only_call rfl
  apply only_bind hrelease
  intro _
  obtain ⟨a, ha⟩ := hf r
  rw [ha]
  trivial

theorem steps_promotionFrom_reread {α : Type} {D : Device Seams World}
    {f : Except Error Bool → Seam α} {k : Except Error Credential → Seam α} {w w' : World}
    {tr : List (Occurrence Seams)} (hf : ∀ r, ∃ a, f r = .pure a)
    (hs : Steps D (promotionFrom roster i cred f) w tr (.perform (S := Seams) .readCanonical k) w') :
    tr = [] ∧ .perform (S := Seams) .readCanonical k = promotionFrom roster i cred f := by
  rw [promotionFrom_eq] at hs ⊢
  rcases steps_perform_iff.mp hs with ⟨htr, hq, -⟩ | ⟨current, w₁, tr₁, -, -, hs⟩
  · exact ⟨htr, hq⟩
  · have honly := (steps_only (only_promotionFrom hf current) hs).1
    cases honly.1

end Promotion

section Mint

variable [SerdeJson] {D : Device Seams World} {d : Daemon} {i : ℕ} {canonical cred : Credential}
  {trigger : KeepWarmTrigger} {w w' : World} {tr : List (Occurrence Seams)}

/-- What is left of a keep-warm once the promotion has come to its end. -/
def promotedThen (i : ℕ) (cred : Credential) (outcome : RefreshEventOutcome) (d : Daemon)
    (r : Except Error Bool) : Seam (KeepWarmPromote × Daemon) :=
  ((match r with
    | .ok true => do
      modify (·.promoted i cred)
      pure (.ok true)
    | .ok false => pure (.ok false)
    | .error e => pure (.error e) : DaemonM (Except Error Bool)) >>= fun promoted =>
      pure ⟨isOkAnd id promoted, outcome⟩ : DaemonM KeepWarmPromote).run d

theorem promotedThen_pure {outcome : RefreshEventOutcome} (r : Except Error Bool) :
    ∃ a, promotedThen i cred outcome d r = .pure a := by
  match r with
  | .ok true => exact ⟨_, rfl⟩
  | .ok false => exact ⟨_, rfl⟩
  | .error e => exact ⟨_, rfl⟩

/-- What is left of the promotion once the lock was asked for. -/
def acquiredThen (i : ℕ) (cred : Credential) (outcome : RefreshEventOutcome) (d : Daemon) :
    Except Error Unit → Seam (KeepWarmPromote × Daemon)
  | .ok () => promotionFrom d.roster i cred (promotedThen i cred outcome d)
  | .error e => promotedThen i cred outcome d (.error e)

theorem promotion_run (outcome : RefreshEventOutcome) :
    (promoteCanonical i cred >>= fun promoted => pure ⟨isOkAnd id promoted, outcome⟩ :
      DaemonM KeepWarmPromote).run d =
    SwapLock.acquire.run >>= acquiredThen i cred outcome d := by
  unfold promoteCanonical attempt
  rw [StateT.run_bind, StateT.run_bind, StateT.run_get, pure_bind, StateT.run_bind, StateT.run_lift,
    bind_assoc, bind_assoc, promoteStores_eq]
  unfold withSwapLock
  rw [ExceptT.run_bind, bind_assoc]
  congr 1
  funext acquired
  cases acquired with
  | error e => rfl
  | ok =>
    unfold acquiredThen promotionFrom
    dsimp only
    rw [ExceptT.run_bind, ExceptT.run_lift, map_eq_pure_bind, bind_assoc, bind_assoc]
    rfl

/-- The operations up to the second reading. -/
def upToReread (account : Account) (canonical cred : Credential) (now : Nanos) (report : RefreshReport) :
    List (Occurrence Seams) :=
  [⟨.now, now⟩,
    ⟨.keepWarm account canonical, (.ok (report, some cred) :
      Except Error (RefreshReport × Option Credential))⟩,
    ⟨.acquireSwapLock, (.ok () : Except Error Unit)⟩]

/-- A keep-warm that is about to read the canonical item again is about to promote what was minted. -/
theorem steps_reread {k : Except Error Credential → Seam (KeepWarmPromote × Daemon)}
    (hs : Steps D ((keepWarmAndPromote i canonical trigger).run d) w tr
      (.perform (S := Seams) .readCanonical k) w') :
    ∃ now report cred outcome d', tr = upToReread (d.account i) canonical cred now report ∧
      .perform (S := Seams) .readCanonical k =
        promotionFrom d.roster i cred (promotedThen i cred outcome d') := by
  unfold keepWarmAndPromote at hs
  by_cases hlive : hasLiveRefreshToken canonical = true
  · rw [if_neg (not_not.mpr hlive)] at hs
    rcases steps_perform_iff.mp hs with ⟨-, h, -⟩ | ⟨now, w₁, tr₁, rfl, -, hs⟩
    · cases h
    by_cases hwarm : d.settings.keepWarm = true
    · change Steps D ((@ite (DaemonM KeepWarmPromote) (¬ d.settings.keepWarm = true) _ _ _).run _)
        _ _ _ _ at hs
      rw [if_neg (not_not.mpr hwarm)] at hs
      rcases steps_perform_iff.mp hs with ⟨-, h, -⟩ | ⟨minted, w₂, tr₂, rfl, -, hs⟩
      · cases h
      match minted, hs with
      | .error e, hs =>
        obtain ⟨-, h, -⟩ := steps_pure_iff.mp hs
        cases h
      | .ok (report, none), hs =>
        obtain ⟨-, h, -⟩ := steps_pure_iff.mp hs
        cases h
      | .ok (report, some cred), hs =>
        change Steps D ((promoteCanonical i cred >>= fun promoted => pure ⟨isOkAnd id promoted, _⟩ :
          DaemonM KeepWarmPromote).run _) _ _ _ _ at hs
        rw [promotion_run] at hs
        rcases steps_perform_iff.mp hs with ⟨-, h, -⟩ | ⟨acquired, w₃, tr₃, rfl, -, hs⟩
        · cases h
        cases acquired with
        | error e =>
          obtain ⟨-, h, -⟩ := steps_pure_iff.mp hs
          cases h
        | ok =>
          dsimp only at hs
          obtain ⟨rfl, hq⟩ := steps_promotionFrom_reread promotedThen_pure hs
          exact ⟨now, report, cred, _, _, rfl, hq⟩
    · change Steps D ((@ite (DaemonM KeepWarmPromote) (¬ d.settings.keepWarm = true) _ _ _).run _)
        _ _ _ _ at hs
      rw [if_pos hwarm] at hs
      obtain ⟨-, h, -⟩ := steps_pure_iff.mp hs
      cases h
  · rw [if_pos hlive] at hs
    obtain ⟨-, h, -⟩ := steps_pure_iff.mp hs
    cases h

end Mint

/-! ## What a promotion overwrites -/

section Overwriting

variable {pid : ℕ} {roster : List Account} {i : ℕ} {source cred : Credential} {w w' v : World}
  {tr : List (Occurrence Seams)} {α : Type} {p q : Seam α} {f : Except Error Bool → Seam α}

/-- Others that write neither the stores nor the display. -/
def Elsewhere (w w' : World) : Prop := w'.stores = w.stores ∧ w'.claudeJson = w.claudeJson

def Op.isPromotion (o : Op) : Prop := o.isRecheck = true ∨ o = .readCanonical

theorem surroundings_elsewhere {o : Op} {r : o.Reply} (ho : o.isPromotion)
    (hd : surroundings pid o w r w') (hv : Elsewhere w v) :
    ∃ v', surroundings pid o v r v' ∧ Elsewhere w' v' := by
  obtain ⟨hstores, hdisplay⟩ := hv
  cases o with
  | readCanonical =>
    obtain ⟨rfl, hr⟩ := hd
    exact ⟨v, ⟨rfl, hstores ▸ hr⟩, hstores, hdisplay⟩
  | findCredential service =>
    obtain ⟨rfl, hr⟩ := hd
    exact ⟨v, ⟨rfl, hstores ▸ hr⟩, hstores, hdisplay⟩
  | findOauthAccount service =>
    obtain ⟨rfl, hr⟩ := hd
    exact ⟨v, ⟨rfl, hstores ▸ hr⟩, hstores, hdisplay⟩
  | readClaudeJson =>
    obtain ⟨rfl, hr⟩ := hd
    exact ⟨v, ⟨rfl, hdisplay ▸ hr⟩, hstores, hdisplay⟩
  | releaseSwapLock =>
    obtain rfl : w' = { w with swapLock := none } := hd
    exact ⟨{ v with swapLock := none }, rfl, hstores, hdisplay⟩
  | writeCanonical c =>
    have hwritten : Elsewhere (w.setStores (w.stores.setCanonical c))
        (v.setStores (v.stores.setCanonical c)) := ⟨by rw [hstores]; rfl, hdisplay⟩
    cases r with
    | ok =>
      obtain rfl : w' = w.setStores (w.stores.setCanonical c) := hd
      exact ⟨_, rfl, hwritten⟩
    | error e =>
      rcases hd with rfl | rfl
      · exact ⟨v, .inl rfl, hstores, hdisplay⟩
      · exact ⟨_, .inr rfl, hwritten⟩
  | _ => simp [Op.isPromotion, Op.isRecheck, Op.isLookup] at ho

/-- A promotion among such others is one alone. -/
theorem steps_alone (hp : Only Op.isPromotion p)
    (hs : Steps ((surroundings pid).under Elsewhere) p w tr q w') (hv : Elsewhere w v) :
    ∃ v', Steps (surroundings pid) p v tr q v' ∧ Elsewhere w' v' := by
  induction hs generalizing v with
  | refl => exact ⟨v, .refl _ _, hv⟩
  | head hd _ ih =>
    obtain ⟨w₁, hothers, hd⟩ := hd
    obtain ⟨v', hd', hv'⟩ := surroundings_elsewhere hp.1 hd
      (show Elsewhere w₁ v from ⟨hv.1.trans hothers.1.symm, hv.2.trans hothers.2.symm⟩)
    obtain ⟨v'', hrest, hlast⟩ := ih (hp.2 _) hv'
    exact ⟨v'', .head hd' hrest, hlast⟩

theorem steps_under {R : World → World → Prop} (hR : ∀ w, R w w)
    (hs : Steps (surroundings pid) p w tr q w') : Steps ((surroundings pid).under R) p w tr q w' := by
  induction hs with
  | refl => exact .refl _ _
  | head hd _ ih => exact .head ⟨_, hR _, hd⟩ ih

theorem only_promotion (hf : ∀ r, ∃ a, f r = .pure a) :
    Only Op.isPromotion (promotionFrom roster i cred f) := by
  rw [promotionFrom_eq]
  exact ⟨.inr rfl, fun current => (only_promotionFrom hf current).mono (fun _ => .inl)⟩

/-- None of its operations writes a stash. -/
theorem steps_stashes (hp : Only Op.isPromotion p) (hs : Steps (surroundings pid) p w tr q w') :
    w'.stores.credentialItem = w.stores.credentialItem ∧ w'.stores.oauthItem = w.stores.oauthItem := by
  induction hs with
  | refl => exact ⟨rfl, rfl⟩
  | @head o k w₀ w₁ w₂ r tr q hd _ ih =>
    have hrest := ih (hp.2 _)
    have hfirst : w₁.stores.credentialItem = w₀.stores.credentialItem ∧
        w₁.stores.oauthItem = w₀.stores.oauthItem := by
      by_cases ho : o.writesStores = false
      · rw [surroundings_stores ho hd]
        exact ⟨rfl, rfl⟩
      · cases o with
        | writeCanonical c =>
          cases r with
          | ok =>
            obtain rfl : w₁ = w₀.setStores (w₀.stores.setCanonical c) := hd
            exact ⟨rfl, rfl⟩
          | error e => rcases hd with rfl | rfl <;> exact ⟨rfl, rfl⟩
        | addCredential | addOauthAccount | refresh =>
          have hno := hp.1
          simp [Op.isPromotion, Op.isRecheck, Op.isLookup] at hno
        | _ => exact absurd rfl ho
    exact ⟨hrest.1.trans hfirst.1, hrest.2.trans hfirst.2⟩

theorem recheckedWith_ok {current : Credential} : (recheckedWith roster i cred (.ok current)).run =
    (Active.resolveAccountFor roster current >>= fun resolved =>
      (if decide (resolved = some i) = true then do
        CredentialStore.write cred
        pure true
      else pure false : Attempt Bool).run) := by
  unfold recheckedWith
  dsimp only
  rw [ExceptT.run_bind, ExceptT.run_lift, map_eq_pure_bind, bind_assoc]
  rfl

/-- What a promotion may do in a world: overwrite a credential that the mint replaces, and nothing
else. -/
structure SparesNewer (m : Lineage source cred) (w : World) (tr : List (Occurrence Seams)) (w' : World) :
    Prop where
  overwrites : ∀ x ∈ tr, x.1.isWrite = true → x.1 = .writeCanonical cred ∧
    ∀ c, w.stores.canonical = some c → m.superseded c ∧ m.owner c = m.owner cred
  otherwise : (∀ x ∈ tr, x.1.isWrite = false) → w'.stores = w.stores
  stashes : w'.stores.credentialItem = w.stores.credentialItem ∧ w'.stores.oauthItem = w.stores.oauthItem

theorem promotion_overwrites {m : Lineage source cred} (hf : ∀ r, ∃ a, f r = .pure a)
    (hsafe : ∀ c, w.stores.canonical = some c → m.superseded c ∨ ¬ MayResolve w roster c i)
    (hs : Steps (surroundings pid) (promotionFrom roster i cred f) w tr q w') :
    ∀ x ∈ tr, x.1.isWrite = true → x.1 = .writeCanonical cred ∧
      ∀ c, w.stores.canonical = some c → m.superseded c ∧ m.owner c = m.owner cred := by
  let P : Occurrence Seams → Prop := fun x => x.1.isWrite = true → x.1 = .writeCanonical cred ∧
    ∀ c, w.stores.canonical = some c → m.superseded c ∧ m.owner c = m.owner cred
  have hend : ∀ r v, wp (surroundings pid) (fun o _ r _ => P ⟨o, r⟩)
      (SwapLock.release >>= fun _ => f r) v (fun _ _ => True) := by
    intro r v _ v' _
    refine ⟨fun hwrite => absurd hwrite (by simp [Op.isWrite]), ?_⟩
    obtain ⟨a, ha⟩ := hf r
    change wp (surroundings pid) (fun o _ r _ => P ⟨o, r⟩) (f r) v' (fun _ _ => True)
    rw [ha]
    trivial
  have hwp : wp (surroundings pid) (fun o _ r _ => P ⟨o, r⟩) (promotionFrom roster i cred f) w
      (fun _ _ => True) := by
    rw [promotionFrom_eq, wp_perform]
    intro current w₁ hread
    refine ⟨fun hwrite => absurd hwrite (by simp [Op.isWrite]), ?_⟩
    obtain ⟨rfl, hcurrent⟩ := hread
    rw [wp_bind]
    cases current with
    | error e => exact hend _ _
    | ok c =>
      have hcanonical : w₁.stores.canonical = some c := hcurrent
      have hlookups : wp (surroundings pid) (fun o _ r _ => P ⟨o, r⟩)
          (Active.resolveAccountFor roster c) w₁ (fun _ _ => True) := by
        apply wp_only (R := fun _ _ => True) (only_resolveAccountFor roster c) (fun _ => trivial)
          (fun _ _ => trivial)
        intro o v r v' ho _
        refine ⟨?_, trivial⟩
        intro hwrite
        cases o <;> simp_all [Op.isLookup, Op.isWrite]
      have hresolved : wp (surroundings pid) (onStores fun _ _ _ => True)
          (Active.resolveAccountFor roster c) w₁
          (fun r w' => w' = w₁ ∧ ∀ j, r = some j → MayResolve w₁ roster c j) :=
        wp_resolveAccountFor_alone (fun _ _ _ => trivial) roster c
      rw [recheckedWith_ok, wp_bind]
      apply wp_iff_guaranteed.mpr ⟨hlookups, ?_⟩
      intro resolved w₂ he
      obtain ⟨rfl, hmay⟩ := wp_exec hresolved he
      by_cases hactive : resolved = some i
      · have hsuperseded : m.superseded c :=
          (hsafe c hcanonical).resolve_right (fun hno => hno (hmay i hactive))
        rw [if_pos (decide_eq_true hactive)]
        intro reply v hwritten
        constructor
        · intro _
          refine ⟨rfl, ?_⟩
          intro c' hc'
          obtain rfl := Option.some.inj (hcanonical.symm.trans hc')
          exact ⟨hsuperseded, m.sameOwner c hsuperseded⟩
        · cases reply with
          | ok => exact hend _ _
          | error e => exact hend _ _
      · rw [if_neg (by simpa using hactive)]
        exact hend _ _
  exact wp_occurrences (P := P) hwp hs

/-- A run of the promotion that gets to the write. -/
theorem promotion_writes {c : Credential} (hcanonical : w.stores.canonical = some c)
    (hmay : MayResolve w roster c i) : ∃ tr q w', Steps (surroundings pid)
      (promotionFrom roster i cred f) w tr q w' ∧ ∃ x ∈ tr, x.1 = .writeCanonical cred := by
  obtain ⟨tr, hresolve⟩ : Exec (surroundings pid) (Active.resolveAccountFor roster c) w (some i) w :=
    exec_resolveAccountFor hmay
  obtain ⟨q, hwrite⟩ : ∃ q, Steps (surroundings pid)
      ((if decide (some i = some i) = true then do
        CredentialStore.write cred
        pure true
      else pure false : Attempt Bool).run >>= fun r => SwapLock.release >>= fun _ => f r) w
      [⟨.writeCanonical cred, (.ok () : Except Error Unit)⟩] q
      (w.setStores (w.stores.setCanonical cred)) := by
    rw [if_pos (decide_eq_true rfl)]
    exact ⟨_, .head rfl (.refl _ _)⟩
  have hrest : Steps (surroundings pid) ((recheckedWith roster i cred (.ok c)).run >>= fun r =>
      SwapLock.release >>= fun _ => f r) w (tr ++ [⟨.writeCanonical cred, (.ok () : Except Error Unit)⟩]) q
      (w.setStores (w.stores.setCanonical cred)) := by
    rw [recheckedWith_ok, bind_assoc]
    exact steps_bind_iff.mpr (.inr ⟨_, _, _, _, rfl, hresolve, hwrite⟩)
  have hall : Steps (surroundings pid) (promotionFrom roster i cred f) w
      (⟨.readCanonical, (.ok c : Except Error Credential)⟩ ::
        (tr ++ [⟨.writeCanonical cred, (.ok () : Except Error Unit)⟩])) q
      (w.setStores (w.stores.setCanonical cred)) := by
    rw [promotionFrom_eq]
    exact .head ⟨rfl, hcanonical⟩ hrest
  exact ⟨_, q, _, hall, ⟨.writeCanonical cred, (.ok () : Except Error Unit)⟩, by simp, rfl⟩

end Overwriting

/-- However the others act up to the second reading, the promotion of what was minted spares a newer
canonical credential in all of its runs exactly when the one that it finds there is one that the mint
replaces, or cannot be taken for the account's. -/
theorem promote_spares_iff [SerdeJson] (pid : ℕ) {d : Daemon} {i : ℕ} {canonical cred : Credential}
    {trigger : KeepWarmTrigger} (m : Lineage canonical cred) {w w₁ : World}
    {tr : List (Occurrence Seams)} {report : RefreshReport}
    {k : Except Error Credential → Seam (KeepWarmPromote × Daemon)}
    (hs : Steps ((surroundings pid).under fun _ _ => True)
      ((keepWarmAndPromote i canonical trigger).run d) w tr (.perform (S := Seams) .readCanonical k) w₁)
    (hminted : ⟨.keepWarm (d.account i) canonical, (.ok (report, some cred) :
      Except Error (RefreshReport × Option Credential))⟩ ∈ tr) (w₂ : World) :
    (∀ tr' q w', Steps ((surroundings pid).under Elsewhere) (.perform (S := Seams) .readCanonical k) w₂
        tr' q w' → SparesNewer m w₂ tr' w') ↔
    ∀ c, w₂.stores.canonical = some c → m.superseded c ∨ ¬ MayResolve w₂ d.roster c i := by
  obtain ⟨now, report', cred', outcome, d', rfl, hq⟩ := steps_reread hs
  obtain rfl : cred' = cred := by
    simp only [upToReread, List.mem_cons, List.not_mem_nil, or_false] at hminted
    rcases hminted with h | h | h
    · cases h
    · cases h
      rfl
    · cases h
  rw [hq]
  have hpure : ∀ r, ∃ a, promotedThen i cred' outcome d' r = .pure a := promotedThen_pure
  constructor
  · intro hspares c hcanonical
    by_cases hmay : MayResolve w₂ d.roster c i
    · left
      obtain ⟨tr', q, w', hs', x, hx, hwrite⟩ : ∃ tr' q w', Steps (surroundings pid)
          (promotionFrom d.roster i cred' (promotedThen i cred' outcome d')) w₂ tr' q w' ∧
          ∃ x ∈ tr', x.1 = .writeCanonical cred' :=
        promotion_writes hcanonical hmay
      have hunder := hspares tr' q w' (steps_under (fun _ => ⟨rfl, rfl⟩) hs')
      exact ((hunder.overwrites x hx (by rw [hwrite]; rfl)).2 c hcanonical).1
    · exact .inr hmay
  · intro hsafe tr' q w' hs'
    obtain ⟨v, halone, hv⟩ := steps_alone (only_promotion hpure) hs' ⟨rfl, rfl⟩
    constructor
    · exact promotion_overwrites hpure hsafe halone
    · intro hnone
      exact hv.1.symm.trans (steps_no_write halone hnone).1
    · have hstashes := steps_stashes (only_promotion hpure) halone
      rw [hv.1] at hstashes
      exact hstashes

section Sample

local instance promotionJson : SerdeJson := sampleJson

/-- A client that mints the same credential whenever it is asked to. -/
def minting : Script :=
  { Script.calm with keepWarm := fun _ _ => .ok (⟨.refreshed true, some 0, false⟩, some ⟨[9]⟩) }

theorem minting_refines (pid : ℕ) : (minting.handler pid).Refines (surroundings pid) :=
  minting.handler_refines ⟨le_refl _, by norm_num [minting, Script.calm]⟩ pid

/-- Of the credentials around, the mint replaces the one that it was given. One is of a stranger. -/
def mintLineage : Lineage ⟨[1]⟩ ⟨[9]⟩ where
  owner := fun c => if c = ⟨[7]⟩ then "D" else "A"
  superseded := fun c => c = ⟨[1]⟩
  source := rfl
  sameOwner := by
    rintro c rfl
    decide

/-- A daemon whose first account is active and may be kept warm. -/
def warmDaemon : Daemon :=
  { sampleDaemon with settings := { sampleDaemon.settings with keepWarm := true } }

/-- Its keep-warm, and the world, when the lock has been acquired. -/
def mintedSoFar : Seam (KeepWarmPromote × Daemon) × World :=
  runFor (minting.handler 0) 3 ((keepWarmAndPromote 0 ⟨[1]⟩ .proactive).run warmDaemon)
    (sampleWorld ⟨[1]⟩ "A")

/-- The lock is held, and the second reading comes next. -/
theorem steps_mintedSoFar : ∃ k : Except Error Credential → Seam (KeepWarmPromote × Daemon),
    mintedSoFar.1 = .perform (S := Seams) .readCanonical k ∧
    Steps (surroundings 0) ((keepWarmAndPromote 0 ⟨[1]⟩ .proactive).run warmDaemon)
      (sampleWorld ⟨[1]⟩ "A")
      (upToReread (warmDaemon.account 0) ⟨[1]⟩ ⟨[9]⟩ 0 ⟨.refreshed true, some 0, false⟩)
      (.perform (S := Seams) .readCanonical k) mintedSoFar.2 := by
  have hs := steps_runFor (minting_refines 0) 3 ((keepWarmAndPromote 0 ⟨[1]⟩ .proactive).run warmDaemon)
    (sampleWorld ⟨[1]⟩ "A")
  exact ⟨_, rfl, hs⟩

/-- Nobody has touched the canonical item. -/
theorem promote_spares_iff_untouched :
    ∃ k : Except Error Credential → Seam (KeepWarmPromote × Daemon),
      mintedSoFar.1 = .perform (S := Seams) .readCanonical k ∧
      mintedSoFar.2.stores.canonical = some ⟨[1]⟩ ∧
      ∀ tr q w', Steps ((surroundings 0).under Elsewhere) (.perform (S := Seams) .readCanonical k)
        mintedSoFar.2 tr q w' → SparesNewer mintLineage mintedSoFar.2 tr w' := by
  obtain ⟨k, hk, hs⟩ := steps_mintedSoFar
  have hcanonical : mintedSoFar.2.stores.canonical = some ⟨[1]⟩ := by decide
  have hminted : ⟨.keepWarm (warmDaemon.account 0) ⟨[1]⟩,
      (.ok (⟨.refreshed true, some 0, false⟩, some ⟨[9]⟩) :
        Except Error (RefreshReport × Option Credential))⟩ ∈
      upToReread (warmDaemon.account 0) ⟨[1]⟩ ⟨[9]⟩ 0 ⟨.refreshed true, some 0, false⟩ := by
    simp [upToReread]
  refine ⟨k, hk, hcanonical, (promote_spares_iff 0 mintLineage (steps_under (fun _ => trivial) hs)
    hminted mintedSoFar.2).mpr ?_⟩
  intro c hc
  exact .inl (Option.some.inj (hcanonical.symm.trans hc)).symm

/-- The world where somebody has written the canonical item since. -/
def writtenSince (newer : Credential) : World :=
  mintedSoFar.2.setStores (mintedSoFar.2.stores.setCanonical newer)

/-- One refreshed in place by its own client, and one of a stranger that the display does not show yet,
are both overwritten. -/
theorem newer_overwritten :
    ∃ k : Except Error Credential → Seam (KeepWarmPromote × Daemon),
      Steps ((surroundings 0).under fun _ _ => True)
        ((keepWarmAndPromote 0 ⟨[1]⟩ .proactive).run warmDaemon) (sampleWorld ⟨[1]⟩ "A")
        (upToReread (warmDaemon.account 0) ⟨[1]⟩ ⟨[9]⟩ 0 ⟨.refreshed true, some 0, false⟩)
        (.perform (S := Seams) .readCanonical k) mintedSoFar.2 ∧
      ∀ newer ∈ [(⟨[5]⟩ : Credential), ⟨[7]⟩], ∃ tr q w',
        Steps ((surroundings 0).under Elsewhere) (.perform (S := Seams) .readCanonical k)
          (writtenSince newer) tr q w' ∧
        w'.stores.canonical = some ⟨[9]⟩ ∧ ¬ SparesNewer mintLineage (writtenSince newer) tr w' := by
  obtain ⟨k, hk, hs⟩ := steps_mintedSoFar
  refine ⟨k, steps_under (fun _ => trivial) hs, ?_⟩
  intro newer hnewer
  have hrun : (run (minting.handler 0) mintedSoFar.1 (writtenSince newer)).2.stores.canonical =
      some ⟨[9]⟩ := by
    revert newer
    decide +kernel
  obtain ⟨tr, hrest⟩ := exec_of_run (minting_refines 0) mintedSoFar.1 (writtenSince newer)
  rw [hk] at hrest hrun
  refine ⟨tr, _, _, steps_under (fun _ => ⟨rfl, rfl⟩) hrest, hrun, ?_⟩
  intro hspares
  have hne : newer ≠ ⟨[9]⟩ ∧ newer ≠ ⟨[1]⟩ := by
    clear hspares hrest hrun
    revert newer
    decide
  by_cases hnone : ∀ x ∈ tr, x.1.isWrite = false
  · have hsame := hspares.otherwise hnone
    rw [hsame] at hrun
    exact hne.1 (Option.some.inj hrun)
  · simp only [not_forall, Bool.not_eq_false] at hnone
    obtain ⟨x, hx, hwrite⟩ := hnone
    exact hne.2 ((hspares.overwrites x hx hwrite).2 newer rfl).1

end Sample

end Sessiometer
