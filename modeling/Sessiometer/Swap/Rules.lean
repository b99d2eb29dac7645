import Sessiometer.Swap.Engine

namespace Sessiometer

open Effects

section Operations

variable {D G : Device Seams World} {w : World}

theorem wp_readCanonical {Q : Except Error Credential → World → Prop} :
    wp D G CredentialStore.read.run w Q ↔
      ∀ (r : Except Error Credential) w', D .readCanonical w r w' →
        G .readCanonical w r w' ∧ Q r w' := Iff.rfl

theorem wp_writeCanonical {c : Credential} {Q : Except Error Unit → World → Prop} :
    wp D G (CredentialStore.write c).run w Q ↔
      ∀ (r : Except Error Unit) w', D (.writeCanonical c) w r w' →
        G (.writeCanonical c) w r w' ∧ Q r w' := Iff.rfl

theorem wp_findCredential {s : String} {Q : Except Error (List UInt8) → World → Prop} :
    wp D G (AccountStash.findCredential s).run w Q ↔
      ∀ (r : Except Error (List UInt8)) w', D (.findCredential s) w r w' →
        G (.findCredential s) w r w' ∧ Q r w' := Iff.rfl

theorem wp_findOauthAccount {s : String} {Q : Except Error OauthPayload → World → Prop} :
    wp D G (AccountStash.findOauthAccount s).run w Q ↔
      ∀ (r : Except Error OauthPayload) w', D (.findOauthAccount s) w r w' →
        G (.findOauthAccount s) w r w' ∧ Q r w' := Iff.rfl

theorem wp_addCredential {s : String} {p : List UInt8} {Q : Except Error Unit → World → Prop} :
    wp D G (AccountStash.addCredential s p).run w Q ↔
      ∀ (r : Except Error Unit) w', D (.addCredential s p) w r w' →
        G (.addCredential s p) w r w' ∧ Q r w' := Iff.rfl

theorem wp_addOauthAccount {s : String} {v : Value} {Q : Except Error Unit → World → Prop} :
    wp D G (AccountStash.addOauthAccount s v).run w Q ↔
      ∀ (r : Except Error Unit) w', D (.addOauthAccount s v) w r w' →
        G (.addOauthAccount s v) w r w' ∧ Q r w' := Iff.rfl

theorem wp_readRoot {Q : Except Error Value → World → Prop} :
    wp D G ClaudeState.readRoot.run w Q ↔
      ∀ (r : Except Error Value) w', D .readClaudeJson w r w' →
        G .readClaudeJson w r w' ∧ Q r w' := Iff.rfl

theorem wp_writeRoot {root : Value} {Q : Except Error Unit → World → Prop} :
    wp D G (ClaudeState.writeRoot root).run w Q ↔
      ∀ (r : Except Error Unit) w', D (.writeClaudeJson root) w r w' →
        G (.writeClaudeJson root) w r w' ∧ Q r w' := Iff.rfl

theorem wp_acquire {Q : Except Error Unit → World → Prop} :
    wp D G SwapLock.acquire.run w Q ↔
      ∀ (r : Except Error Unit) w', D .acquireSwapLock w r w' →
        G .acquireSwapLock w r w' ∧ Q r w' := Iff.rfl

theorem wp_release {Q : Unit → World → Prop} :
    wp D G SwapLock.release w Q ↔
      ∀ (r : Unit) w', D .releaseSwapLock w r w' → G .releaseSwapLock w r w' ∧ Q r w' := Iff.rfl

end Operations

/-- A guarantee about the stores alone. -/
def onStores (P : Op → Stores → Stores → Prop) : Device Seams World :=
  fun o w _ w' => P o w.stores w'.stores

/-- The guarantee asks nothing of the operations that write nothing. -/
def FreeReads (P : Op → Stores → Stores → Prop) : Prop :=
  ∀ o t, o.isWrite = false → P o t t

/-- Nor of the writes of the display. -/
def FreeDisplay (P : Op → Stores → Stores → Prop) : Prop :=
  ∀ root t, P (.writeClaudeJson root) t t

/-- Interference that leaves the stores alone. -/
structure KeepsStores (R : World → World → Prop) : Prop where
  stores : ∀ {w w'}, R w w' → w'.stores = w.stores
  trans : ∀ {w w' w''}, R w w' → R w' w'' → R w w''

theorem KeepsStores.eq : KeepsStores Eq where
  stores := by
    rintro w w' rfl
    rfl
  trans := Eq.trans

section Rules

variable {pid : ℕ} {R : World → World → Prop} {P : Op → Stores → Stores → Prop} {w : World}

/-- One operation that leaves the stores alone, among others that do. -/
theorem under_stores {o : Op} {w w' : World} {r : o.Reply} (hR : KeepsStores R)
    (ho : o.writesStores = false) (h : (surroundings pid).under R o w r w') :
    w'.stores = w.stores := by
  obtain ⟨w₁, h₁, h₂⟩ := h
  rw [surroundings_stores ho h₂, hR.stores h₁]

theorem free_guarantee {o : Op} {w w' : World} {r : o.Reply} (hR : KeepsStores R)
    (hP : FreeReads P) (ho : o.isWrite = false)
    (h : (surroundings pid).under R o w r w') : onStores P o w r w' := by
  unfold onStores
  rw [under_stores hR (Op.writesStores_of_isWrite ho) h]
  exact hP o w.stores ho

theorem wp_canonical_read {Q : Except Error Credential → World → Prop}
    (hR : KeepsStores R) (hP : FreeReads P)
    (h : ∀ r w', R w w' → Reads w.stores.canonical .credentialNotFound r → Q r w') :
    wp ((surroundings pid).under R) (onStores P) CredentialStore.read.run w Q := by
  rw [wp_readCanonical]
  intro r w' hd
  refine ⟨free_guarantee hR hP rfl hd, ?_⟩
  obtain ⟨w₁, h₁, rfl, hr⟩ := hd
  rw [hR.stores h₁] at hr
  exact h r w' h₁ hr

theorem wp_stash_read {service : String} {Q : Except Error StashedAccount → World → Prop}
    (hR : KeepsStores R) (hP : FreeReads P)
    (h : ∀ r w', R w w' → (∀ a, r = .ok a → w.stores.stash service = .ok a) → Q r w') :
    wp ((surroundings pid).under R) (onStores P) (AccountStash.read service).run w Q := by
  unfold AccountStash.read
  rw [wp_except_bind, wp_findCredential]
  intro r w₁ hd
  refine ⟨free_guarantee hR hP rfl hd, ?_⟩
  obtain ⟨w₀, h₁, rfl, hr⟩ := hd
  cases r with
  | error e => exact h _ _ h₁ (by simp)
  | ok blob =>
    dsimp only
    rw [wp_except_bind, wp_findOauthAccount]
    intro r w₂ hd
    refine ⟨free_guarantee hR hP rfl hd, ?_⟩
    obtain ⟨w₀, h₂, rfl, hr'⟩ := hd
    cases r with
    | error e => exact h _ _ (hR.trans h₁ h₂) (by simp)
    | ok payload =>
      dsimp only
      rw [wp_except_bind]
      cases hd : AccountStash.decodeOauth service payload with
      | error e => exact h _ _ (hR.trans h₁ h₂) (by simp)
      | ok oauth =>
        refine h _ _ (hR.trans h₁ h₂) ?_
        rintro a ha
        cases ha
        rw [hR.stores h₁] at hr
        rw [hR.stores h₂, hR.stores h₁] at hr'
        exact Stores.stash_eq_ok_iff.mpr ⟨hr, payload, hr', hd⟩

/-- The stores after a write that may fail. -/
def StoresAfter (t written : Stores) (r : Except Error Unit) (t' : Stores) : Prop :=
  (t' = t ∨ t' = written) ∧ (r = .ok () → t' = written)

theorem StoresAfter.of_writes {w w₁ w' : World} {r : Except Error Unit} {f : Stores → Stores}
    (hs : w₁.stores = w.stores) (h : Writes w₁ (w₁.setStores (f w₁.stores)) r w') :
    StoresAfter w.stores (f w.stores) r w'.stores := by
  unfold Writes at h
  rw [hs] at h
  cases r with
  | ok u => exact ⟨.inr (by rw [h]; rfl), fun _ => by rw [h]; rfl⟩
  | error e =>
    refine ⟨?_, by simp⟩
    rcases h with rfl | rfl
    · exact .inl hs
    · exact .inr rfl

theorem wp_canonical_write {c : Credential} {Q : Except Error Unit → World → Prop}
    (hR : KeepsStores R)
    (hP : ∀ t', t' = w.stores ∨ t' = w.stores.setCanonical c →
      P (.writeCanonical c) w.stores t')
    (h : ∀ r w', StoresAfter w.stores (w.stores.setCanonical c) r w'.stores → Q r w') :
    wp ((surroundings pid).under R) (onStores P) (CredentialStore.write c).run w Q := by
  rw [wp_writeCanonical]
  rintro r w' ⟨w₁, h₁, h₂⟩
  have hs := StoresAfter.of_writes (f := (·.setCanonical c)) (hR.stores h₁) h₂
  exact ⟨hP _ hs.1, h r w' hs⟩

/-- What a write of a stash may leave, its two items being written one after the other. -/
def StashAfter (t : Stores) (service : String) (a : StashedAccount) (r : Except Error Unit)
    (t' : Stores) : Prop :=
  let half := t.setCredential service a.credential.blob
  let whole := half.setOauthAccount service a.oauthAccount.raw
  (t' = t ∨ t' = half ∨ t' = whole) ∧ (r = .ok () → t' = whole)

theorem wp_stash_write {service : String} {a : StashedAccount}
    {Q : Except Error Unit → World → Prop} (hR : KeepsStores R)
    (hP : ∀ t', t' = w.stores ∨ t' = w.stores.setCredential service a.credential.blob →
      P (.addCredential service a.credential.blob) w.stores t')
    (hP' : ∀ t', t' = w.stores.setCredential service a.credential.blob ∨
        t' = (w.stores.setCredential service a.credential.blob).setOauthAccount service
          a.oauthAccount.raw →
      P (.addOauthAccount service a.oauthAccount.raw)
        (w.stores.setCredential service a.credential.blob) t')
    (h : ∀ r w', StashAfter w.stores service a r w'.stores → Q r w') :
    wp ((surroundings pid).under R) (onStores P) (AccountStash.write service a).run w Q := by
  unfold AccountStash.write
  rw [wp_except_bind, wp_addCredential]
  rintro r w' ⟨w₁, h₁, h₂⟩
  have hs := StoresAfter.of_writes (f := (·.setCredential service a.credential.blob))
    (hR.stores h₁) h₂
  refine ⟨hP _ hs.1, ?_⟩
  cases r with
  | error e => exact h _ _ ⟨hs.1.imp id .inl, by simp⟩
  | ok u =>
    have hw := hs.2 rfl
    dsimp only
    rw [wp_addOauthAccount]
    rintro r w'' ⟨w₂, h₃, h₄⟩
    have hs' := StoresAfter.of_writes (f := (·.setOauthAccount service a.oauthAccount.raw))
      (hR.stores h₃) h₄
    unfold onStores
    rw [hw] at hs' ⊢
    exact ⟨hP' _ hs'.1, h r w'' ⟨.inr hs'.1, hs'.2⟩⟩

/-- What `swapInputs` has found when it succeeds. -/
structure InputsOf (t : Stores) (outgoing incoming : String) (x : SwapInputs) : Prop where
  canonical : t.canonical = some x.outgoingCurrent
  outgoing : t.stash outgoing = .ok x.outgoingPrev
  incoming : t.stash incoming = .ok x.incoming
  guard : x.wrongIdentity = false

theorem wp_swapInputs {outgoing incoming : String} {Q : Except Error SwapInputs → World → Prop}
    (hR : KeepsStores R) (hP : FreeReads P)
    (h : ∀ r w', R w w' → (∀ x, r = .ok x → InputsOf w.stores outgoing incoming x) → Q r w') :
    wp ((surroundings pid).under R) (onStores P) (swapInputs outgoing incoming).run w Q := by
  unfold swapInputs
  rw [wp_except_bind]
  refine wp_canonical_read hR hP ?_
  intro r w₁ h₁ hcur
  cases r with
  | error e => exact h _ _ h₁ (by simp)
  | ok cur =>
    dsimp only
    rw [wp_except_bind]
    refine wp_stash_read hR hP ?_
    intro r w₂ h₂ hprev
    rw [hR.stores h₁] at hprev
    have h₁₂ := hR.trans h₁ h₂
    cases r with
    | error e => exact h _ _ h₁₂ (by simp)
    | ok prev =>
      dsimp only
      rw [wp_except_bind]
      refine wp_stash_read hR hP ?_
      intro r w₃ h₃ hinc
      rw [hR.stores h₁₂] at hinc
      have h₁₃ := hR.trans h₁₂ h₃
      cases r with
      | error e => exact h _ _ h₁₃ (by simp)
      | ok inc =>
        dsimp only
        split
        · exact h _ _ h₁₃ (by simp)
        · next hg =>
          refine h _ _ h₁₃ ?_
          rintro x hx
          cases hx
          exact ⟨hcur, hprev _ rfl, hinc _ rfl, by simpa using hg⟩

theorem wp_writeOauthAccount {oauth : OauthAccount} {Q : Except Error Unit → World → Prop}
    (hR : KeepsStores R) (hP : FreeReads P) (hD : FreeDisplay P)
    (h : ∀ r w', w'.stores = w.stores → Q r w') :
    wp ((surroundings pid).under R) (onStores P) (ClaudeState.writeOauthAccount oauth).run w Q := by
  unfold ClaudeState.writeOauthAccount
  rw [wp_except_bind, wp_readRoot]
  intro r w₁ hd
  refine ⟨free_guarantee hR hP rfl hd, ?_⟩
  have h₁ := under_stores hR rfl hd
  cases r with
  | error e => exact h _ _ h₁
  | ok root =>
    dsimp only
    cases hroot : root.insert "oauthAccount" oauth.raw with
    | none => exact h _ _ h₁
    | some root' =>
      dsimp only
      rw [wp_writeRoot]
      intro r w₂ hd
      have h₂ := under_stores hR rfl hd
      refine ⟨?_, h r w₂ (h₂.trans h₁)⟩
      unfold onStores
      rw [h₂]
      exact hD root' w₁.stores

/-- A program that is run for its outcome only, as `.is_ok()` does. -/
theorem wp_lift_map {α β : Type} {D G : Device Seams World} {p : Attempt α}
    {f : Except Error α → β} {Q : Except Error β → World → Prop} :
    wp D G (ExceptT.lift (f <$> p.run) : Attempt β).run w Q ↔
      wp D G p.run w (fun r w' => Q (.ok (f r)) w') := by
  have he : (ExceptT.lift (f <$> p.run) : Attempt β).run = (p.run >>= fun r => .pure (.ok (f r))) := by
    simp only [ExceptT.run_lift, map_eq_pure_bind, bind_assoc, Prog.pure_eq, Prog.pure_bind']
  rw [he, wp_bind]
  rfl

/-- What installing a credential may leave. -/
def InstallAfter (t : Stores) (c : Credential) (r : Except Error SwapReport) (t' : Stores) : Prop :=
  (t' = t ∨ t' = t.setCanonical c) ∧ (∀ rep, r = .ok rep → t' = t.setCanonical c)

theorem wp_installIncoming {incoming : StashedAccount} {Q : Except Error SwapReport → World → Prop}
    (hR : KeepsStores R) (hfree : FreeReads P) (hD : FreeDisplay P)
    (hP : ∀ t', t' = w.stores ∨ t' = w.stores.setCanonical incoming.credential →
      P (.writeCanonical incoming.credential) w.stores t')
    (h : ∀ r w', InstallAfter w.stores incoming.credential r w'.stores → Q r w') :
    wp ((surroundings pid).under R) (onStores P) (installIncoming incoming).run w Q := by
  unfold installIncoming
  rw [wp_except_bind]
  refine wp_canonical_write hR hP ?_
  intro r w₁ h₁
  cases r with
  | error e => exact h _ _ ⟨h₁.1, by simp⟩
  | ok u =>
    have hw := h₁.2 rfl
    dsimp only
    rw [wp_except_bind, wp_lift_map]
    refine wp_writeOauthAccount hR hfree hD ?_
    intro cowritten w₂ h₂
    dsimp only
    rw [wp_except_bind, wp_lift_map]
    refine wp_canonical_read hR hfree ?_
    intro confirmed w₃ h₃ _
    have h₁₃ : w₃.stores = w.stores.setCanonical incoming.credential := by
      rw [hR.stores h₃, h₂, hw]
    exact h _ _ ⟨.inr h₁₃, fun _ _ => h₁₃⟩

/-- The outgoing account re-stashed: its two items, one after the other. -/
def Stores.restashHalf (t : Stores) (outgoing : String) (x : SwapInputs) : Stores :=
  t.setCredential outgoing x.outgoingCurrent.blob

def Stores.restash (t : Stores) (outgoing : String) (x : SwapInputs) : Stores :=
  (t.restashHalf outgoing x).setOauthAccount outgoing x.outgoingPrev.oauthAccount.raw

/-- The stores after a whole swap. -/
def Stores.swapped (t : Stores) (outgoing : String) (x : SwapInputs) : Stores :=
  (t.restash outgoing x).setCanonical x.incoming.credential

/-- The guarantee admits the writes of a swap, landed or not. -/
structure SwapAllowed (P : Op → Stores → Stores → Prop) (t : Stores) (outgoing : String)
    (x : SwapInputs) : Prop where
  credential : ∀ t', t' = t ∨ t' = t.restashHalf outgoing x →
    P (.addCredential outgoing x.outgoingCurrent.blob) t t'
  identity : ∀ t', t' = t.restashHalf outgoing x ∨ t' = t.restash outgoing x →
    P (.addOauthAccount outgoing x.outgoingPrev.oauthAccount.raw) (t.restashHalf outgoing x) t'
  canonical : ∀ t', t' = t.restash outgoing x ∨ t' = t.swapped outgoing x →
    P (.writeCanonical x.incoming.credential) (t.restash outgoing x) t'

/-- What the writes of a swap may leave, and what they leave when the swap succeeds. -/
def SwapAfter (t : Stores) (outgoing : String) (x : SwapInputs) (r : Except Error SwapReport)
    (t' : Stores) : Prop :=
  (t' = t ∨ t' = t.restashHalf outgoing x ∨ t' = t.restash outgoing x ∨
      t' = t.swapped outgoing x) ∧
    (∀ rep, r = .ok rep → t' = t.swapped outgoing x)

theorem wp_swapWrites {outgoing : String} {x : SwapInputs}
    {Q : Except Error SwapReport → World → Prop} (hR : KeepsStores R) (hfree : FreeReads P)
    (hD : FreeDisplay P) (hP : SwapAllowed P w.stores outgoing x)
    (h : ∀ r w', SwapAfter w.stores outgoing x r w'.stores → Q r w') :
    wp ((surroundings pid).under R) (onStores P) (swapWrites outgoing x).run w Q := by
  unfold swapWrites
  rw [wp_except_bind]
  refine wp_stash_write hR hP.credential hP.identity ?_
  intro r w₁ h₁
  cases r with
  | error e =>
    refine h _ _ ⟨?_, by simp⟩
    rcases h₁.1 with ht | ht | ht
    · exact .inl ht
    · exact .inr (.inl ht)
    · exact .inr (.inr (.inl ht))
  | ok u =>
    have hw : w₁.stores = w.stores.restash outgoing x := h₁.2 rfl
    dsimp only
    refine wp_installIncoming hR hfree hD ?_ ?_
    · rw [hw]
      exact hP.canonical
    · intro r w₂ h₂
      unfold InstallAfter at h₂
      rw [hw] at h₂
      exact h _ _ ⟨.inr (.inr h₂.1), h₂.2⟩

/-- A swap either fails before its first write, or writes what its inputs say. -/
def SwapOutcome (t : Stores) (outgoing incoming : String) (r : Except Error SwapReport)
    (t' : Stores) : Prop :=
  (∃ e, r = .error e ∧ t' = t) ∨
    ∃ x, InputsOf t outgoing incoming x ∧ SwapAfter t outgoing x r t'

theorem wp_swap {outgoing incoming : String} {Q : Except Error SwapReport → World → Prop}
    (hR : KeepsStores R) (hfree : FreeReads P) (hD : FreeDisplay P)
    (hP : ∀ x, InputsOf w.stores outgoing incoming x → SwapAllowed P w.stores outgoing x)
    (h : ∀ r w', SwapOutcome w.stores outgoing incoming r w'.stores → Q r w') :
    wp ((surroundings pid).under R) (onStores P) (swap outgoing incoming).run w Q := by
  unfold swap
  rw [wp_except_bind]
  refine wp_swapInputs hR hfree ?_
  intro r w₁ h₁ hx
  have hs := hR.stores h₁
  cases r with
  | error e => exact h _ _ (.inl ⟨e, rfl, hs⟩)
  | ok x =>
    have hin := hx x rfl
    dsimp only
    refine wp_swapWrites hR hfree hD ?_ ?_
    · rw [hs]
      exact hP x hin
    · intro r w₂ h₂
      rw [hs] at h₂
      exact h _ _ (.inr ⟨x, hin, h₂⟩)

theorem wp_adoptTarget {incoming : String} {Q : Except Error SwapReport → World → Prop}
    (hR : KeepsStores R) (hfree : FreeReads P) (hD : FreeDisplay P)
    (hP : ∀ a t', w.stores.stash incoming = .ok a →
      t' = w.stores ∨ t' = w.stores.setCanonical a.credential →
        P (.writeCanonical a.credential) w.stores t')
    (h : ∀ r w', (∃ e, r = .error e ∧ w'.stores = w.stores) ∨
      (∃ a, w.stores.stash incoming = .ok a ∧ InstallAfter w.stores a.credential r w'.stores) →
      Q r w') :
    wp ((surroundings pid).under R) (onStores P) (adoptTarget incoming).run w Q := by
  unfold adoptTarget
  rw [wp_except_bind]
  refine wp_stash_read hR hfree ?_
  intro r w₁ h₁ ha
  have hs := hR.stores h₁
  cases r with
  | error e => exact h _ _ (.inl ⟨e, rfl, hs⟩)
  | ok a =>
    have ha := ha a rfl
    have install : ∀ w₂, w₂.stores = w.stores →
        wp ((surroundings pid).under R) (onStores P) (installIncoming a).run w₂ Q := by
      intro w₂ h₂
      refine wp_installIncoming hR hfree hD ?_ ?_
      · rw [h₂]
        exact fun t' => hP a t' ha
      · intro r w₃ h₃
        rw [h₂] at h₃
        exact h _ _ (.inr ⟨a, ha, h₃⟩)
    dsimp only
    rw [wp_except_bind, ← id_map CredentialStore.read.run, wp_lift_map]
    refine wp_canonical_read hR hfree ?_
    intro r w₂ h₂ _
    have hs₂ : w₂.stores = w.stores := (hR.stores h₂).trans hs
    cases r with
    | ok c => exact install w₂ hs₂
    | error e =>
      cases e with
      | credentialNotFound => exact install w₂ hs₂
      | _ => exact h _ _ (.inl ⟨_, rfl, hs₂⟩)

end Rules

end Sessiometer
