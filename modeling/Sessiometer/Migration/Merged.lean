import Sessiometer.Daemon.Roster
import Sessiometer.Migration.Import

/-! # What an import comes to

The keychain is not trusted here: a write that it acknowledges may have left anything in the item. -/

namespace Sessiometer.Migration

open Effects Keychain Keyed

/-! ## A doubtful keychain -/

/-- The stores, but for the items of the touched stashes. -/
structure Apart (touched : String → Prop) (t t' : Stores) : Prop where
  canonical : t'.canonical = t.canonical
  credentialItem : ∀ s, ¬touched s → t'.credentialItem s = t.credentialItem s
  oauthItem : ∀ s, ¬touched s → t'.oauthItem s = t.oauthItem s

/-- The surroundings of process `pid`, with a keychain whose stash writes are taken on trust: whatever
is answered, an item may have been left as it was, lost, or changed to something else. -/
def doubtful (pid : ℕ) : Device Seams World
  | .addCredential service _, w, _, w' => ∃ t, Apart (· = service) w.stores t ∧ w' = w.setStores t
  | .addOauthAccount service _, w, _, w' => ∃ t, Apart (· = service) w.stores t ∧ w' = w.setStores t
  | o, w, r, w' => surroundings pid o w r w'

/-- Others may do anything while the lock is not ours, and keep off the stores while it is. -/
def Respects (pid : ℕ) (R : World → World → Prop) : Prop :=
  ∀ {w w'}, R w w' → w.swapLock = some pid → w'.swapLock = some pid ∧ w'.stores = w.stores

/-- The stores are written under the lock, and only as `P` allows. -/
def locked (pid : ℕ) (P : Op → Prop) : Device Seams World :=
  fun o w _ _ => o.writesStores = true → w.swapLock = some pid ∧ P o

namespace Apart

variable {touched touched' : String → Prop} {t t' t'' : Stores}

theorem refl (touched : String → Prop) (t : Stores) : Apart touched t t :=
  ⟨rfl, fun _ _ => rfl, fun _ _ => rfl⟩

theorem trans (h : Apart touched t t') (h' : Apart touched t' t'') : Apart touched t t'' where
  canonical := h'.canonical.trans h.canonical
  credentialItem := fun s hs => (h'.credentialItem s hs).trans (h.credentialItem s hs)
  oauthItem := fun s hs => (h'.oauthItem s hs).trans (h.oauthItem s hs)

theorem mono (h : Apart touched t t') (hsub : ∀ s, touched s → touched' s) : Apart touched' t t' where
  canonical := h.canonical
  credentialItem := fun s hs => h.credentialItem s (fun hs' => hs (hsub s hs'))
  oauthItem := fun s hs => h.oauthItem s (fun hs' => hs (hsub s hs'))

theorem stash (h : Apart touched t t') {service : String} (hs : ¬touched service) :
    t'.stash service = t.stash service := by
  unfold Stores.stash
  rw [h.credentialItem service hs, h.oauthItem service hs]

theorem setCredential (service : String) (t : Stores) (payload : List UInt8) :
    Apart (· = service) t (t.setCredential service payload) where
  canonical := rfl
  credentialItem := fun s hs => by simp [Stores.setCredential, hs]
  oauthItem := fun _ _ => rfl

theorem setOauthAccount (service : String) (t : Stores) (raw : Value) :
    Apart (· = service) t (t.setOauthAccount service raw) where
  canonical := rfl
  credentialItem := fun _ _ => rfl
  oauthItem := fun s hs => by simp [Stores.setOauthAccount, hs]

end Apart

/-- A keychain that keeps what it acknowledges is a case of the doubtful one. -/
theorem surroundings_within_doubtful (pid : ℕ) : (surroundings pid).Within (doubtful pid) := by
  have hwrites : ∀ {service w r w' t}, Apart (· = service) w.stores t →
      Writes w (w.setStores t) r w' → ∃ t, Apart (· = service) w.stores t ∧ w' = w.setStores t := by
    intro service w r w' t ht h
    cases r with
    | ok u => exact ⟨t, ht, h⟩
    | error e =>
      rcases h with rfl | h
      · exact ⟨_, Apart.refl _ _, rfl⟩
      · exact ⟨t, ht, h⟩
  intro o w r w' h
  cases o with
  | addCredential service payload => exact hwrites (Apart.setCredential service _ payload) h
  | addOauthAccount service raw => exact hwrites (Apart.setOauthAccount service _ raw) h
  | _ => exact h

section Stash

variable {pid : ℕ} {R : World → World → Prop} {P : Op → Prop} {w : World}

theorem locked_of_reads {o : Op} {w' : World} {r : o.Reply} (ho : o.writesStores = false) :
    locked pid P o w r w' := by
  intro h
  rw [ho] at h
  cases h

theorem wp_doubtful_write {service : String} {a : StashedAccount}
    {Q : Except Error Unit → World → Prop} (hR : Respects pid R) (hlock : w.swapLock = some pid)
    (hP : P (.addCredential service a.credential.blob))
    (hP' : P (.addOauthAccount service a.oauthAccount.raw))
    (h : ∀ r w', w'.swapLock = some pid → Apart (· = service) w.stores w'.stores → Q r w') :
    wp ((doubtful pid).under R) (locked pid P) (AccountStash.write service a).run w Q := by
  unfold AccountStash.write
  rw [wp_except_bind, wp_addCredential]
  rintro r w₂ ⟨w₁, h₁, t, ht, rfl⟩
  obtain ⟨hlock₁, hs₁⟩ := hR h₁ hlock
  rw [hs₁] at ht
  refine ⟨fun _ => ⟨hlock, hP⟩, ?_⟩
  cases r with
  | error e => exact h _ _ hlock₁ ht
  | ok u =>
    dsimp only
    rw [wp_addOauthAccount]
    rintro r w₄ ⟨w₃, h₃, t', ht', rfl⟩
    obtain ⟨hlock₃, hs₃⟩ := hR h₃ hlock₁
    rw [hs₃] at ht'
    exact ⟨fun _ => ⟨hlock₁, hP'⟩, h _ _ hlock₃ (ht.trans ht')⟩

theorem wp_doubtful_read {service : String} {Q : Except Error StashedAccount → World → Prop}
    (hR : Respects pid R) (hlock : w.swapLock = some pid)
    (h : ∀ r w', w'.swapLock = some pid → w'.stores = w.stores →
      (∀ a, r = .ok a → w.stores.stash service = .ok a) → Q r w') :
    wp ((doubtful pid).under R) (locked pid P) (AccountStash.read service).run w Q := by
  unfold AccountStash.read
  rw [wp_except_bind, wp_findCredential]
  rintro r w₂ ⟨w₁, h₁, rfl, hr⟩
  obtain ⟨hlock₁, hs₁⟩ := hR h₁ hlock
  refine ⟨locked_of_reads rfl, ?_⟩
  rw [hs₁] at hr
  cases r with
  | error e => exact h _ _ hlock₁ hs₁ (by simp)
  | ok blob =>
    dsimp only
    rw [wp_except_bind, wp_findOauthAccount]
    rintro r w₄ ⟨w₃, h₃, rfl, hr'⟩
    obtain ⟨hlock₃, hs₃⟩ := hR h₃ hlock₁
    refine ⟨locked_of_reads rfl, ?_⟩
    rw [hs₃, hs₁] at hr'
    cases r with
    | error e => exact h _ _ hlock₃ (hs₃.trans hs₁) (by simp)
    | ok payload =>
      dsimp only
      rw [wp_except_bind]
      cases hd : AccountStash.decodeOauth service payload with
      | error e => exact h _ _ hlock₃ (hs₃.trans hs₁) (by simp)
      | ok oauth =>
        refine h _ _ hlock₃ (hs₃.trans hs₁) ?_
        rintro a ha
        cases ha
        exact Stores.stash_eq_ok_iff.mpr ⟨hr, payload, hr', hd⟩

end Stash

/-! ## One account -/

section Turn

variable (accounts : List ManagedAccount) (activeUuid : Option String) (overwrite : Bool)

/-- The account is new to the roster, or may replace the one that is there. -/
def Attempted (roster : List Account) (a : Account) : Prop :=
  overwrite = true ∨ a.accountUuid ∉ roster.map (·.accountUuid)

instance (roster : List Account) (a : Account) : Decidable (Attempted overwrite roster a) :=
  inferInstanceAs (Decidable (_ ∨ _))

/-- What becomes of an account, by whether the secret that it may bring lands. -/
def outcomeOf (roster : List Account) (landed : Bool) (a : Account) : ImportOutcome :=
  if ¬Attempted overwrite roster a then .skipped
  else if (secretOf accounts a.accountUuid).isSome = true ∧ landed = false then .failed
  else if a.accountUuid ∈ roster.map (·.accountUuid) then .overwritten
  else .imported

/-- The row of an account, as the merge leaves it. -/
def mergeRow (roster : List Account) (landed : Bool) (a : Account) : AccountImport where
  label := a.label
  outcome := outcomeOf accounts overwrite roster landed a
  stagedNotAdopted :=
    (outcomeOf accounts overwrite roster landed a = .imported ||
      outcomeOf accounts overwrite roster landed a = .overwritten) &&
    (secretOf accounts a.accountUuid).isSome && activeUuid == some a.accountUuid

/-- The roster after the turn of an account. -/
def mergeRoster (roster : List Account) (landed : Bool) (a : Account) : List Account :=
  if (mergeRow accounts activeUuid overwrite roster landed a).wrote = true then
    put (·.accountUuid) roster a
  else roster

variable {accounts activeUuid overwrite} {roster : List Account} {a : Account}

theorem rosterPosition_isSome {uuid : String} :
    (rosterPosition roster uuid).isSome = true ↔ uuid ∈ roster.map (·.accountUuid) := by
  cases hp : rosterPosition roster uuid with
  | none => simpa using position_eq_none_iff.mp hp
  | some i =>
    have hp' : position Account.accountUuid roster uuid = some i := hp
    obtain ⟨b, hb, hkey⟩ := getElem?_of_position hp'
    simpa using ⟨b, List.mem_of_getElem? hb, hkey⟩

theorem mergeRow_skipped {landed : Bool} (h : ¬Attempted overwrite roster a) :
    mergeRow accounts activeUuid overwrite roster landed a = ⟨a.label, .skipped, false, false⟩ ∧
      mergeRoster accounts activeUuid overwrite roster landed a = roster := by
  simp [mergeRow, mergeRoster, outcomeOf, AccountImport.wrote, h]

theorem mergeRow_failed (h : Attempted overwrite roster a)
    (hs : (secretOf accounts a.accountUuid).isSome = true) :
    mergeRow accounts activeUuid overwrite roster false a = ⟨a.label, .failed, false, false⟩ ∧
      mergeRoster accounts activeUuid overwrite roster false a = roster := by
  simp [mergeRow, mergeRoster, outcomeOf, AccountImport.wrote, h, hs]

/-- An account whose secret does not land is not written. -/
theorem not_wrote_of_lost (hs : (secretOf accounts a.accountUuid).isSome = true) :
    (mergeRow accounts activeUuid overwrite roster false a).wrote = false := by
  by_cases h : Attempted overwrite roster a
  · rw [(mergeRow_failed h hs).1]
    rfl
  · rw [(mergeRow_skipped h).1]
    rfl

theorem mergeRow_overwritten {idx : ℕ} (h : Attempted overwrite roster a)
    (hp : rosterPosition roster a.accountUuid = some idx) :
    mergeRow accounts activeUuid overwrite roster true a = ⟨a.label, .overwritten,
        (secretOf accounts a.accountUuid).isSome && activeUuid == some a.accountUuid, false⟩ ∧
      mergeRoster accounts activeUuid overwrite roster true a = roster.set idx a := by
  have hin : a.accountUuid ∈ roster.map (·.accountUuid) := by
    rw [← rosterPosition_isSome, hp]
    rfl
  have hput : put (·.accountUuid) roster a = roster.set idx a := by
    have hp' : position (·.accountUuid) roster a.accountUuid = some idx := hp
    simp only [put, hp']
  simp only [mergeRow, mergeRoster, outcomeOf, AccountImport.wrote, h, hin, hput]
  simp

theorem mergeRow_imported (hp : rosterPosition roster a.accountUuid = none) :
    mergeRow accounts activeUuid overwrite roster true a = ⟨a.label, .imported,
        (secretOf accounts a.accountUuid).isSome && activeUuid == some a.accountUuid, false⟩ ∧
      mergeRoster accounts activeUuid overwrite roster true a = roster ++ [a] := by
  have hnot : a.accountUuid ∉ roster.map (·.accountUuid) := by
    rw [← rosterPosition_isSome, hp]
    simp
  have h : Attempted overwrite roster a := .inr hnot
  have hput : put (·.accountUuid) roster a = roster ++ [a] := put_of_not_mem hnot
  simp only [mergeRow, mergeRoster, outcomeOf, AccountImport.wrote, h, hnot, hput]
  simp

/-- The turn of one account leaves every other as it was in the roster. -/
theorem mem_mergeRoster {landed : Bool} {c : Account} (hd : UniqueUuids roster)
    (hne : c.accountUuid ≠ a.accountUuid) :
    c.accountUuid ∈ (mergeRoster accounts activeUuid overwrite roster landed a).map (·.accountUuid) ↔
      c.accountUuid ∈ roster.map (·.accountUuid) := by
  unfold mergeRoster
  split
  · rw [mem_keys_put hd]
    simp [hne]
  · exact Iff.rfl

theorem unique_mergeRoster {landed : Bool} (hd : UniqueUuids roster) :
    UniqueUuids (mergeRoster accounts activeUuid overwrite roster landed a) := by
  unfold mergeRoster
  split
  · exact nodup_put hd
  · exact hd

theorem attempted_mergeRoster {landed : Bool} {c : Account} (hd : UniqueUuids roster)
    (hne : c.accountUuid ≠ a.accountUuid) :
    Attempted overwrite (mergeRoster accounts activeUuid overwrite roster landed a) c ↔
      Attempted overwrite roster c := by
  unfold Attempted
  rw [mem_mergeRoster hd hne]

theorem outcomeOf_mergeRoster {landed landed' : Bool} {c : Account} (hd : UniqueUuids roster)
    (hne : c.accountUuid ≠ a.accountUuid) :
    outcomeOf accounts overwrite (mergeRoster accounts activeUuid overwrite roster landed a) landed' c =
      outcomeOf accounts overwrite roster landed' c := by
  have hgo : Attempted overwrite (mergeRoster accounts activeUuid overwrite roster landed a) c ↔
      Attempted overwrite roster c := attempted_mergeRoster hd hne
  have hmem : c.accountUuid ∈
      (mergeRoster accounts activeUuid overwrite roster landed a).map (·.accountUuid) ↔
      c.accountUuid ∈ roster.map (·.accountUuid) := mem_mergeRoster hd hne
  unfold outcomeOf
  by_cases h : Attempted overwrite roster c
  · by_cases hin : c.accountUuid ∈ roster.map (·.accountUuid)
    · simp only [hgo.mpr h, hmem.mpr hin, h, hin]
    · simp only [hgo.mpr h, mt hmem.mp hin, h, hin]
  · rw [if_pos (mt hgo.mp h), if_pos h]

theorem mergeRow_mergeRoster {landed landed' : Bool} {c : Account} (hd : UniqueUuids roster)
    (hne : c.accountUuid ≠ a.accountUuid) :
    mergeRow accounts activeUuid overwrite
        (mergeRoster accounts activeUuid overwrite roster landed a) landed' c =
      mergeRow accounts activeUuid overwrite roster landed' c := by
  simp only [mergeRow, outcomeOf_mergeRoster hd hne]

end Turn

/-! ## All of them -/

section Turns

variable (accounts : List ManagedAccount) (activeUuid : Option String) (overwrite : Bool)

/-- Whether an account of the artifact is written to the roster. -/
def Written (roster : List Account) (landed : String → Bool) (a : Account) : Bool :=
  (mergeRow accounts activeUuid overwrite roster (landed a.accountUuid) a).wrote

def mergeRows (roster : List Account) (landed : String → Bool) (incoming : List Account) :
    List AccountImport :=
  incoming.map fun a => mergeRow accounts activeUuid overwrite roster (landed a.accountUuid) a

/-- The roster after all turns: what was there keeps its place, replaced or not, and the new accounts
follow. -/
def mergedRoster (roster : List Account) (landed : String → Bool) (incoming : List Account) :
    List Account :=
  puts (·.accountUuid) roster
    (incoming.filter (Written accounts activeUuid overwrite roster landed))

/-- The stashes that the merge may touch. -/
def Touches (roster incoming : List Account) (service : String) : Prop :=
  ∃ a ∈ incoming, service = a.stash ∧ Attempted overwrite roster a ∧
    (secretOf accounts a.accountUuid).isSome = true

variable {accounts activeUuid overwrite} {roster rest : List Account} {a : Account}

theorem merged_cons {v : Bool} {landed : String → Bool} (hd : UniqueUuids roster)
    (ha : a.accountUuid ∉ rest.map (·.accountUuid)) :
    let landed' := fun u => if u = a.accountUuid then v else landed u
    mergedRoster accounts activeUuid overwrite roster landed' (a :: rest) =
        mergedRoster accounts activeUuid overwrite
          (mergeRoster accounts activeUuid overwrite roster v a) landed rest ∧
      mergeRows accounts activeUuid overwrite roster landed' (a :: rest) =
        mergeRow accounts activeUuid overwrite roster v a ::
          mergeRows accounts activeUuid overwrite
            (mergeRoster accounts activeUuid overwrite roster v a) landed rest := by
  intro landed'
  have hself : landed' a.accountUuid = v := if_pos rfl
  have hrow : ∀ c ∈ rest, mergeRow accounts activeUuid overwrite roster (landed' c.accountUuid) c =
      mergeRow accounts activeUuid overwrite (mergeRoster accounts activeUuid overwrite roster v a)
        (landed c.accountUuid) c := by
    intro c hc
    have hne : c.accountUuid ≠ a.accountUuid := fun h => ha (h ▸ List.mem_map_of_mem hc)
    rw [mergeRow_mergeRoster hd hne, show landed' c.accountUuid = landed c.accountUuid from if_neg hne]
  have hfilter : rest.filter (Written accounts activeUuid overwrite roster landed') =
      rest.filter (Written accounts activeUuid overwrite
        (mergeRoster accounts activeUuid overwrite roster v a) landed) := by
    apply List.filter_congr
    intro c hc
    simp only [Written, hrow c hc]
  constructor
  · unfold mergedRoster
    rw [← hfilter]
    by_cases hw : (mergeRow accounts activeUuid overwrite roster v a).wrote = true
    · rw [List.filter_cons_of_pos (by simpa [Written, hself] using hw), puts, mergeRoster, if_pos hw]
    · rw [List.filter_cons_of_neg (by simpa [Written, hself] using hw), mergeRoster, if_neg hw]
  · unfold mergeRows
    rw [List.map_cons, hself, List.map_congr_left hrow]

end Turns

section Staged

variable [SerdeJson] [SerdeToVec] [Sha256Hex]
variable {pid : ℕ} {R : World → World → Prop} {P : Op → Prop} {w : World}

/-- The stash reads, and both its halves have the digests of what the artifact carries. -/
def Holds (managed : ManagedAccount) (service : String) (t : Stores) : Prop :=
  ∃ oauthAccount readback, fromObjectBytes managed.oauthAccount = .ok oauthAccount ∧
    t.stash service = .ok readback ∧ verified ⟨⟨managed.credential⟩, oauthAccount⟩ readback = true

theorem Holds.apart {managed : ManagedAccount} {service : String} {touched : String → Prop}
    {t t' : Stores} (h : Holds managed service t) (ht : Apart touched t t') (hs : ¬touched service) :
    Holds managed service t' := by
  obtain ⟨oauthAccount, readback, ho, hread, hv⟩ := h
  exact ⟨oauthAccount, readback, ho, (ht.stash hs).trans hread, hv⟩

/-- The two writes that stage an account. -/
def Staging (managed : ManagedAccount) (service : String) (o : Op) : Prop :=
  o = .addCredential service managed.credential ∨
    ∃ oauthAccount, fromObjectBytes managed.oauthAccount = .ok oauthAccount ∧
      o = .addOauthAccount service oauthAccount.raw

theorem wp_writeAndVerify {service : String} {managed : ManagedAccount}
    {Q : Except VerifyError Unit → World → Prop} (hR : Respects pid R)
    (hlock : w.swapLock = some pid) (hP : ∀ o, Staging managed service o → P o)
    (h : ∀ r w', w'.swapLock = some pid → Apart (· = service) w.stores w'.stores →
      (r = .ok () → Holds managed service w'.stores) → Q r w') :
    wp ((doubtful pid).under R) (locked pid P) (writeAndVerify service managed) w Q := by
  unfold writeAndVerify
  cases ho : fromObjectBytes managed.oauthAccount with
  | error e => exact h _ _ hlock (Apart.refl _ _) (by simp)
  | ok oauthAccount =>
    dsimp only
    rw [wp_bind]
    refine wp_doubtful_write hR hlock (hP _ (.inl rfl)) (hP _ (.inr ⟨_, ho, rfl⟩)) ?_
    intro r w₁ hlock₁ ht₁
    cases r with
    | error e => exact h _ _ hlock₁ ht₁ (by simp)
    | ok u =>
      dsimp only
      rw [wp_bind]
      refine wp_doubtful_read hR hlock₁ ?_
      intro r w₂ hlock₂ hs₂ hread
      have ht₂ : Apart (· = service) w.stores w₂.stores := hs₂ ▸ ht₁
      cases r with
      | error e => exact h _ _ hlock₂ ht₂ (by simp)
      | ok readback =>
        dsimp only
        by_cases hv : verified ⟨⟨managed.credential⟩, oauthAccount⟩ readback = true
        · rw [if_pos hv]
          exact h _ _ hlock₂ ht₂ fun _ => ⟨_, _, ho, hs₂ ▸ hread _ rfl, hv⟩
        · rw [if_neg hv]
          exact h _ _ hlock₂ ht₂ (by simp)

variable {accounts : List ManagedAccount} {activeUuid : Option String} {overwrite : Bool}
variable {roster : List Account} {a : Account}

theorem wp_importAccount {Q : List Account × AccountImport → World → Prop} (hR : Respects pid R)
    (hlock : accounts ≠ [] → w.swapLock = some pid)
    (hP : Attempted overwrite roster a → ∀ managed, secretOf accounts a.accountUuid = some managed →
      ∀ o, Staging managed a.stash o → P o)
    (h : ∀ landed w', (accounts ≠ [] → w'.swapLock = some pid) →
      Apart (fun s => s = a.stash ∧ Attempted overwrite roster a ∧
        (secretOf accounts a.accountUuid).isSome = true) w.stores w'.stores →
      (landed = true → ∀ managed, secretOf accounts a.accountUuid = some managed →
        Holds managed a.stash w'.stores) →
      Q (mergeRoster accounts activeUuid overwrite roster landed a,
        mergeRow accounts activeUuid overwrite roster landed a) w') :
    wp ((doubtful pid).under R) (locked pid P)
      (importAccount accounts activeUuid overwrite roster a) w Q := by
  have hmem : (rosterPosition roster a.accountUuid).isSome = true ↔
      a.accountUuid ∈ roster.map (·.accountUuid) := rosterPosition_isSome
  unfold importAccount
  dsimp only
  by_cases hgo : Attempted overwrite roster a
  · have hcond : ¬((rosterPosition roster a.accountUuid).isSome && !overwrite) = true := by
      intro hc
      simp only [Bool.and_eq_true, Bool.not_eq_true'] at hc
      rcases hgo with hover | hnot
      · rw [hc.2] at hover
        cases hover
      · exact hnot (hmem.mp hc.1)
    rw [if_neg hcond]
    cases hs : secretOf accounts a.accountUuid with
    | none =>
      have hrow := h true w hlock (Apart.refl _ _) (by simp [hs])
      cases hp : rosterPosition roster a.accountUuid with
      | none =>
        rw [(mergeRow_imported hp).1, (mergeRow_imported hp).2, hs] at hrow
        exact hrow
      | some i =>
        rw [(mergeRow_overwritten hgo hp).1, (mergeRow_overwritten hgo hp).2, hs] at hrow
        exact hrow
    | some managed =>
      have hne : accounts ≠ [] := by
        rintro rfl
        simp [secretOf] at hs
      dsimp only
      rw [wp_bind]
      refine wp_writeAndVerify hR (hlock hne) (hP hgo managed hs) ?_
      intro r w' hlock' ht hr
      have ht' : Apart (fun s => s = a.stash ∧ Attempted overwrite roster a ∧
          (secretOf accounts a.accountUuid).isSome = true) w.stores w'.stores :=
        ht.mono (fun s h => ⟨h, hgo, by simp [hs]⟩)
      cases r with
      | error e =>
        have hrow := h false w' (fun _ => hlock') ht' (by simp)
        have hsome : (secretOf accounts a.accountUuid).isSome = true := by simp [hs]
        rw [(mergeRow_failed hgo hsome).1, (mergeRow_failed hgo hsome).2] at hrow
        exact hrow
      | ok u =>
        have hrow := h true w' (fun _ => hlock') ht' (fun _ m hm => by
          rw [hs, Option.some.injEq] at hm
          exact hm ▸ hr rfl)
        cases hp : rosterPosition roster a.accountUuid with
        | none =>
          rw [(mergeRow_imported hp).1, (mergeRow_imported hp).2, hs] at hrow
          exact hrow
        | some i =>
          rw [(mergeRow_overwritten hgo hp).1, (mergeRow_overwritten hgo hp).2, hs] at hrow
          exact hrow
  · have hcond : ((rosterPosition roster a.accountUuid).isSome && !overwrite) = true := by
      unfold Attempted at hgo
      push Not at hgo
      simp [hmem.mpr hgo.2, hgo.1]
    rw [if_pos hcond]
    have hrow := h false w hlock (Apart.refl _ _) (by simp)
    rw [(mergeRow_skipped hgo).1, (mergeRow_skipped hgo).2] at hrow
    exact hrow

theorem wp_importAccounts {incoming : List Account}
    {Q : List Account × List AccountImport → World → Prop} (hR : Respects pid R)
    (hd : UniqueUuids roster) (hi : UniqueUuids incoming)
    (hlock : accounts ≠ [] → w.swapLock = some pid)
    (hP : ∀ a ∈ incoming, Attempted overwrite roster a →
      ∀ managed, secretOf accounts a.accountUuid = some managed →
        ∀ o, Staging managed a.stash o → P o)
    (h : ∀ landed w', (accounts ≠ [] → w'.swapLock = some pid) →
      Apart (Touches accounts overwrite roster incoming) w.stores w'.stores →
      (∀ a ∈ incoming, Written accounts activeUuid overwrite roster landed a = true →
        ∀ managed, secretOf accounts a.accountUuid = some managed →
          Holds managed a.stash w'.stores) →
      Q (mergedRoster accounts activeUuid overwrite roster landed incoming,
        mergeRows accounts activeUuid overwrite roster landed incoming) w') :
    wp ((doubtful pid).under R) (locked pid P)
      (importAccounts accounts activeUuid overwrite roster incoming) w Q := by
  induction incoming generalizing roster w Q with
  | nil => exact h (fun _ => false) w hlock (Apart.refl _ _) (by simp)
  | cons a rest ih =>
    have hi' : a.accountUuid ∉ rest.map (·.accountUuid) ∧ UniqueUuids rest := by
      simpa [UniqueUuids] using hi
    have hne : ∀ c ∈ rest, c.accountUuid ≠ a.accountUuid :=
      fun c hc hk => hi'.1 (hk ▸ List.mem_map_of_mem hc)
    unfold importAccounts
    rw [wp_bind]
    refine wp_importAccount hR hlock (hP a (by simp)) ?_
    intro v w₁ hlock₁ ht₁ hholds₁
    dsimp only
    rw [wp_bind]
    refine ih (unique_mergeRoster hd) hi'.2 hlock₁ ?_ ?_
    · intro c hc hgo
      exact hP c (by simp [hc]) ((attempted_mergeRoster hd (hne c hc)).mp hgo)
    intro landed w₂ hlock₂ ht₂ hholds₂
    have hrest : ∀ s, Touches accounts overwrite
        (mergeRoster accounts activeUuid overwrite roster v a) rest s →
        Touches accounts overwrite roster (a :: rest) s ∧ s ≠ a.stash := by
      rintro s ⟨c, hc, rfl, hgo, hsome⟩
      have hgo' := (attempted_mergeRoster hd (hne c hc)).mp hgo
      exact ⟨⟨c, by simp [hc], rfl, hgo', hsome⟩, fun h => hne c hc (stash_injective h)⟩
    rw [Prog.pure_eq, wp_pure, ← (merged_cons hd hi'.1).1, ← (merged_cons hd hi'.1).2]
    refine h _ w₂ hlock₂ ?_ ?_
    · have ht₁' : Apart (Touches accounts overwrite roster (a :: rest)) w.stores w₁.stores :=
        ht₁.mono (fun s hs => ⟨a, by simp, hs⟩)
      exact ht₁'.trans (ht₂.mono fun s hs => (hrest s hs).1)
    · intro c hc hw managed hm
      by_cases hk : c = a
      · subst hk
        have hself : Written accounts activeUuid overwrite roster
            (fun u => if u = c.accountUuid then v else landed u) c =
            (mergeRow accounts activeUuid overwrite roster v c).wrote := by
          simp [Written]
        rw [hself] at hw
        have hv : v = true := by
          cases v with
          | true => rfl
          | false =>
            rw [not_wrote_of_lost (by rw [hm]; rfl)] at hw
            cases hw
        exact (hholds₁ hv managed hm).apart ht₂ (fun hs => (hrest _ hs).2 rfl)
      · have hc' : c ∈ rest := (List.mem_cons.mp hc).resolve_left hk
        have hcw : Written accounts activeUuid overwrite
            (mergeRoster accounts activeUuid overwrite roster v a) landed c = true := by
          have hneq := hne c hc'
          simpa [Written, mergeRow_mergeRoster hd hneq, hneq] using hw
        exact hholds₂ c hc' hcw managed hm

end Staged

end Sessiometer.Migration
