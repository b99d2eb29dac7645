import Sessiometer.Daemon.Upkeep

/-! # What a reconciliation does

The canonical credential that a tick has read is compared with the baseline; a change is re-stashed
for the account it may be taken for, or surfaced. -/

namespace Sessiometer

open Effects

section Alone

variable {pid : ℕ} {P : Op → Stores → Stores → Prop} {w : World}

theorem wp_alone {α : Type} {p : Seam α} {Q : α → World → Prop}
    (h : wp ((surroundings pid).under Eq) (onStores P) p w Q) :
    wp (surroundings pid) (onStores P) p w Q :=
  wp_device h (fun _ _ _ _ => surroundings_under_eq) (fun _ _ _ _ _ h => h)

theorem wp_stashRead_alone (hfree : FreeReads P) (service : String) :
    wp (surroundings pid) (onStores P) (AccountStash.read service).run w
      (fun r w' => w' = w ∧ ∀ a, r = .ok a → w.stores.stash service = .ok a) := by
  apply wp_alone
  apply wp_stash_read KeepsStores.eq hfree
  rintro r w' rfl ha
  exact ⟨rfl, ha⟩

theorem wp_readOauthAccount_alone (hfree : FreeReads P) :
    wp (surroundings pid) (onStores P) ClaudeState.readOauthAccount.run w
      (fun r w' => w' = w ∧ ∀ oauth, r = .ok oauth → w.displayed = .ok oauth) := by
  unfold ClaudeState.readOauthAccount
  rw [wp_except_bind, wp_readRoot]
  rintro r w' ⟨rfl, hr⟩
  refine ⟨hfree _ _ rfl, ?_⟩
  cases r with
  | error e =>
    refine ⟨rfl, ?_⟩
    intro oauth h
    cases h
  | ok root =>
    refine ⟨rfl, ?_⟩
    intro oauth h
    unfold World.displayed
    rw [show w'.claudeJson = some root from hr]
    exact h

/-- The account that a canonical credential may be taken for: one whose stash holds it, or the one
that the display names. -/
inductive MayResolve (w : World) (roster : List Account) (c : Credential) (i : ℕ) : Prop
  | token {account : Account} {stashed : StashedAccount} : roster[i]? = some account →
      w.stores.stash account.stash = .ok stashed → stashed.credential = c → MayResolve w roster c i
  | display {oauth : OauthAccount} : w.displayed = .ok oauth →
      rosterPosition roster oauth.accountUuid = some i → MayResolve w roster c i

theorem wp_firstMatching_alone (hfree : FreeReads P) (c : Credential) (roster : List Account)
    (i : ℕ) :
    wp (surroundings pid) (onStores P) (firstMatching c none roster i) w
      (fun r w' => w' = w ∧ ∀ x, r = some x → ∃ j account, x.1 = i + j ∧
        roster[j]? = some account ∧ w.stores.stash account.stash = .ok x.2 ∧
        x.2.credential = c) := by
  induction roster generalizing i with
  | nil =>
    refine ⟨rfl, ?_⟩
    intro x hx
    cases hx
  | cons account rest ih =>
    have hrest : wp (surroundings pid) (onStores P) (firstMatching c none rest (i + 1)) w
        (fun r w' => w' = w ∧ ∀ x, r = some x → ∃ j a, x.1 = i + j ∧
          (account :: rest)[j]? = some a ∧ w.stores.stash a.stash = .ok x.2 ∧
          x.2.credential = c) := by
      apply wp_mono (ih (i + 1))
      rintro r w' ⟨rfl, h⟩
      refine ⟨rfl, ?_⟩
      intro x hx
      obtain ⟨j, a, hj, hget, hstash, hc⟩ := h x hx
      exact ⟨j + 1, a, by omega, hget, hstash, hc⟩
    unfold firstMatching
    rw [if_neg (Option.some_ne_none i).symm, wp_bind]
    apply wp_mono (wp_stashRead_alone hfree account.stash)
    rintro r w' ⟨rfl, ha⟩
    cases r with
    | error e => exact hrest
    | ok stashed =>
      dsimp only
      split
      · next hm =>
        refine ⟨rfl, ?_⟩
        intro x hx
        cases hx
        exact ⟨0, account, rfl, rfl, ha _ rfl, Credential.matches_iff.mp hm⟩
      · exact hrest

theorem wp_resolveAccountFor_alone (hfree : FreeReads P) (roster : List Account) (c : Credential) :
    wp (surroundings pid) (onStores P) (Active.resolveAccountFor roster c) w
      (fun r w' => w' = w ∧ ∀ i, r = some i → MayResolve w roster c i) := by
  unfold Active.resolveAccountFor
  rw [wp_bind]
  apply wp_mono (wp_firstMatching_alone hfree c roster 0)
  rintro r w' ⟨rfl, h⟩
  cases r with
  | some x =>
    refine ⟨rfl, ?_⟩
    intro i hi
    cases hi
    obtain ⟨j, account, hj, hget, hstash, hc⟩ := h x rfl
    rw [Nat.zero_add] at hj
    rw [hj]
    exact .token hget hstash hc
  | none =>
    unfold Active.resolveViaDisplay
    rw [wp_bind]
    apply wp_mono (wp_readOauthAccount_alone hfree)
    rintro r w' ⟨rfl, hd⟩
    cases r with
    | error e =>
      refine ⟨rfl, ?_⟩
      intro i hi
      cases hi
    | ok oauth =>
      refine ⟨rfl, ?_⟩
      intro i hi
      exact .display (hd oauth rfl) hi

/-- The identity that a re-stash may pair the credential with. -/
inductive IdentityFor (w : World) (account : Account) (oauth : OauthAccount) : Prop
  | stashed {existing : StashedAccount} : w.stores.stash account.stash = .ok existing →
      existing.oauthAccount = oauth → IdentityFor w account oauth
  | displayed : w.displayed = .ok oauth → account.accountUuid = oauth.accountUuid →
      IdentityFor w account oauth

theorem wp_restashIdentity_alone (hfree : FreeReads P) (account : Account) :
    wp (surroundings pid) (onStores P) (restashIdentity account) w
      (fun r w' => w' = w ∧ ∀ oauth, r = some oauth → IdentityFor w account oauth) := by
  unfold restashIdentity
  rw [wp_bind]
  apply wp_mono (wp_stashRead_alone hfree account.stash)
  rintro r w' ⟨rfl, ha⟩
  cases r with
  | ok existing =>
    refine ⟨rfl, ?_⟩
    intro oauth h
    cases h
    exact .stashed (ha existing rfl) rfl
  | error e =>
    dsimp only
    rw [wp_bind]
    apply wp_mono (wp_readOauthAccount_alone hfree)
    rintro r w' ⟨rfl, hd⟩
    cases r with
    | error e =>
      refine ⟨rfl, ?_⟩
      intro oauth h
      cases h
    | ok displayed =>
      refine ⟨rfl, ?_⟩
      intro oauth h
      split at h
      · next huuid =>
        cases h
        exact .displayed (hd displayed rfl) huuid
      · cases h

/-- The guarantee lets this credential be written to the stash of the account. -/
structure RestashAllowed (P : Op → Stores → Stores → Prop) (t : Stores) (account : Account)
    (c : Credential) : Prop where
  credential : ∀ t', t' = t ∨ t' = t.setCredential account.stash c.blob →
    P (.addCredential account.stash c.blob) t t'
  identity : ∀ (oauth : OauthAccount) t', t' = t.setCredential account.stash c.blob ∨
      t' = (t.setCredential account.stash c.blob).setOauthAccount account.stash oauth.raw →
    P (.addOauthAccount account.stash oauth.raw) (t.setCredential account.stash c.blob) t'

/-- What a re-stash may leave: its two items, or the first, or nothing; a success is both. -/
def RestashAfter (w : World) (account : Account) (c : Credential) (wrote : Bool) (t' : Stores) :
    Prop :=
  (t' = w.stores ∧ wrote = false) ∨ ∃ oauth, IdentityFor w account oauth ∧
    StashAfter w.stores account.stash ⟨c, oauth⟩ (if wrote then .ok () else .error .io) t'

theorem wp_restashAccount_alone (hfree : FreeReads P) (account : Account) (c : Credential)
    (hallowed : RestashAllowed P w.stores account c) :
    wp (surroundings pid) (onStores P) (restashAccount account c) w
      (fun r w' => RestashAfter w account c r w'.stores) := by
  unfold restashAccount
  rw [wp_bind]
  apply wp_mono (wp_restashIdentity_alone hfree account)
  rintro r w' ⟨rfl, ho⟩
  cases r with
  | none => exact .inl ⟨rfl, rfl⟩
  | some oauth =>
    dsimp only
    rw [map_eq_pure_bind, wp_bind]
    apply wp_alone
    apply wp_stash_write KeepsStores.eq hallowed.credential (hallowed.identity oauth)
    intro r w'' hs
    refine .inr ⟨oauth, ho oauth rfl, ?_⟩
    cases r with
    | ok u => exact hs
    | error e =>
      refine ⟨hs.1, ?_⟩
      intro h
      cases h

theorem wp_wallClockNowSecs_alone (hfree : FreeReads P) (d : Daemon) :
    wp (surroundings pid) (onStores P) (wallClockNowSecs.run d) w
      (fun r w' => r.2 = d ∧ w' = w) := by
  intro ms w' hd
  have hw : w' = w := hd
  subst hw
  exact ⟨hfree _ _ rfl, rfl, rfl⟩

end Alone

/-! ## What is written of the core -/

namespace Daemon

variable (d : Daemon)

theorem restashed_core [SerdeJson] (i : ℕ) (c : Credential) (nowSecs : Int) :
    (d.restashed i c nowSecs).core = { d.core with
      active := none
      canonicalWatch := ⟨some c⟩
      externalChanges := d.core.externalChanges ++ [.reStash (d.account i).label] } := by
  let emitted := d.emit (.reStash (d.account i).label)
  let lifted := (emitted.noteRestashExpiry i ((refreshTokenExpiresAt c.blob).map millisToSecs)
    (d.grantReplaced c) nowSecs).liftQuarantine i
  let probed := lifted.deactivateRecoveryProbe lifted.active (some i)
  have hframe : probed.frame = emitted.frame :=
    (deactivateRecoveryProbe_frame lifted _ _).trans
      ((liftQuarantine_frame _ i).trans (noteRestashExpiry_frame emitted i _ _ _))
  have hcore : (d.restashed i c nowSecs).core =
      { probed.core with active := none, canonicalWatch := ⟨some c⟩ } := rfl
  rw [hcore, core_of_frame hframe]
  simp [emitted, core, emit, Event.isExternalChange]

theorem uncaptured_core (accountUuid : Option String) (c : Credential) :
    (d.uncaptured accountUuid c).core = { d.core with
      active := none
      canonicalWatch := ⟨some c⟩
      externalChanges := d.core.externalChanges ++ [.uncapturedLogin accountUuid] } := by
  simp [uncaptured, commitCanonical, dropActive, core, emit, Event.isExternalChange,
    CanonicalWatch.commit]

@[simp] theorem commitCanonical_core (c : Credential) :
    (d.commitCanonical c).core = { d.core with canonicalWatch := ⟨some c⟩ } := rfl

@[simp] theorem swapRecorded_core (target : ℕ) (at' : Nanos) :
    (d.swapRecorded target at').core = { d.core with active := some target } := rfl

end Daemon

/-- What a record of a swap writes: the active account, and the baseline if the stash reads. -/
theorem wp_recordSwap_alone {pid : ℕ} {P : Op → Stores → Stores → Prop} (hfree : FreeReads P)
    {d : Daemon} {w : World} (target : ℕ) (incoming : String) (at' : Nanos) :
    wp (surroundings pid) (onStores P) ((recordSwap target incoming at').run d) w
      (fun r w' => w' = w ∧ (r.2.core = { d.core with active := some target } ∨
        ∃ stashed, w.stores.stash incoming = .ok stashed ∧ r.2.core = { d.core with
          active := some target
          canonicalWatch := ⟨some stashed.credential⟩ })) := by
  unfold recordSwap
  rw [wp_state_bind, wp_modify, wp_state_bind]
  unfold attempt
  rw [wp_state_lift]
  apply wp_mono (wp_stashRead_alone hfree incoming)
  rintro r w' ⟨rfl, ha⟩
  cases r with
  | error e => exact ⟨rfl, .inl rfl⟩
  | ok stashed => exact ⟨rfl, .inr ⟨stashed, ha _ rfl, rfl⟩⟩

/-! ## The reconciliation -/

/-- Every way a reconciliation may go: from a daemon and a world, the daemon and the stores after. -/
inductive Reconciled [SerdeJson] (d : Daemon) (w : World) (c : Credential) :
    Daemon → Stores → Prop
  | primed : d.canonicalWatch.classify c = .primed →
      Reconciled d w c (d.commitCanonical c) w.stores
  | unchanged : d.canonicalWatch.classify c = .unchanged → Reconciled d w c d w.stores
  | restashed {i : ℕ} {nowSecs : Int} {oauth : OauthAccount} :
      d.canonicalWatch.classify c = .changed → MayResolve w d.roster c i →
      IdentityFor w (d.account i) oauth →
      Reconciled d w c (d.restashed i c nowSecs)
        ((w.stores.setCredential (d.account i).stash c.blob).setOauthAccount (d.account i).stash
          oauth.raw)
  | failed {i : ℕ} {t' : Stores} :
      d.canonicalWatch.classify c = .changed → MayResolve w d.roster c i →
      RestashAfter w (d.account i) c false t' → Reconciled d w c d t'
  | uncaptured {accountUuid : Option String} : d.canonicalWatch.classify c = .changed →
      Reconciled d w c (d.uncaptured accountUuid c) w.stores

section Reconcile

variable {P : Op → Stores → Stores → Prop} {w : World} [SerdeJson]

theorem wp_healChange_some (pid : ℕ) (hfree : FreeReads P) (d : Daemon) (c : Credential) (i : ℕ)
    (hallowed : RestashAllowed P w.stores (d.account i) c) :
    wp (surroundings pid) (onStores P) ((healChange c (some i)).run d) w (fun r w' =>
      (r.2 = d ∧ RestashAfter w (d.account i) c false w'.stores) ∨
      ∃ nowSecs oauth, r.2 = d.restashed i c nowSecs ∧ IdentityFor w (d.account i) oauth ∧
        w'.stores = (w.stores.setCredential (d.account i).stash c.blob).setOauthAccount
          (d.account i).stash oauth.raw) := by
  unfold healChange
  rw [wp_state_bind, wp_get, wp_state_bind, wp_state_lift]
  apply wp_mono (wp_restashAccount_alone hfree (d.account i) c hallowed)
  intro wrote w' hafter
  cases wrote with
  | false => exact .inl ⟨rfl, hafter⟩
  | true =>
    rcases hafter with ⟨-, hf⟩ | ⟨oauth, hid, hs⟩
    · cases hf
    · have hstores : w'.stores = _ := hs.2 rfl
      dsimp only
      rw [if_pos rfl, wp_state_bind]
      apply wp_mono (wp_wallClockNowSecs_alone hfree d)
      rintro ⟨nowSecs, d'⟩ w'' ⟨rfl, rfl⟩
      exact .inr ⟨nowSecs, oauth, rfl, hid, hstores⟩

theorem wp_healChange_none (pid : ℕ) (hfree : FreeReads P) (d : Daemon) (c : Credential) :
    wp (surroundings pid) (onStores P) ((healChange c none).run d) w
      (fun r w' => w' = w ∧ ∃ accountUuid, r.2 = d.uncaptured accountUuid c) := by
  unfold healChange
  rw [wp_state_bind]
  unfold attempt
  rw [wp_state_lift]
  apply wp_mono (wp_readOauthAccount_alone hfree)
  rintro displayed w' ⟨rfl, -⟩
  exact ⟨rfl, _, rfl⟩

theorem wp_reconcileCanonicalChange (pid : ℕ) (hfree : FreeReads P) (d : Daemon) (c : Credential)
    (hallowed : d.canonicalWatch.classify c = .changed → ∀ i, MayResolve w d.roster c i →
      RestashAllowed P w.stores (d.account i) c) :
    wp (surroundings pid) (onStores P) ((reconcileCanonicalChange c).run d) w
      (fun r w' => Reconciled d w c r.2 w'.stores) := by
  unfold reconcileCanonicalChange
  rw [wp_state_bind, wp_get]
  dsimp only
  cases hclass : d.canonicalWatch.classify c with
  | primed => exact .primed hclass
  | unchanged => exact .unchanged hclass
  | changed =>
    dsimp only
    rw [wp_state_bind]
    unfold resolveAccountFor
    rw [wp_state_bind, wp_get, wp_state_lift]
    apply wp_mono (wp_resolveAccountFor_alone hfree d.roster c)
    rintro resolved w' ⟨rfl, hr⟩
    cases resolved with
    | none =>
      apply wp_mono (wp_healChange_none pid hfree d c)
      rintro ⟨u, d'⟩ w'' ⟨rfl, accountUuid, rfl⟩
      exact .uncaptured hclass
    | some i =>
      have hi := hr i rfl
      apply wp_mono (wp_healChange_some pid hfree d c i (hallowed hclass i hi))
      rintro ⟨u, d'⟩ w'' (⟨rfl, hafter⟩ | ⟨nowSecs, oauth, rfl, hid, hstores⟩)
      · exact .failed hclass hi hafter
      · rw [hstores]
        exact .restashed hclass hi hid

/-- The reconciliation's runs, one by one. -/
theorem exec_reconcileCanonicalChange {pid : ℕ} {d d' : Daemon} {w' : World} {c : Credential}
    (h : Exec (surroundings pid) ((reconcileCanonicalChange c).run d) w ((), d') w') :
    Reconciled d w c d' w'.stores := by
  have hallowed : d.canonicalWatch.classify c = .changed → ∀ i, MayResolve w d.roster c i →
      RestashAllowed (fun _ _ _ => True) w.stores (d.account i) c :=
    fun _ _ _ => ⟨fun _ _ => trivial, fun _ _ _ => trivial⟩
  have hwp := wp_reconcileCanonicalChange pid (fun _ _ _ => trivial) d c hallowed
  have hres := wp_exec hwp h
  exact hres

theorem roster_of_reconciled {d d' : Daemon} {t' : Stores} {c : Credential}
    (h : Reconciled d w c d' t') : d'.roster = d.roster := by
  cases h with
  | restashed _ _ _ => exact congrArg Core.roster (d.restashed_core _ c _)
  | _ => rfl

end Reconcile

end Sessiometer
