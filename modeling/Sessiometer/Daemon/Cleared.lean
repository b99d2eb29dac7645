import Sessiometer.Daemon.Steady
import Sessiometer.Daemon.Departure
import Sessiometer.Daemon.LockedSwap

/-! # A cleared canonical item and the live stashes

Clearing leaves a blob whose refresh token is empty. The tick that reads it knows that it is
cleared, and still may write it over a stash: when it takes the change for a login, and when it
swaps. -/

namespace Sessiometer

open Effects

section Standing

/-- A quarantine that was lifted. -/
def Event.isCredentialRestored : Event → Bool
  | .credentialRestored _ => true
  | _ => false

/-- The quarantines, and those reported as lifted. -/
def Daemon.standing (d : Daemon) : (ℕ → Bool) × List Event :=
  (fun j => (d.accounts j).health.quarantined, d.events.filter Event.isCredentialRestored)

namespace Daemon

variable (d : Daemon) (i : ℕ)

theorem standing_eq_iff {d₀ : Daemon} (h : d₀.events = []) : d.standing = d₀.standing ↔
    (∀ j, (d.accounts j).health.quarantined = (d₀.accounts j).health.quarantined) ∧
      ∀ label, .credentialRestored label ∉ d.events := by
  unfold standing
  rw [Prod.mk.injEq, funext_iff, h, List.filter_nil, List.filter_eq_nil_iff]
  apply and_congr_right
  intro _
  constructor
  · intro hevents label hlabel
    exact hevents _ hlabel rfl
  · intro hevents e he
    cases e with
    | credentialRestored label => exact absurd he (hevents label)
    | _ => exact Bool.false_ne_true

theorem setHealth_standing {f : AccountHealth → AccountHealth}
    (h : (f (d.accounts i).health).quarantined = (d.accounts i).health.quarantined) :
    (d.setHealth i f).standing = d.standing := by
  unfold standing setHealth setAccount
  congr 1
  funext j
  by_cases hj : j = i
  · subst hj
    simp only [Function.update_self, h]
  · simp only [Function.update_of_ne hj]

theorem emit_standing {e : Event} (h : e.isCredentialRestored = false) :
    (d.emit e).standing = d.standing := by
  unfold standing emit
  simp only [List.filter_append, List.filter_cons, h, Bool.false_eq_true, if_false, List.filter_nil,
    List.append_nil]

theorem emitIf_standing (c : Bool) {e : Event} (h : e.isCredentialRestored = false) :
    (d.emitIf c e).standing = d.standing := by
  unfold emitIf
  split
  · exact emit_standing d h
  · rfl

theorem noteExpiryHorizonEdge_standing (deadline nowSecs : Int) :
    (d.noteExpiryHorizonEdge i deadline nowSecs).standing = d.standing := by
  unfold noteExpiryHorizonEdge
  dsimp only
  split
  · split
    · rfl
    · rw [emit_standing _ rfl, setHealth_standing _ _ rfl]
  · split
    · rfl
    · rw [emit_standing _ rfl, setHealth_standing _ _ rfl]
  · exact setHealth_standing _ _ rfl
  · rfl

theorem noteRestashExpiry_standing (observed : Option Int) (grantReplaced : Option Bool)
    (nowSecs : Int) :
    (d.noteRestashExpiry i observed grantReplaced nowSecs).standing = d.standing := by
  unfold noteRestashExpiry foldExpiryObservation
  cases observed with
  | none => rfl
  | some deadline =>
    dsimp only
    rw [noteExpiryHorizonEdge_standing, emitIf_standing _ _ rfl, setHealth_standing _ _ rfl]

theorem deactivateRecoveryProbe_standing (prev next : Option ℕ) :
    (d.deactivateRecoveryProbe prev next).standing = d.standing := by
  unfold deactivateRecoveryProbe
  cases prev with
  | none => rfl
  | some j =>
    dsimp only
    split
    · rfl
    · split
      · exact setHealth_standing _ _ rfl
      · rfl

theorem liftQuarantine_of_live (h : (d.accounts i).health.quarantined = false) :
    d.liftQuarantine i = d := by
  unfold liftQuarantine
  rw [h, if_neg Bool.false_ne_true]

theorem liftQuarantine_live : ((d.liftQuarantine i).accounts i).health.quarantined = false := by
  unfold liftQuarantine
  split
  · simp [emit, setHealth, setAccount]
  · next h => exact Bool.eq_false_iff.mpr h

variable [SerdeJson] (c : Credential) (nowSecs : Int)

/-- A re-stash for an account that is not quarantined lifts nothing. -/
theorem restashed_standing (h : (d.accounts i).health.quarantined = false) :
    (d.restashed i c nowSecs).standing = d.standing := by
  let noted := (d.emit (.reStash (d.account i).label)).noteRestashExpiry i
    ((refreshTokenExpiresAt c.blob).map millisToSecs) (d.grantReplaced c) nowSecs
  have hnoted : noted.standing = d.standing := by
    rw [noteRestashExpiry_standing, emit_standing _ rfl]
  have hlive : (noted.accounts i).health.quarantined = false := by
    rw [← h]
    exact congrFun (congrArg Prod.fst hnoted) i
  unfold restashed
  dsimp only
  rw [show noted.liftQuarantine i = noted from liftQuarantine_of_live noted i hlive, ← hnoted]
  exact deactivateRecoveryProbe_standing noted _ _

/-- A re-stash leaves its account out of quarantine. -/
theorem restashed_live : ((d.restashed i c nowSecs).accounts i).health.quarantined = false := by
  let noted := (d.emit (.reStash (d.account i).label)).noteRestashExpiry i
    ((refreshTokenExpiresAt c.blob).map millisToSecs) (d.grantReplaced c) nowSecs
  have hlifted := liftQuarantine_live noted i
  rw [← hlifted]
  exact congrFun (congrArg Prod.fst (deactivateRecoveryProbe_standing (noted.liftQuarantine i)
    (noted.liftQuarantine i).active (some i))) i

omit [SerdeJson] in
theorem uncaptured_standing (accountUuid : Option String) :
    (d.uncaptured accountUuid c).standing = d.standing :=
  emit_standing d rfl

end Daemon

end Standing

/-! ## The stashes -/

section Stashes

variable [SerdeJson]

/-- The stash holds a refresh token that is not empty. -/
def Stores.HoldsLive (t : Stores) (service : String) : Prop :=
  ∃ blob, t.credentialItem service = some blob ∧ hasLiveRefreshToken ⟨blob⟩ = true

/-- The blob is that of a cleared item: its refresh token is there, and empty. -/
def Credential.Cleared (c : Credential) : Prop := canonicalLiveness (some c) false = .scrubbed

theorem Credential.Cleared.not_live {c : Credential} (h : c.Cleared) :
    hasLiveRefreshToken c = false := by
  unfold Credential.Cleared canonicalLiveness at h
  unfold hasLiveRefreshToken
  dsimp only at h
  cases hrt : refreshToken c.blob with
  | none => rfl
  | some rt =>
    rw [hrt] at h
    cases hempty : rt.isEmpty with
    | true => simp [hempty]
    | false => simp [hempty] at h

theorem holdsLive_iff {t : Stores} {service : String} {a : StashedAccount}
    (h : t.stash service = .ok a) :
    t.HoldsLive service ↔ hasLiveRefreshToken a.credential = true := by
  have hitem := (Stores.stash_eq_ok_iff.mp h).1
  constructor
  · rintro ⟨blob, hblob, hlive⟩
    cases hitem.symm.trans hblob
    exact hlive
  · intro hlive
    exact ⟨a.credential.blob, hitem, hlive⟩

/-- The blob is written over no live stash of the roster. -/
def Spares (roster : List Account) (c : Credential) (o : Op) (t _t' : Stores) : Prop :=
  match o with
  | .addCredential service payload =>
    payload = c.blob → (∃ a ∈ roster, a.stash = service) → ¬ t.HoldsLive service
  | _ => True

theorem spares_free {roster : List Account} {c : Credential} : FreeReads (Spares roster c) := by
  intro o t ho
  cases o <;> trivial

theorem spares_quiet {roster : List Account} {c : Credential} : FreeQuiet (Spares roster c) := by
  intro o t ho
  cases o <;> trivial

end Stashes

/-! ## The swap -/

section Swap

variable [SerdeJson] {pid : ℕ} {w : World} {roster : List Account} {c : Credential}

/-- The engine does not write the blob over a live stash: the canonical item holds something else,
one of the stashes does not read, the outgoing one is not live, or the guard recognises the incoming
account. -/
def EngineSpares (roster : List Account) (t : Stores) (c : Credential) (outgoing incoming : String) :
    Prop :=
  (∃ a ∈ roster, a.stash = outgoing) → t.canonical = some c → ∀ prev inc,
    t.stash outgoing = .ok prev → hasLiveRefreshToken prev.credential = true →
    t.stash incoming = .ok inc → inc.credential = c

theorem swapAllowed_of_spares {t : Stores} {outgoing incoming : String} {x : SwapInputs}
    (hc : c.Cleared) (hspares : EngineSpares roster t c outgoing incoming)
    (hx : InputsOf t outgoing incoming x) : SwapAllowed (Spares roster c) t outgoing x where
  credential := by
    intro _ _ hblob hmem hlive
    have hcur : x.outgoingCurrent = c := by
      cases hxc : x.outgoingCurrent
      cases hcc : c
      rw [hxc, hcc] at hblob
      exact congrArg Credential.mk hblob
    have hprev := (holdsLive_iff hx.outgoing).mp hlive
    have hinc := hspares hmem (hcur ▸ hx.canonical) _ _ hx.outgoing hprev hx.incoming
    have hne : ¬ x.outgoingCurrent.matches x.outgoingPrev.credential = true := by
      intro hm
      have heq := Credential.matches_iff.mp hm
      rw [← heq, hcur, hc.not_live] at hprev
      cases hprev
    have hguard := hx.guard
    unfold SwapInputs.wrongIdentity at hguard
    rw [Bool.eq_false_iff.mpr hne, Credential.matches_iff.mpr (hcur.trans hinc.symm)] at hguard
    cases hguard
  identity := fun _ _ => trivial
  canonical := fun _ _ => trivial

omit [SerdeJson] in
/-- The write with which a swap goes on from inputs that pass the guard. -/
theorem allowed_of_swap {P : Op → Stores → Stores → Prop} {outgoing incoming : String}
    {x : SwapInputs} (hx : InputsOf w.stores outgoing incoming x)
    (h : wp (surroundings pid) (onStores P) (swap outgoing incoming).run w (fun _ _ => True)) :
    P (.addCredential outgoing x.outgoingCurrent.blob) w.stores
      (w.stores.setCredential outgoing x.outgoingCurrent.blob) := by
  have he := exec_of_run (calmly_refines pid) (swapInputs outgoing incoming).run w
  rw [run_swapInputs hx] at he
  unfold swap at h
  rw [wp_except_bind] at h
  have hwrites := wp_exec h he
  unfold swapWrites AccountStash.write at hwrites
  dsimp only at hwrites
  rw [wp_except_bind, wp_except_bind, wp_addCredential] at hwrites
  have hd : surroundings pid (.addCredential outgoing x.outgoingCurrent.blob) w
    (.ok () : Except Error Unit)
    (w.setStores (w.stores.setCredential outgoing x.outgoingCurrent.blob)) := rfl
  exact (hwrites _ _ hd).1

omit [SerdeJson] in
/-- The same under the swap lock, when that is free. -/
theorem allowed_of_swapLocked {P : Op → Stores → Stores → Prop} {outgoing incoming : String}
    {x : SwapInputs} (hl : w.swapLock = none) (hx : InputsOf w.stores outgoing incoming x)
    (h : wp (surroundings pid) (onStores P) (swapLocked outgoing incoming).run w (fun _ _ => True)) :
    P (.addCredential outgoing x.outgoingCurrent.blob) w.stores
      (w.stores.setCredential outgoing x.outgoingCurrent.blob) := by
  unfold swapLocked withSwapLock at h
  rw [wp_except_bind, wp_acquire] at h
  have hd : surroundings pid .acquireSwapLock w (.ok () : Except Error Unit)
    { w with swapLock := some pid } := ⟨hl, rfl⟩
  have hbody := (h _ _ hd).2
  dsimp only at hbody
  rw [wp_except_bind, ← id_map (swap outgoing incoming).run, wp_lift_map] at hbody
  have hswap : wp (surroundings pid) (onStores P) (swap outgoing incoming).run
      { w with swapLock := some pid } (fun _ _ => True) := wp_mono hbody (fun _ _ _ => trivial)
  exact allowed_of_swap (w := { w with swapLock := some pid }) hx hswap

/-- A locked swap is guaranteed exactly when it does not come to such a write: the lock is taken, or
the engine itself spares the stash. -/
theorem wp_lockedSwap_spares (hc : c.Cleared) {d : Daemon} (hroster : d.roster = roster)
    (outgoing incoming : String) (force : Bool) :
    wp (surroundings pid) (onStores (Spares roster c)) ((lockedSwap outgoing incoming force).run d) w
      (fun _ _ => True) ↔
      (w.swapLock = none → EngineSpares roster w.stores c outgoing incoming) := by
  constructor
  · intro h hl hmem hcanonical prev inc hprev hlive hinc
    by_contra hne
    have hguard : (⟨c, prev, inc⟩ : SwapInputs).wrongIdentity = false := by
      unfold SwapInputs.wrongIdentity
      dsimp only
      rw [Bool.eq_false_iff.mpr (fun hm => hne (Credential.matches_iff.mp hm).symm), Bool.and_false]
    have hx : InputsOf w.stores outgoing incoming ⟨c, prev, inc⟩ := ⟨hcanonical, hprev, hinc, hguard⟩
    subst hroster
    obtain ⟨d', w₁, hgate, hs, hl'⟩ := exec_swapGate_passes pid force hmem hcanonical
    have hlocked := wp_state_after h hgate
    unfold attempt at hlocked
    rw [wp_state_lift] at hlocked
    rw [← hs] at hx
    have hwrite := allowed_of_swapLocked (hl'.trans hl) hx hlocked
    apply hwrite rfl hmem
    rw [hs]
    exact (holdsLive_iff hprev).mpr hlive
  · intro hspares
    unfold lockedSwap
    rw [wp_state_bind]
    apply wp_mono (wp_quiet (quiet_swapGate outgoing force d) spares_quiet)
    rintro ⟨r, d'⟩ w₁ ⟨hs, hl⟩
    cases r with
    | error e => exact trivial
    | ok u =>
      unfold attempt
      rw [wp_state_lift]
      apply wp_withSwapLock spares_free (fun _ => trivial)
      intro hfree w₂ hw
      have hstores : w₂.stores = w.stores := hw.trans hs
      refine wp_mono (wp_swap_alone pid outgoing incoming spares_free (fun _ _ => trivial) ?_)
        (fun _ _ _ _ _ => trivial)
      intro x hx
      rw [hstores] at hx ⊢
      exact swapAllowed_of_spares hc (hspares (hl ▸ hfree)) hx

end Swap

/-! ## The re-stash -/

section Runs

variable {pid : ℕ} {w : World} {roster : List Account} {c : Credential}

theorem exec_stashRead {service : String} {stashed : StashedAccount}
    (h : w.stores.stash service = .ok stashed) :
    Exec (surroundings pid) (AccountStash.read service).run w (.ok stashed) w := by
  have he := exec_of_run (calmly_refines pid) (AccountStash.read service).run w
  rw [run_stash_read, h] at he
  exact he

/-- Any read of a stash may fail. -/
theorem exec_stashRead_fails (service : String) :
    Exec (surroundings pid) (AccountStash.read service).run w (.error .io) w := by
  have hd : surroundings pid (.findCredential service) w (.error .io : Except Error (List UInt8)) w :=
    ⟨rfl, by simp [Reads]⟩
  exact exec_call hd exec_done

theorem exec_readOauthAccount {oauth : OauthAccount} (h : w.displayed = .ok oauth) :
    Exec (surroundings pid) ClaudeState.readOauthAccount.run w (.ok oauth) w := by
  unfold World.displayed at h
  cases hroot : w.claudeJson with
  | none =>
    rw [hroot] at h
    cases h
  | some root =>
    rw [hroot] at h
    have hd : surroundings pid .readClaudeJson w (.ok root : Except Error Value) w := ⟨rfl, hroot⟩
    unfold ClaudeState.readOauthAccount
    refine exec_except_bind (exec_call hd exec_done) ?_
    rw [show ClaudeState.oauthAccountOf root = .ok oauth from h]
    exact exec_done

theorem exec_firstMatching_fails (i : ℕ) :
    Exec (surroundings pid) (firstMatching c none roster i) w none w := by
  induction roster generalizing i with
  | nil => exact exec_done
  | cons account rest ih =>
    unfold firstMatching
    rw [if_neg (Option.some_ne_none i).symm]
    exact exec_bind_iff.mpr ⟨_, w, exec_stashRead_fails account.stash, ih (i + 1)⟩

theorem exec_firstMatching {i j : ℕ} {account : Account} {stashed : StashedAccount}
    (hget : roster[j]? = some account) (hstash : w.stores.stash account.stash = .ok stashed)
    (hc : stashed.credential = c) :
    Exec (surroundings pid) (firstMatching c none roster i) w (some (i + j, stashed)) w := by
  induction roster generalizing i j with
  | nil => simp at hget
  | cons head rest ih =>
    unfold firstMatching
    rw [if_neg (Option.some_ne_none i).symm]
    cases j with
    | zero =>
      cases hget
      refine exec_bind_iff.mpr ⟨_, w, exec_stashRead hstash, ?_⟩
      dsimp only
      rw [if_pos (Credential.matches_iff.mpr hc)]
      exact exec_done
    | succ j =>
      refine exec_bind_iff.mpr ⟨_, w, exec_stashRead_fails head.stash, ?_⟩
      rw [show i + (j + 1) = (i + 1) + j by omega]
      exact ih hget

/-- Every account that the credential may be taken for, some run takes it for. -/
theorem exec_resolveAccountFor {i : ℕ} (h : MayResolve w roster c i) :
    Exec (surroundings pid) (Active.resolveAccountFor roster c) w (some i) w := by
  unfold Active.resolveAccountFor
  cases h with
  | token hget hstash hc =>
    have hfirst : Exec (surroundings pid) (firstMatching c none roster 0) w (some (0 + i, _)) w :=
      exec_firstMatching hget hstash hc
    rw [Nat.zero_add] at hfirst
    exact exec_bind_iff.mpr ⟨_, w, hfirst, exec_done⟩
  | display hdisplayed hposition =>
    refine exec_bind_iff.mpr ⟨none, w, exec_firstMatching_fails 0, ?_⟩
    unfold Active.resolveViaDisplay
    refine exec_bind_iff.mpr ⟨_, w, exec_readOauthAccount hdisplayed, ?_⟩
    dsimp only
    rw [hposition]
    exact exec_done

theorem account_of_getElem {d : Daemon} {i : ℕ} {account : Account}
    (h : d.roster[i]? = some account) : d.account i = account := by
  unfold Daemon.account
  rw [List.getD_eq_getElem?_getD, h, Option.getD_some]

theorem getElem_of_rosterPosition {accountUuid : String} {i : ℕ}
    (h : rosterPosition roster accountUuid = some i) :
    ∃ account, roster[i]? = some account ∧ account.accountUuid = accountUuid := by
  unfold rosterPosition at h
  obtain ⟨hlt, hp, -⟩ := List.findIdx?_eq_some_iff_getElem.mp h
  exact ⟨roster[i], List.getElem?_eq_getElem hlt, by simpa using hp⟩

/-- The account that a credential may be taken for is one of the roster. -/
theorem MayResolve.mem {d : Daemon} {i : ℕ} (h : MayResolve w d.roster c i) :
    ∃ a ∈ d.roster, a.stash = (d.account i).stash := by
  have hget : ∃ account, d.roster[i]? = some account := by
    cases h with
    | token hget _ _ => exact ⟨_, hget⟩
    | display _ hposition =>
      obtain ⟨account, hget, -⟩ := getElem_of_rosterPosition hposition
      exact ⟨account, hget⟩
  obtain ⟨account, hget⟩ := hget
  rw [account_of_getElem hget]
  exact ⟨account, List.mem_of_getElem? hget, rfl⟩

/-- For it, some run finds the identity to re-stash the credential with. -/
theorem exec_restashIdentity {d : Daemon} {i : ℕ} (h : MayResolve w d.roster c i) :
    ∃ oauth, Exec (surroundings pid) (restashIdentity (d.account i)) w (some oauth) w := by
  unfold restashIdentity
  cases h with
  | @token account stashed hget hstash hc =>
    rw [account_of_getElem hget]
    exact ⟨stashed.oauthAccount, exec_bind_iff.mpr ⟨_, w, exec_stashRead hstash, exec_done⟩⟩
  | @display oauth hdisplayed hposition =>
    obtain ⟨account, hget, huuid⟩ := getElem_of_rosterPosition hposition
    rw [account_of_getElem hget]
    refine ⟨oauth, exec_bind_iff.mpr ⟨_, w, exec_stashRead_fails account.stash, ?_⟩⟩
    refine exec_bind_iff.mpr ⟨_, w, exec_readOauthAccount hdisplayed, ?_⟩
    dsimp only
    rw [if_pos huuid]
    exact exec_done

end Runs

section Restash

variable [SerdeJson] {pid : ℕ} {d : Daemon} {w : World} {c : Credential}

/-- The re-stash of a changed canonical blob does no harm: no account that it may be taken for has a
live stash or is quarantined. -/
def RestashSpares (d : Daemon) (w : World) (c : Credential) : Prop :=
  d.canonicalWatch.classify c = .changed → ∀ i, MayResolve w d.roster c i →
    ¬ w.stores.HoldsLive (d.account i).stash ∧ (d.accounts i).health.quarantined = false

theorem wp_reconcile_spares (h : RestashSpares d w c) :
    wp (surroundings pid) (onStores (Spares d.roster c)) ((reconcileCanonicalChange c).run d) w
      (fun _ _ => True) := by
  refine wp_mono (wp_reconcileCanonicalChange pid spares_free d c ?_) (fun _ _ _ => trivial)
  intro hclass i hi
  exact ⟨fun _ _ _ _ => (h hclass i hi).1, fun _ _ _ => trivial⟩

theorem standing_of_reconciled {d' : Daemon} {t' : Stores} (h : RestashSpares d w c)
    (hr : Reconciled d w c d' t') : d'.standing = d.standing := by
  cases hr with
  | primed => rfl
  | unchanged => rfl
  | restashed hclass hi _ => exact d.restashed_standing _ c _ (h hclass _ hi).2
  | failed => rfl
  | uncaptured => exact d.uncaptured_standing c _

/-- What the guarantee and the standing ask of a re-stash, they ask of every account that the blob
may be taken for. -/
theorem restashSpares_of_wp
    (hwp : wp (surroundings pid) (onStores (Spares d.roster c)) ((reconcileCanonicalChange c).run d)
      w (fun _ _ => True))
    (hstanding : ∀ d' w', Exec (surroundings pid) ((reconcileCanonicalChange c).run d) w ((), d') w' →
      d'.standing = d.standing) : RestashSpares d w c := by
  intro hclass i hi
  obtain ⟨oauth, hidentity⟩ : ∃ oauth,
      Exec (surroundings pid) (restashIdentity (d.account i)) w (some oauth) w :=
    exec_restashIdentity hi
  have hresolve : Exec (surroundings pid) ((resolveAccountFor c).run d) w (some i, d) w :=
    exec_state_bind.mpr ⟨d, d, w, exec_get, exec_state_lift (exec_resolveAccountFor hi)⟩
  constructor
  · unfold reconcileCanonicalChange at hwp
    rw [wp_state_bind, wp_get] at hwp
    simp only [hclass] at hwp
    have hrestash := wp_state_after hwp hresolve
    unfold healChange at hrestash
    rw [wp_state_bind, wp_get, wp_state_bind, wp_state_lift] at hrestash
    unfold restashAccount at hrestash
    rw [wp_bind] at hrestash
    have hwrite := wp_exec hrestash hidentity
    dsimp only at hwrite
    rw [map_eq_pure_bind, wp_bind] at hwrite
    unfold AccountStash.write at hwrite
    rw [wp_except_bind, wp_addCredential] at hwrite
    have hd : surroundings pid (.addCredential (d.account i).stash c.blob) w
      (.ok () : Except Error Unit)
      (w.setStores (w.stores.setCredential (d.account i).stash c.blob)) := rfl
    exact (hwrite _ _ hd).1 rfl hi.mem
  · let t' := (w.stores.setCredential (d.account i).stash c.blob).setOauthAccount
      (d.account i).stash oauth.raw
    have hwritten : Exec (surroundings pid) (AccountStash.write (d.account i).stash ⟨c, oauth⟩).run w
        (.ok ()) (w.setStores t') := exec_of_run_eq (calmly_refines pid) run_stash_write
    have hrestash : Exec (surroundings pid) (restashAccount (d.account i) c) w true
        (w.setStores t') := by
      unfold restashAccount
      refine exec_bind_iff.mpr ⟨some oauth, w, hidentity, ?_⟩
      dsimp only
      rw [map_eq_pure_bind]
      exact exec_bind_iff.mpr ⟨_, _, hwritten, exec_done⟩
    have hsecs : Exec (surroundings pid) (wallClockNowSecs.run d) (w.setStores t') (millisToSecs 0, d)
        (w.setStores t') :=
      exec_call (o := .epochNow) (r := (0 : Int)) rfl exec_done
    have hreconcile : Exec (surroundings pid) ((reconcileCanonicalChange c).run d) w
        ((), d.restashed i c (millisToSecs 0)) (w.setStores t') := by
      unfold reconcileCanonicalChange
      refine exec_state_bind.mpr ⟨d, d, w, exec_get, ?_⟩
      simp only [hclass]
      refine exec_state_bind.mpr ⟨some i, d, w, hresolve, ?_⟩
      unfold healChange
      refine exec_state_bind.mpr ⟨d, d, w, exec_get, ?_⟩
      refine exec_state_bind.mpr ⟨true, d, _, exec_state_lift hrestash, ?_⟩
      rw [if_pos rfl]
      exact exec_state_bind.mpr ⟨_, d, _, hsecs, exec_modify⟩
    have hkept := congrFun (congrArg Prod.fst (hstanding _ _ hreconcile)) i
    rw [← show (d.standing.1 i) = (d.accounts i).health.quarantined from rfl, ← hkept]
    exact d.restashed_live i c _

end Restash

/-! ## The tick -/

section Tick

variable [SerdeJson] [Sha256] {pid : ℕ} {d d' : Daemon} {w w' : World}
  {roster : List Account} {c : Credential}

omit [Sha256] in
theorem upkeep_spares : Upkeep pid (surroundings pid) (onStores (Spares roster c))
    (fun _ _ => True) where
  device := fun _ _ _ _ hd => hd
  quiet := by
    intro o w r w' ho hd
    unfold onStores
    rw [(surroundings_quiet ho hd).1]
    exact spares_quiet o w.stores ho
  refresh := fun _ _ _ _ _ => ⟨trivial, fun _ _ => trivial⟩

omit [Sha256] in
/-- No mint is made for a cleared credential. -/
theorem warmKeeps_cleared (hc : c.Cleared) {D G : Device Seams World} {J : CoreInv} :
    WarmKeeps D G J (some c) := by
  intro c' hc' i trigger
  cases hc'
  unfold keepWarmAndPromote
  rw [if_pos (by rw [hc.not_live]; exact Bool.false_ne_true)]
  exact preserves_pure

/-- Of what a tick observes, only the re-stash is at stake. -/
theorem wp_observe_spares (hc : c.Cleared) {at' : Nanos} {activeBefore : Option ℕ} :
    wp (surroundings pid) (onStores (Spares roster c))
      ((observe at' activeBefore (some c) false).run d) w (fun _ _ => True) ↔
    wp (surroundings pid) (onStores (Spares roster c))
      ((reconcileCanonicalChange c).run d.clearLockBackoff) w (fun _ _ => True) := by
  constructor
  · intro h
    unfold observe at h
    rw [wp_state_bind, wp_modify, wp_state_bind] at h
    exact wp_mono h (fun _ _ _ => trivial)
  · intro h
    have hresolve : Preserves (surroundings pid) (onStores (Spares roster c)) (fun _ _ => True)
        (resolveUnknownActive (some c)) := by
      unfold resolveUnknownActive
      apply upkeep_spares.observed observes_get
      intro d'
      split
      · exact preserves_pure
      · apply upkeep_spares.observed (observes_resolveAccountFor c)
        intro active
        exact ensures_modify (fun _ _ _ => trivial)
    have hobserve := wp_observe upkeep_spares h hresolve (fun _ => warmKeeps_cleared hc) at'
      activeBefore false
    exact wp_mono hobserve (fun _ _ _ => trivial)

theorem roster_of_observe {at' : Nanos} {activeBefore : Option ℕ} {view : TickView}
    (he : Exec (surroundings pid) ((observe at' activeBefore (some c) false).run d) w (view, d') w') :
    d'.roster = d.roster := by
  unfold observe at he
  obtain ⟨u, d₁, w₁, hclear, he⟩ := exec_state_bind.mp he
  obtain ⟨hr, rfl⟩ := exec_pure_iff.mp hclear
  cases hr
  obtain ⟨u, d₂, w₂, hreconcile, he⟩ := exec_state_bind.mp he
  have hr : Reconciled d.clearLockBackoff w₁ c d₂ w₂.stores := exec_reconcileCanonicalChange hreconcile
  have hroster : d₂.roster = d.roster := by
    have h := roster_of_reconciled hr
    exact h
  have hrest := exec_steady (fun _ _ => steady_observeReconciled at' activeBefore (some c) false) he
  exact hrest.1.trans hroster

omit [SerdeJson] [Sha256] in
theorem roster_of_recover {view : TickView} {r : Option TickAction}
    (he : Exec (surroundings pid) ((recoverIfScrubbed view).run d) w (r, d') w') :
    d'.roster = d.roster :=
  (exec_steady (fun _ _ => steady_recoverIfScrubbed view) he).1

omit [Sha256] in
theorem wp_adopt_spares (incoming : String) :
    wp (surroundings pid) (onStores (Spares roster c)) ((lockedAdopt incoming).run d) w
      (fun _ _ => True) := by
  unfold lockedAdopt attempt adoptTargetLocked
  rw [wp_state_lift]
  apply wp_withSwapLock spares_free (fun _ => trivial)
  intro _ w₁ _
  apply wp_alone
  exact wp_adoptTarget KeepsStores.eq spares_free (fun _ _ => trivial) (fun _ _ _ _ => trivial)
    (fun _ _ _ _ _ => trivial)

omit [Sha256] in
/-- A recovery writes no stash. -/
theorem wp_recover_spares (view : TickView) :
    wp (surroundings pid) (onStores (Spares roster c)) ((recoverIfScrubbed view).run d) w
      (fun _ _ => True) := by
  have hadopt : ∀ d target, target < d.roster.length →
      AdoptLeads (surroundings pid) (onStores (Spares roster c)) (fun _ _ => True)
        (fun _ _ => True) d target := by
    intro d target _
    refine ⟨fun _ _ => True, ?_, ?_⟩
    · intro d' w' _
      apply wp_mono (wp_adopt_spares _)
      rintro ⟨r, d''⟩ w'' _
      cases r <;> trivial
    · intro at' d' w' _
      exact wp_stays spares_quiet (quiet_recordSwap _ _ _)
  exact wp_mono (ensures_recoverIfScrubbed upkeep_spares hadopt d w trivial) (fun _ _ _ => trivial)

/-- No target that the active account may be left for makes the engine write the blob over a live
stash. -/
def DecisionSpares (d : Daemon) (w : World) (view : TickView) (c : Credential) : Prop :=
  ∀ i, view.active = some i → ∀ target, MayLeave d view.at' i view.readings target →
    w.swapLock = none →
      EngineSpares d.roster w.stores c (d.account i).stash (d.account target).stash

omit [SerdeJson] [Sha256] in
theorem quiet_settle (action : TickAction) (s : Daemon) : Only (Op.isQuiet · = true)
    ((do modify (·.settle action); pure action : DaemonM TickAction).run s) := trivial

/-- A tick that has read the cleared blob writes it over no live stash exactly when its re-stash and
its decisions do not. -/
theorem wp_tick_spares (hc : c.Cleared) (at' : Nanos) (activeBefore : Option ℕ) :
    wp (surroundings pid) (onStores (Spares d.roster c))
      ((observeRead at' activeBefore (.ok c) >>= finishTick).run d) w (fun _ _ => True) ↔
    wp (surroundings pid) (onStores (Spares d.roster c))
      ((reconcileCanonicalChange c).run d.clearLockBackoff) w (fun _ _ => True) ∧
    ∀ view d₁ w₁ d₂ w₂,
      Exec (surroundings pid) ((observe at' activeBefore (some c) false).run d) w (view, d₁) w₁ →
      Exec (surroundings pid) ((recoverIfScrubbed view).run d₁) w₁ (none, d₂) w₂ →
      DecisionSpares d₂ w₂ view c := by
  have hread : (observeRead at' activeBefore (.ok c) >>= finishTick) =
      (observe at' activeBefore (some c) false >>= fun view => finishTick (some view)) := by
    change (some <$> observe at' activeBefore (some c) false) >>= finishTick = _
    rw [map_eq_pure_bind, bind_assoc]
    simp only [pure_bind]
  rw [hread, StateT.run_bind, wp_bind_guaranteed, wp_observe_spares hc]
  apply and_congr_right
  intro _
  have hdecide : ∀ view d₁ w₁, d₁.roster = d.roster →
      (wp (surroundings pid) (onStores (Spares d.roster c)) ((finishTick (some view)).run d₁) w₁
        (fun _ _ => True) ↔ ∀ d₂ w₂,
          Exec (surroundings pid) ((recoverIfScrubbed view).run d₁) w₁ (none, d₂) w₂ →
          DecisionSpares d₂ w₂ view c) := by
    intro view d₁ w₁ hroster₁
    unfold finishTick decideTick
    rw [wp_then_quiet spares_quiet (fun action s => quiet_settle action s), StateT.run_bind,
      wp_bind_guaranteed]
    rw [and_iff_right (wp_recover_spares view)]
    have hact : ∀ d₂ w₂, d₂.roster = d.roster →
        (wp (surroundings pid) (onStores (Spares d.roster c))
          ((decideAction view.at' view.active view.readings).run d₂) w₂ (fun _ _ => True) ↔
            DecisionSpares d₂ w₂ view c) := by
      intro d₂ w₂ hroster₂
      have hsafe : ∀ i, SwapsSafely pid (Spares d.roster c) d₂ w₂ i (fun target =>
          w₂.swapLock = none → EngineSpares d₂.roster w₂.stores c (d₂.account i).stash
            (d₂.account target).stash) := by
        intro i target d₃ hroster₃
        rw [hroster₂]
        exact wp_lockedSwap_spares hc (hroster₃.trans hroster₂) _ _ false
      exact wp_decideAction spares_quiet hsafe view.active
    constructor
    · intro h d₂ w₂ he
      have hroster₂ := roster_of_recover he
      exact (hact d₂ w₂ (hroster₂.trans hroster₁)).mp (h (none, d₂) w₂ he)
    · rintro h ⟨r, d₂⟩ w₂ he
      cases r with
      | some action => exact trivial
      | none =>
        have hroster₂ := roster_of_recover he
        exact (hact d₂ w₂ (hroster₂.trans hroster₁)).mpr (h d₂ w₂ he)
  constructor
  · intro h view d₁ w₁ d₂ w₂ hobserve
    exact (hdecide view d₁ w₁ (roster_of_observe hobserve)).mp (h (view, d₁) w₁ hobserve) d₂ w₂
  · rintro h ⟨view, d₁⟩ w₁ hobserve
    apply (hdecide view d₁ w₁ (roster_of_observe hobserve)).mpr
    intro d₂ w₂
    exact h view d₁ w₁ d₂ w₂ hobserve

/-- What is asked of a tick that has read a cleared blob: no run of it writes the blob over a live
stash, and the reconciliation lifts no quarantine and reports none as lifted. -/
structure ClearedTickSpares (pid : ℕ) (d : Daemon) (w : World) (c : Credential) : Prop where
  stashes : ∀ at', wp (surroundings pid) (onStores (Spares d.roster c))
    ((observeRead at' d.active (.ok c) >>= finishTick).run d.beginTick) w (fun _ _ => True)
  quarantines : ∀ d' w', Exec (surroundings pid)
      ((reconcileCanonicalChange c).run d.beginTick.clearLockBackoff) w ((), d') w' →
    (∀ j, (d'.accounts j).health.quarantined = (d.accounts j).health.quarantined) ∧
      ∀ label, .credentialRestored label ∉ d'.events

end Tick

section Sample

local instance clearedJson : SerdeJson := sampleJson

local instance clearedSha : Sha256 := ⟨fun _ => 0⟩

/-- The canonical item is cleared in place. -/
def World.cleared (w : World) : World := w.setStores (w.stores.setCanonical ⟨[0]⟩)

def startedTick : (TickAction × Daemon) × World :=
  run (calmly 0) (tick.run startedDaemon) (sampleWorld ⟨[1]⟩ "A")

/-- The tick after the clearing; the other time the first account is in quarantine. -/
def clearedTick : (TickAction × Daemon) × World :=
  run (calmly 0) (tick.run startedTick.1.2) startedTick.2.cleared

def quarantinedDaemon : Daemon :=
  startedTick.1.2.setHealth 0 (fun h => { h with quarantined := true })

def quarantinedTick : (TickAction × Daemon) × World :=
  run (calmly 0) (tick.run quarantinedDaemon) startedTick.2.cleared

end Sample

end Sessiometer
