import Sessiometer.Daemon.Moves
import Sessiometer.Daemon.Reconcile
import Sessiometer.Effects.Order
import Sessiometer.Swap.Adopted

/-! # What the routing of a `use` protects

A canonical credential that the routing can attribute is re-stashed before it is overwritten. A read
that fails is taken for no match there, and a forced swap then adopts over the credential. -/

namespace Sessiometer

open Effects

/-- A read of an item that is there returns it. -/
def Faithful (w : World) : Occurrence Seams → Prop
  | ⟨.findCredential service, r⟩ => ∀ blob, w.stores.credentialItem service = some blob → r = .ok blob
  | ⟨.findOauthAccount service, r⟩ =>
      ∀ payload, w.stores.oauthItem service = some payload → r = .ok payload
  | ⟨.readClaudeJson, r⟩ => ∀ root, w.claudeJson = some root → r = .ok root
  | _ => True

/-- Some roster account is known for the credential: by its stash, or by the display. -/
def Attributable (roster : List Account) (w : World) (cur : Credential) : Prop :=
  ∃ i, MayResolve w roster cur i

section Reads

variable {pid : ℕ} {w : World} {service : String}

theorem wp_stashRead_faithful :
    wp ((surroundings pid).telling (Faithful w)) anything (AccountStash.read service).run w
      (fun r w' => w' = w ∧ ∀ a, w.stores.stash service = .ok a → r = .ok a) := by
  unfold AccountStash.read
  rw [wp_except_bind, wp_findCredential]
  rintro r w₁ ⟨⟨rfl, -⟩, hcredential⟩
  refine ⟨trivial, ?_⟩
  cases r with
  | error e =>
    refine ⟨rfl, ?_⟩
    intro a ha
    cases hcredential _ (Stores.stash_eq_ok_iff.mp ha).1
  | ok blob =>
    dsimp only
    rw [wp_except_bind, wp_findOauthAccount]
    rintro r w₂ ⟨⟨rfl, -⟩, hoauth⟩
    refine ⟨trivial, ?_⟩
    cases r with
    | error e =>
      refine ⟨rfl, ?_⟩
      intro a ha
      obtain ⟨payload, hpayload, -⟩ := (Stores.stash_eq_ok_iff.mp ha).2
      cases hoauth _ hpayload
    | ok payload =>
      have hread : ∀ a, w₂.stores.stash service = .ok a →
          blob = a.credential.blob ∧ AccountStash.decodeOauth service payload = .ok a.oauthAccount := by
        intro a ha
        obtain ⟨hblob, payload', hpayload, hdecode⟩ := Stores.stash_eq_ok_iff.mp ha
        cases hcredential _ hblob
        cases hoauth _ hpayload
        exact ⟨rfl, hdecode⟩
      dsimp only
      rw [wp_except_bind]
      cases hd : AccountStash.decodeOauth service payload with
      | error e =>
        refine ⟨rfl, ?_⟩
        intro a ha
        rw [hd] at hread
        cases (hread a ha).2
      | ok oauth =>
        refine ⟨rfl, ?_⟩
        rintro ⟨⟨blob'⟩, oauth'⟩ ha
        obtain ⟨hblob, hdecode⟩ := hread _ ha
        rw [hd] at hdecode
        cases hdecode
        cases hblob
        rfl

theorem wp_readOauthAccount_faithful :
    wp ((surroundings pid).telling (Faithful w)) anything ClaudeState.readOauthAccount.run w
      (fun r w' => w' = w ∧ ∀ oauth, w.displayed = .ok oauth → r = .ok oauth) := by
  unfold ClaudeState.readOauthAccount
  rw [wp_except_bind, wp_readRoot]
  rintro r w₁ ⟨⟨rfl, -⟩, hroot⟩
  refine ⟨trivial, ?_⟩
  have hshown : ∀ oauth, w₁.displayed = .ok oauth → ∃ root, r = .ok root ∧
      ClaudeState.oauthAccountOf root = .ok oauth := by
    intro oauth h
    unfold World.displayed at h
    cases hj : w₁.claudeJson with
    | none => simp [hj] at h
    | some root =>
      rw [hj] at h
      exact ⟨root, hroot root hj, h⟩
  cases r with
  | error e =>
    refine ⟨rfl, ?_⟩
    intro oauth h
    obtain ⟨root, hr, -⟩ := hshown oauth h
    cases hr
  | ok root =>
    refine ⟨rfl, ?_⟩
    intro oauth h
    obtain ⟨root', hr, hoauth⟩ := hshown oauth h
    cases hr
    exact hoauth

theorem wp_firstMatching_faithful (c : Credential) (roster : List Account) (i : ℕ) :
    wp ((surroundings pid).telling (Faithful w)) anything (firstMatching c none roster i) w
      (fun r w' => w' = w ∧ (r = none → ∀ account ∈ roster, ∀ a,
        w.stores.stash account.stash = .ok a → a.credential ≠ c)) := by
  induction roster generalizing i with
  | nil => exact ⟨rfl, fun _ account hmem => by cases hmem⟩
  | cons account rest ih =>
    unfold firstMatching
    rw [if_neg (Option.some_ne_none i).symm, wp_bind]
    apply wp_mono wp_stashRead_faithful
    rintro r w' ⟨rfl, hread⟩
    have hrest : (∀ a, w'.stores.stash account.stash = .ok a → a.credential ≠ c) →
        wp ((surroundings pid).telling (Faithful w')) anything (firstMatching c none rest (i + 1)) w'
          (fun r w'' => w'' = w' ∧ (r = none → ∀ b ∈ account :: rest, ∀ a,
            w'.stores.stash b.stash = .ok a → a.credential ≠ c)) := by
      intro hne
      apply wp_mono (ih (i + 1))
      rintro r w'' ⟨hw, h⟩
      refine ⟨hw, ?_⟩
      intro hr b hb
      rcases List.mem_cons.mp hb with rfl | hb
      · exact hne
      · exact h hr b hb
    cases r with
    | error e =>
      apply hrest
      intro a ha
      cases hread a ha
    | ok stashed =>
      dsimp only
      split
      · exact ⟨rfl, fun h => by cases h⟩
      · next hm =>
        apply hrest
        intro a ha hc
        cases hread a ha
        exact hm (Credential.matches_iff.mpr hc)

variable (pid) in
/-- Where no read fails, what is attributable is resolved. -/
theorem wp_resolveAccountFor_faithful {roster : List Account} {c : Credential}
    (h : Attributable roster w c) :
    wp ((surroundings pid).telling (Faithful w)) anything (Active.resolveAccountFor roster c) w
      (fun r _ => r ≠ none) := by
  unfold Active.resolveAccountFor
  rw [wp_bind]
  apply wp_mono (wp_firstMatching_faithful c roster 0)
  rintro r w' ⟨rfl, hnone⟩
  cases r with
  | some x => exact Option.some_ne_none _
  | none =>
    obtain ⟨i, h⟩ := h
    cases h with
    | token hget hstash hc => exact absurd hc (hnone rfl _ (List.mem_of_getElem? hget) _ hstash)
    | display hshown hposition =>
      unfold Active.resolveViaDisplay
      rw [wp_bind]
      apply wp_mono wp_readOauthAccount_faithful
      rintro r w'' ⟨rfl, hread⟩
      cases hread _ hshown
      dsimp only
      rw [hposition]
      exact Option.some_ne_none i

end Reads

/-! ## A swap stashes first -/

def Op.isDisplayRead : Op → Bool
  | .readClaudeJson => true
  | _ => false

def Op.isCanonicalWrite : Op → Bool
  | .writeCanonical _ => true
  | _ => false

/-- The canonical item is written. -/
def Overwrites (x : Occurrence Seams) : Prop := x.1.isCanonicalWrite = true

/-- The credential is added to the stash of a roster account, and the add succeeds. -/
def Restashes (roster : List Account) (cur : Credential) (x : Occurrence Seams) : Prop :=
  ∃ account ∈ roster, x = ⟨.addCredential account.stash cur.blob, .ok ()⟩

section Order

variable {pid : ℕ} {w : World} {roster : List Account} {cur : Credential}

theorem not_overwrites_of_quiet {o : Op} (ho : o.isQuiet = true) (r : o.Reply) :
    ¬Overwrites ⟨o, r⟩ := by
  intro hw
  cases o <;> simp_all [Overwrites, Op.isQuiet, Op.writesStores, Op.isCanonicalWrite]

variable (pid) in
/-- What is quiet overwrites nothing, and leaves the stores to what comes next. -/
theorem wp_quiet_sparing {α : Type} {p : Seam α} (hp : Only (Op.isQuiet · = true) p) :
    wp (surroundings pid) (fun o _ r _ => ¬Overwrites ⟨o, r⟩) p w
      (fun _ w' => w'.stores = w.stores) := by
  have htrans : ∀ {w w' w'' : World}, w'.stores = w.stores → w''.stores = w'.stores →
      w''.stores = w.stores := fun h h' => h'.trans h
  refine wp_only (R := fun w w' => World.stores w' = World.stores w) hp (fun _ => rfl) htrans ?_
  intro o w r w' ho hd
  exact ⟨not_overwrites_of_quiet ho r, (surroundings_quiet ho hd).1⟩

theorem wp_swapInputs_sparing {outgoing incoming : String}
    (hcur : w.stores.canonical = some cur) :
    wp (surroundings pid) (fun o _ r _ => ¬Overwrites ⟨o, r⟩) (swapInputs outgoing incoming).run w
      (fun r _ => ∀ inputs, r = .ok inputs → inputs.outgoingCurrent = cur) := by
  have hwp : wp ((surroundings pid).under Eq) (onStores fun o _ _ => o.isWrite = false)
      (swapInputs outgoing incoming).run w
      (fun r _ => ∀ inputs, r = .ok inputs → inputs.outgoingCurrent = cur) := by
    apply wp_swapInputs KeepsStores.eq (fun _ _ h => h)
    intro r w' _ h inputs hr
    exact Option.some.inj ((h inputs hr).canonical.symm.trans hcur)
  refine wp_device hwp (fun _ _ _ _ => surroundings_under_eq) ?_
  intro o w r w' _ ho hw
  have ho : o.isWrite = false := ho
  cases o <;> simp_all [Overwrites, Op.isWrite, Op.isCanonicalWrite]

theorem awaits_swapWrites {inputs : SwapInputs} {account : Account} (hmem : account ∈ roster) :
    Awaits (surroundings pid) (Restashes roster inputs.outgoingCurrent) Overwrites
      (swapWrites account.stash inputs).run w := by
  intro r w' hd
  refine ⟨by simp [Overwrites, Op.isCanonicalWrite], ?_⟩
  cases r with
  | ok _ => exact .inl ⟨account, hmem, rfl⟩
  | error e => exact .inr trivial

theorem awaits_swap {account : Account} {incoming : String} (hmem : account ∈ roster)
    (hcur : w.stores.canonical = some cur) :
    Awaits (surroundings pid) (Restashes roster cur) Overwrites
      (swap account.stash incoming).run w := by
  unfold swap
  apply awaits_except_bind
  apply wp_mono (wp_swapInputs_sparing hcur)
  intro r w' hr inputs hok
  rw [← hr inputs hok]
  exact awaits_swapWrites hmem

theorem awaits_withSwapLock {α : Type} {body : Attempt α} {φ : Occurrence Seams → Prop}
    (h : ∀ w', w'.stores = w.stores → Awaits (surroundings pid) φ Overwrites body.run w') :
    Awaits (surroundings pid) φ Overwrites (withSwapLock body).run w := by
  unfold withSwapLock
  apply awaits_except_bind
  intro r w₁ hd
  refine ⟨by simp [Overwrites, Op.isCanonicalWrite], ?_⟩
  intro a ha
  subst ha
  rw [show w₁ = _ from hd.2]
  have hbody := h { w with swapLock := some pid } rfl
  refine hbody.lift.except_bind ?_
  intro r' w₂
  apply awaits_of_only
  refine only_except_bind (only_lift (only_call ?_)) (fun _ => trivial)
  simp [Overwrites, Op.isCanonicalWrite]

end Order

/-! ## The command -/

section Command

variable {pid : ℕ} {w : World} {u : UseRequest} {cur : Credential} {active : Account}

theorem quiet_pollViability (u : UseRequest) (target : Account) :
    Only (Op.isQuiet · = true) (u.pollViability target).run := by
  unfold UseRequest.pollViability
  refine only_except_bind (only_lift (only_call rfl)) (fun r => ?_)
  match r with
  | .ok reading =>
    dsimp only
    split <;> trivial
  | .error e => cases e <;> trivial

theorem quiet_gate (u : UseRequest) (target : Account) (activeStash : String) :
    Only (Op.isQuiet · = true) (u.gate target activeStash).run := by
  unfold UseRequest.gate
  split
  · trivial
  · split
    · trivial
    · refine only_except_bind ?_ (fun v => ?_)
      · unfold UseRequest.gateViability
        cases u.cached with
        | some cached => trivial
        | none =>
          refine only_except_bind (only_lift (quiet_pollViability u target)) (fun r => ?_)
          match r with
          | .ok viability => trivial
          | .error e => cases e <;> trivial
      · cases v <;> trivial

theorem quiet_warnIfForcingOntoNonViable (u : UseRequest) (target : Account) :
    Only (Op.isQuiet · = true) (u.warnIfForcingOntoNonViable target).run := by
  unfold UseRequest.warnIfForcingOntoNonViable
  cases u.cached with
  | some cached => trivial
  | none =>
    refine only_except_bind (only_lift (quiet_pollViability u target)) (fun r => ?_)
    match r with
    | .ok viability => trivial
    | .error e => cases e <;> trivial

theorem quiet_canaryGate [SerdeJson] (u : UseRequest) (active : Account) :
    Only (Op.isQuiet · = true) (u.canaryGate active).run := by
  unfold UseRequest.canaryGate
  refine only_except_bind (quiet_canaryRun u.roster) (fun r => ?_)
  have hprobe : ∀ gate, Only (Op.isQuiet · = true) (do
      let liveness ← ExceptT.lift (Canary.probeLiveness active gate)
      if Canary.probeRefuses liveness u.tunables.canaryOnlineProbeStrict then
        throw (.canaryProbeNotLive liveness.asStr)
      else pure () : Attempt Unit).run := by
    intro gate
    refine only_except_bind (only_lift (quiet_probeLiveness active gate)) (fun liveness => ?_)
    split <;> trivial
  match r with
  | .notFound => trivial
  | .ambiguous count => trivial
  | .drift displayed matched =>
    dsimp only
    split
    · exact hprobe _
    · trivial
  | .inconclusive (.noStashMatch false) =>
    dsimp only
    split
    · exact hprobe _
    · trivial
  | .ok => exact hprobe _
  | .inconclusive (.noStashMatch true) => exact hprobe _
  | .inconclusive .displayUnresolved => exact hprobe _

theorem awaits_rotate [SerdeJson] {incomingStash : String} (hmem : active ∈ u.roster)
    (hcur : w.stores.canonical = some cur) :
    Awaits (surroundings pid) (Restashes u.roster cur) Overwrites
      (u.rotate active incomingStash).run w := by
  unfold UseRequest.rotate
  apply awaits_except_bind
  apply wp_mono (wp_quiet_sparing pid (quiet_canaryGate u active))
  intro r w₁ h₁ a _
  refine Awaits.except_bind (awaits_withSwapLock ?_) (fun _ _ => trivial)
  intro w₂ h₂
  exact awaits_swap hmem (by rw [h₂, h₁, hcur])

theorem awaits_swapFrom [SerdeJson] {target : Account} (hmem : active ∈ u.roster)
    (hcur : w.stores.canonical = some cur) :
    Awaits (surroundings pid) (Restashes u.roster cur) Overwrites
      (u.swapFrom target active).run w := by
  unfold UseRequest.swapFrom
  split
  · apply awaits_except_bind
    apply wp_mono (wp_quiet_sparing pid (quiet_warnIfForcingOntoNonViable u target))
    intro r w₁ h₁ a _
    exact awaits_rotate hmem (by rw [h₁, hcur])
  · apply awaits_except_bind
    apply wp_mono (wp_quiet_sparing pid (quiet_gate u target active.stash))
    intro r w₁ h₁ outcome _
    cases outcome with
    | proceed incomingStash => exact awaits_rotate hmem (by rw [h₁, hcur])
    | _ => trivial

theorem quiet_route (u : UseRequest) : Only (Op.isQuiet · = true) u.route.run := by
  unfold UseRequest.route
  refine only_except_bind trivial (fun target => ?_)
  refine only_except_bind ?_ (fun canonical => ?_)
  · unfold UseRequest.readCanonical
    refine only_except_bind (only_lift quiet_canonicalRead) (fun r => ?_)
    match r with
    | .ok c => trivial
    | .error e => cases e <;> trivial
  · refine only_except_bind (only_lift ?_) (fun active => trivial)
    cases canonical with
    | some c => exact quiet_resolveAccountFor u.roster c
    | none => exact quiet_resolveViaDisplay u.roster

theorem wp_readCanonical_faithful (hcur : w.stores.canonical = some cur) :
    wp ((surroundings pid).telling (Faithful w)) anything UseRequest.readCanonical.run w
      (fun r w' => w' = w ∧ ∀ canonical, r = .ok canonical → canonical = some cur) := by
  unfold UseRequest.readCanonical
  rw [wp_except_bind, wp_except_lift]
  rintro r w₁ ⟨⟨rfl, hr⟩, -⟩
  refine ⟨trivial, ?_⟩
  have hstop : ∀ e : Error, w₁ = w₁ ∧ ∀ canonical : Option Credential,
      Except.error e = .ok canonical → canonical = some cur := by
    intro e
    refine ⟨rfl, ?_⟩
    intro canonical hok
    cases hok
  cases r with
  | ok c =>
    refine ⟨rfl, ?_⟩
    intro canonical hok
    cases hok
    exact hr.symm.trans hcur
  | error e =>
    cases e with
    | credentialNotFound =>
      have hnone := hr rfl
      rw [hcur] at hnone
      cases hnone
    | _ => exact hstop _

variable (pid) in
/-- Where no read fails, an attributable credential is routed away from an adoption. -/
theorem wp_route_faithful (hcur : w.stores.canonical = some cur)
    (h : Attributable u.roster w cur) :
    wp ((surroundings pid).telling (Faithful w)) anything u.route.run w
      (fun r _ => ∀ routed, r = .ok routed → routed.2.1 = some cur ∧
        ∃ active ∈ u.roster, routed.2.2 = some active) := by
  unfold UseRequest.route
  rw [wp_except_bind]
  cases u.resolveTarget with
  | error e =>
    intro routed hr
    cases hr
  | ok target =>
    change wp _ _ (ExceptT.run (UseRequest.readCanonical >>= _)) _ _
    rw [wp_except_bind]
    apply wp_mono (wp_readCanonical_faithful hcur)
    rintro r w' ⟨rfl, hr⟩
    cases r with
    | error e =>
      intro routed hr
      cases hr
    | ok canonical =>
      rw [hr canonical rfl]
      dsimp only
      rw [wp_except_bind, wp_except_lift]
      have hresolve := wp_returns (wp_resolveAccountFor_faithful pid h)
        (returns_resolveAccountFor u.roster cur)
      apply wp_mono hresolve
      rintro active w₁ ⟨hsome, hlt⟩ routed hr
      cases hr
      obtain ⟨i, rfl⟩ := Option.ne_none_iff_exists'.mp hsome
      refine ⟨rfl, _, ?_, rfl⟩
      have hlt := hlt i rfl
      dsimp only
      rw [List.getD_eq_getElem?_getD, List.getElem?_eq_getElem hlt]
      exact List.getElem_mem hlt

theorem awaits_swapMode [SerdeJson] {routed : Account × Option Credential × Option Account}
    (hcanonical : routed.2.1 = some cur) (hactive : routed.2.2 = some active)
    (hmem : active ∈ u.roster) (hcur : w.stores.canonical = some cur) :
    Awaits (surroundings pid) (Restashes u.roster cur) Overwrites (u.swapMode routed).run w := by
  obtain ⟨target, canonical, resolved⟩ := routed
  subst hcanonical
  subst hactive
  unfold UseRequest.swapMode
  simp only [Option.isNone_some, Bool.or_self, Bool.and_false, Bool.false_eq_true, if_false]
  exact awaits_swapFrom hmem hcur

/-- A read by which the routing attributes the credential does not return what is there. -/
def Misread (pid : ℕ) (u : UseRequest) (w : World) (tr : List (Occurrence Seams)) : Prop :=
  ∃ tr₁ tr₂ routed w₁, tr = tr₁ ++ tr₂ ∧
    Steps (surroundings pid) u.route.run w tr₁ (.pure (.ok routed)) w₁ ∧ ∃ x ∈ tr₁, ¬Faithful w x

theorem runUse_restashes_first [SerdeJson] {tr : List (Occurrence Seams)}
    {q : Seam (Except Error UseOutcome)} {w' : World}
    (h : Steps (surroundings pid) (runUse u).run w tr q w') (hcur : w.stores.canonical = some cur)
    (hknown : Attributable u.roster w cur) :
    Preceded (Restashes u.roster cur) Overwrites tr ∨ Misread pid u w tr := by
  unfold runUse at h
  have hquiet : ∀ tr q w', Steps (surroundings pid) u.route.run w tr q w' →
      ∀ x ∈ tr, ¬Overwrites x := by
    intro tr q w' hs x hx
    exact not_overwrites_of_quiet ((quiet_route u).steps hs x hx) x.2
  rcases steps_except_bind h with ⟨p', hs⟩ | ⟨routed, w₁, tr₁, tr₂, rfl, hs, hrest⟩
  · exact .inl (preceded_of_none (hquiet _ _ _ hs))
  · by_cases hfaithful : ∀ x ∈ tr₁, Faithful w x
    · left
      have hrouted := wp_exec (wp_route_faithful pid hcur hknown)
        ⟨tr₁, steps_telling hs hfaithful⟩
      obtain ⟨hcanonical, active, hmem, hactive⟩ := hrouted routed rfl
      have hsparing := wp_quiet_sparing pid (w := w) (quiet_route u)
      have hstores := wp_exec hsparing ⟨tr₁, hs⟩
      have hawaits : Awaits (surroundings pid) (Restashes u.roster cur) Overwrites
          (u.swapMode routed).run w₁ := awaits_swapMode hcanonical hactive hmem (by rw [hstores, hcur])
      exact preceded_append (hquiet _ _ _ hs) (hawaits.steps hrest)
    · simp only [not_forall] at hfaithful
      obtain ⟨x, hx, hne⟩ := hfaithful
      exact .inr ⟨tr₁, tr₂, routed, w₁, rfl, hs, x, hx, hne⟩

/-- An adoption writes the canonical item only after the incoming stash was read and the canonical
item read or confirmed to be gone, and never a stash; a `use` overwrites a credential that is
attributable only after it was re-stashed, unless a read the routing makes of it failed. -/
theorem adopt_target_safe [SerdeJson] (pid : ℕ) (w : World) (u : UseRequest) :
    (∀ incoming tr q w', Steps (surroundings pid) (adoptTarget incoming).run w tr q w' →
      AdoptSafe w incoming tr w') ∧
    ∀ tr q w' cur, Steps (surroundings pid) (runUse u).run w tr q w' →
      w.stores.canonical = some cur → Attributable u.roster w cur →
        Preceded (Restashes u.roster cur) Overwrites tr ∨ Misread pid u w tr :=
  ⟨fun _ _ _ _ h => adoptTarget_safe h, fun _ _ _ _ h => runUse_restashes_first h⟩

/-- The display fails to be read. -/
def blindDisplay : Script where
  __ := Script.calm
  fails := fun o => o.isDisplayRead

/-- The canonical credential is in no stash, and the display names the first account. -/
def rotatedWorld : World :=
  atRest (captured (some ⟨[9]⟩) [(sampleAccount "A", ⟨[1]⟩), (sampleAccount "B", ⟨[2]⟩)]) "A"

def forcedUse : UseRequest where
  roster := [sampleAccount "A", sampleAccount "B"]
  tunables := Tunables.default'
  query := "B"
  force := true
  inCooldown := false
  cached := none

def blindRun : List (Occurrence Seams) :=
  trace (blindDisplay.handler 7) (@runUse sampleJson forcedUse).run rotatedWorld

theorem attributable_rotatedWorld : Attributable forcedUse.roster rotatedWorld ⟨[9]⟩ := by
  have hshown : rotatedWorld.displayed = .ok ⟨identityDocument "A", "A", rfl⟩ := rfl
  exact ⟨0, .display hshown (by decide +kernel)⟩

theorem blindRun_stashless : blindRun.all (fun x => !x.1.writesAnyStash) = true := by decide +kernel

theorem blindRun_overwrites : blindRun.any (fun x => x.1.isCanonicalWrite) = true := by
  decide +kernel

/-- A forced `use` while the display cannot be read: the canonical credential has rotated, so that only
the display attributes it, and the adoption overwrites it. -/
theorem misread_display_costs_credential :
    ¬∀ (w : World) (u : UseRequest) (tr : List (Occurrence Seams))
      (q : Seam (Except Error UseOutcome)) (w' : World) (cur : Credential),
      Steps (surroundings 7) (@runUse sampleJson u).run w tr q w' → w.stores.canonical = some cur →
        Attributable u.roster w cur → Preceded (Restashes u.roster cur) Overwrites tr := by
  intro h
  have hsteps := steps_trace (blindDisplay.handler_refines ⟨by decide, by decide⟩ 7)
    (@runUse sampleJson forcedUse).run rotatedWorld
  have hpreceded := h _ _ _ _ _ _ hsteps rfl attributable_rotatedWorld
  obtain ⟨x, hx, hwrite⟩ := List.any_eq_true.mp blindRun_overwrites
  obtain ⟨tr₁, tr₂, htr⟩ := List.append_of_mem hx
  obtain ⟨y, hy, account, -, rfl⟩ := hpreceded tr₁ x tr₂ htr hwrite
  have hall := List.all_eq_true.mp blindRun_stashless _ (by rw [htr]; exact List.mem_append_left _ hy)
  cases hall

end Command

end Sessiometer
