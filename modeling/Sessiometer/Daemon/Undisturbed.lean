import Sessiometer.Daemon.Steady

/-! # The daemon, left to itself

Nobody else writes, and what the daemon writes to the keychain lands. Any read may still fail, and
so may the write of the display. -/

namespace Sessiometer

open Effects

/-- No write of a keychain item has failed. -/
def Op.Lands : (o : Op) → o.Reply → Prop
  | .writeCanonical _, r => r = (.ok () : Except Error Unit)
  | .addCredential _ _, r => r = (.ok () : Except Error Unit)
  | .addOauthAccount _ _, r => r = (.ok () : Except Error Unit)
  | _, _ => True

/-- The surroundings in which the writes of the keychain land. -/
def undisturbed (pid : ℕ) : Device Seams World :=
  fun o w r w' => surroundings pid o w r w' ∧ o.Lands r

theorem undisturbed_within (pid : ℕ) : (undisturbed pid).Within (surroundings pid) :=
  fun _ _ _ _ hd => hd.1

section Landing

variable {pid : ℕ} {D : Device Seams World} (hD : D.Within (undisturbed pid)) {w w' : World}

include hD

theorem within_surroundings : D.Within (surroundings pid) :=
  fun o w r w' hd => undisturbed_within pid o w r w' (hD o w r w' hd)

theorem stores_of_quiet {α : Type} {p : Seam α} {a : α} (hp : Only (Op.isQuiet · = true) p)
    (he : Exec D p w a w') : w'.stores = w.stores := by
  have hwp : wp (surroundings pid) (onStores fun _ _ _ => True) p w
      (fun _ w' => w'.stores = w.stores ∧ w'.swapLock = w.swapLock) :=
    wp_quiet hp (fun _ _ _ => trivial)
  exact (wp_exec hwp (exec_within (within_surroundings hD) he)).1

theorem exec_resolveAccountFor_may {roster : List Account} {c : Credential} {resolved : Option ℕ}
    (he : Exec D (Active.resolveAccountFor roster c) w resolved w') :
    w' = w ∧ ∀ i, resolved = some i → MayResolve w roster c i := by
  have hwp : wp (surroundings pid) (onStores fun _ _ _ => True) (Active.resolveAccountFor roster c)
      w (fun r w' => w' = w ∧ ∀ i, r = some i → MayResolve w roster c i) :=
    wp_resolveAccountFor_alone (fun _ _ _ => trivial) roster c
  have hmay := wp_exec hwp (exec_within (within_surroundings hD) he)
  exact hmay

theorem wp_stashWrite_lands (service : String) (a : StashedAccount) :
    wp D anything (AccountStash.write service a).run w (fun r _ => isOk r = true) := by
  unfold AccountStash.write
  rw [wp_except_bind, wp_addCredential]
  intro r w₁ hd
  refine ⟨trivial, ?_⟩
  have hr : r = .ok () := (hD _ _ _ _ hd).2
  subst hr
  dsimp only
  rw [wp_addOauthAccount]
  intro r w₂ hd
  have hr : r = .ok () := (hD _ _ _ _ hd).2
  subst hr
  exact ⟨trivial, rfl⟩

theorem wp_installIncoming_lands (incoming : StashedAccount) :
    wp D anything (installIncoming incoming).run w (fun r _ => isOk r = true) := by
  unfold installIncoming
  rw [wp_except_bind, wp_writeCanonical]
  intro r w₁ hd
  refine ⟨trivial, ?_⟩
  have hr : r = .ok () := (hD _ _ _ _ hd).2
  subst hr
  dsimp only
  rw [wp_except_bind, wp_lift_map]
  apply wp_mono (wp_of_forall (fun _ _ _ _ _ => trivial) w₁)
  intro cowritten w₂ _
  dsimp only
  rw [wp_except_bind, wp_lift_map]
  apply wp_mono (wp_of_forall (fun _ _ _ _ _ => trivial) w₂)
  intro confirmed w₃ _
  exact rfl

theorem wp_swapWrites_lands (outgoing : String) (x : SwapInputs) :
    wp D anything (swapWrites outgoing x).run w (fun r _ => isOk r = true) := by
  unfold swapWrites
  rw [wp_except_bind]
  apply wp_mono (wp_stashWrite_lands hD outgoing _)
  intro r w₁ hr
  cases r with
  | error e => cases hr
  | ok u => exact wp_installIncoming_lands hD x.incoming

/-- A swap fails before it writes anything, or it does all it set out to do. -/
theorem exec_swap_lands {outgoing incoming : String} {r : Except Error SwapReport}
    (he : Exec D (swap outgoing incoming).run w r w') :
    (isOk r = false ∧ w'.stores = w.stores) ∨
      ∃ x, isOk r = true ∧ InputsOf w.stores outgoing incoming x ∧
        w'.stores = w.stores.swapped outgoing x := by
  have hread : wp (surroundings pid) (onStores fun _ _ _ => True) (swapInputs outgoing incoming).run
      w (fun r w' => w' = w ∧ ∀ x, r = .ok x → InputsOf w.stores outgoing incoming x) :=
    wp_alone (wp_swapInputs KeepsStores.eq (fun _ _ _ => trivial)
      (fun r w' hw hx => ⟨hw.symm, hx⟩))
  rcases exec_except_bind_iff.mp he with ⟨e, rfl, hinputs⟩ | ⟨x, w₁, hinputs, hwrites⟩
  · obtain ⟨rfl, -⟩ := wp_exec hread (exec_within (within_surroundings hD) hinputs)
    exact .inl ⟨rfl, rfl⟩
  · obtain ⟨rfl, hx⟩ := wp_exec hread (exec_within (within_surroundings hD) hinputs)
    have hok := wp_exec (wp_swapWrites_lands hD outgoing x) hwrites
    have hafter : wp (surroundings pid) (onStores fun _ _ _ => True) (swapWrites outgoing x).run w₁
        (fun r w' => SwapAfter w₁.stores outgoing x r w'.stores) :=
      wp_alone (wp_swapWrites KeepsStores.eq (fun _ _ _ => trivial) (fun _ _ => trivial)
        ⟨fun _ _ => trivial, fun _ _ => trivial, fun _ _ => trivial⟩ (fun _ _ h => h))
    have hs := wp_exec hafter (exec_within (within_surroundings hD) hwrites)
    cases r with
    | error e => cases hok
    | ok report => exact .inr ⟨x, rfl, hx x rfl, hs.2 report rfl⟩

theorem exec_installIncoming_lands {a : StashedAccount} {r : Except Error SwapReport}
    (he : Exec D (installIncoming a).run w r w') :
    isOk r = true ∧ w'.stores = w.stores.setCanonical a.credential := by
  have hok := wp_exec (wp_installIncoming_lands hD a) he
  have hafter : wp (surroundings pid) (onStores fun _ _ _ => True) (installIncoming a).run w
      (fun r w' => InstallAfter w.stores a.credential r w'.stores) :=
    wp_alone (wp_installIncoming KeepsStores.eq (fun _ _ _ => trivial) (fun _ _ => trivial)
      (fun _ _ => trivial) (fun _ _ h => h))
  have hs := wp_exec hafter (exec_within (within_surroundings hD) he)
  cases r with
  | error e => cases hok
  | ok report => exact ⟨rfl, hs.2 report rfl⟩

/-- So does an adopt. -/
theorem exec_adoptTarget_lands {incoming : String} {r : Except Error SwapReport}
    (he : Exec D (adoptTarget incoming).run w r w') :
    (isOk r = false ∧ w'.stores = w.stores) ∨
      ∃ a, isOk r = true ∧ w.stores.stash incoming = .ok a ∧
        w'.stores = w.stores.setCanonical a.credential := by
  have hstash : wp (surroundings pid) (onStores fun _ _ _ => True) (AccountStash.read incoming).run
      w (fun r w' => w' = w ∧ ∀ a, r = .ok a → w.stores.stash incoming = .ok a) :=
    wp_stashRead_alone (fun _ _ _ => trivial) incoming
  rcases exec_except_bind_iff.mp he with ⟨e, rfl, hread⟩ | ⟨a, w₁, hread, hrest⟩
  · obtain ⟨rfl, -⟩ := wp_exec hstash (exec_within (within_surroundings hD) hread)
    exact .inl ⟨rfl, rfl⟩
  obtain ⟨rfl, ha⟩ := wp_exec hstash (exec_within (within_surroundings hD) hread)
  rcases exec_except_bind_iff.mp hrest with ⟨e, rfl, hcurrent⟩ | ⟨current, w₂, hcurrent, hlast⟩
  · obtain ⟨current, hr, -⟩ := exec_lift_iff.mp hcurrent
    cases hr
  have hs : w₂.stores = w₁.stores := stores_of_quiet hD (only_lift quiet_canonicalRead) hcurrent
  have hinstall : Exec D (installIncoming a).run w₂ r w' → isOk r = true ∧
      w'.stores = w₁.stores.setCanonical a.credential := by
    intro h
    obtain ⟨hok, hafter⟩ := exec_installIncoming_lands hD h
    exact ⟨hok, by rw [hafter, hs]⟩
  match current with
  | .ok c =>
    obtain ⟨hok, hafter⟩ := hinstall hlast
    exact .inr ⟨a, hok, ha a rfl, hafter⟩
  | .error e =>
    cases e with
    | credentialNotFound =>
      obtain ⟨hok, hafter⟩ := hinstall hlast
      exact .inr ⟨a, hok, ha a rfl, hafter⟩
    | _ =>
      obtain ⟨rfl, rfl⟩ := exec_pure_iff.mp hlast
      exact .inl ⟨rfl, hs⟩

/-- Under the swap lock the body runs as it would without it. -/
theorem exec_withSwapLock {α : Type} {body : Attempt α} {r : Except Error α}
    (he : Exec D (withSwapLock body).run w r w') :
    (isOk r = false ∧ w' = w) ∨ ∃ w₁, Exec D body.run { w with swapLock := some pid } r w₁ ∧
      w' = { w₁ with swapLock := none } := by
  rcases exec_except_bind_iff.mp he with ⟨e, rfl, hacquire⟩ | ⟨u, w₁, hacquire, he⟩
  · obtain ⟨reply, w₁, hd, hk⟩ := exec_perform_iff.mp hacquire
    obtain ⟨rfl, rfl⟩ := exec_pure_iff.mp hk
    exact .inl ⟨rfl, (hD _ _ _ _ hd).1⟩
  obtain ⟨reply, w₂, hd, hk⟩ := exec_perform_iff.mp hacquire
  obtain ⟨rfl, rfl⟩ := exec_pure_iff.mp hk
  obtain ⟨-, rfl⟩ := (hD _ _ _ _ hd).1
  rcases exec_except_bind_iff.mp he with ⟨e, rfl, hbody⟩ | ⟨result, w₃, hbody, he⟩
  · obtain ⟨result, hr, -⟩ := exec_lift_iff.mp hbody
    cases hr
  obtain ⟨ran, hr, hbody⟩ := exec_lift_iff.mp hbody
  cases hr
  rcases exec_except_bind_iff.mp he with ⟨e, rfl, hrelease⟩ | ⟨u, w₄, hrelease, he⟩
  · obtain ⟨released, hr, -⟩ := exec_lift_iff.mp hrelease
    cases hr
  obtain ⟨released, -, hrelease⟩ := exec_lift_iff.mp hrelease
  obtain ⟨reply, w₅, hd, hk⟩ := exec_perform_iff.mp hrelease
  obtain ⟨rfl, rfl⟩ := exec_pure_iff.mp hk
  obtain ⟨rfl, rfl⟩ := exec_pure_iff.mp he
  exact .inr ⟨w₃, hbody, (hD _ _ _ _ hd).1⟩

theorem exec_lockedSwap_lands [SerdeJson] {d d' : Daemon} {outgoing incoming : String} {force : Bool}
    {r : Except Error SwapReport}
    (he : Exec D ((lockedSwap outgoing incoming force).run d) w (r, d') w') :
    (isOk r = false ∧ w'.stores = w.stores) ∨
      ∃ x, isOk r = true ∧ InputsOf w.stores outgoing incoming x ∧
        w'.stores = w.stores.swapped outgoing x := by
  unfold lockedSwap at he
  obtain ⟨gate, d₁, w₁, hgate, he⟩ := exec_state_bind.mp he
  have hs := stores_of_quiet hD (quiet_swapGate outgoing force d) hgate
  cases gate with
  | error e =>
    obtain ⟨hr, rfl⟩ := exec_pure_iff.mp he
    cases hr
    exact .inl ⟨rfl, hs⟩
  | ok u =>
    obtain ⟨hlocked, -⟩ := exec_state_lift_iff.mp he
    rcases exec_withSwapLock hD hlocked with ⟨hr, rfl⟩ | ⟨w₂, hswap, rfl⟩
    · exact .inl ⟨hr, hs⟩
    · have hlands := exec_swap_lands hD hswap
      rw [show World.stores { w₁ with swapLock := some pid } = w.stores from hs] at hlands
      exact hlands

theorem exec_lockedAdopt_lands {d d' : Daemon} {incoming : String} {r : Except Error SwapReport}
    (he : Exec D ((lockedAdopt incoming).run d) w (r, d') w') :
    (isOk r = false ∧ w'.stores = w.stores) ∨
      ∃ a, isOk r = true ∧ w.stores.stash incoming = .ok a ∧
        w'.stores = w.stores.setCanonical a.credential := by
  obtain ⟨hlocked, -⟩ := exec_state_lift_iff.mp he
  rcases exec_withSwapLock hD hlocked with ⟨hr, rfl⟩ | ⟨w₂, hadopt, rfl⟩
  · exact .inl ⟨hr, rfl⟩
  · have hlands := exec_adoptTarget_lands hD hadopt
    exact hlands

/-- A promotion writes the credential it was given over one that resolves to the account, or
nothing. -/
theorem exec_promoteStores_lands {roster : List Account} {i : ℕ} {cred : Credential}
    {r : Except Error Bool} (he : Exec D (promoteStores roster i cred).run w r w') :
    (isOkAnd id r = false ∧ w'.stores = w.stores) ∨
      ∃ current, isOkAnd id r = true ∧ w.stores.canonical = some current ∧
        MayResolve w roster current i ∧ w'.stores = w.stores.setCanonical cred := by
  rcases exec_withSwapLock hD he with ⟨hr, rfl⟩ | ⟨w₁, hbody, rfl⟩
  · cases r with
    | error e => exact .inl ⟨rfl, rfl⟩
    | ok b => cases hr
  rcases exec_except_bind_iff.mp hbody with ⟨e, rfl, hread⟩ | ⟨current, w₂, hread, hbody⟩
  · obtain ⟨current, hr, -⟩ := exec_lift_iff.mp hread
    cases hr
  obtain ⟨read, hr, hread⟩ := exec_lift_iff.mp hread
  cases hr
  obtain ⟨reply, w₃, hd, hk⟩ := exec_perform_iff.mp hread
  obtain ⟨rfl, rfl⟩ := exec_pure_iff.mp hk
  obtain ⟨rfl, hcurrent⟩ := (hD _ _ _ _ hd).1
  cases current with
  | error e =>
    obtain ⟨rfl, rfl⟩ := exec_pure_iff.mp hbody
    exact .inl ⟨rfl, rfl⟩
  | ok current =>
    rcases exec_except_bind_iff.mp hbody with ⟨e, rfl, hresolve⟩ | ⟨resolved, w₄, hresolve, hbody⟩
    · obtain ⟨resolved, hr, -⟩ := exec_lift_iff.mp hresolve
      cases hr
    obtain ⟨position, hr, hresolve⟩ := exec_lift_iff.mp hresolve
    cases hr
    obtain ⟨rfl, hmay⟩ := exec_resolveAccountFor_may hD hresolve
    rw [pure_bind] at hbody
    dsimp only at hbody
    by_cases hactive : resolved = some i
    · rw [if_pos (decide_eq_true hactive)] at hbody
      rcases exec_except_bind_iff.mp hbody with ⟨e, rfl, hwrite⟩ | ⟨u, w₅, hwrite, hdone⟩
      · obtain ⟨reply, w₅, hd, hk⟩ := exec_perform_iff.mp hwrite
        obtain ⟨rfl, rfl⟩ := exec_pure_iff.mp hk
        cases (hD _ _ _ _ hd).2
      · obtain ⟨reply, w₆, hd, hk⟩ := exec_perform_iff.mp hwrite
        obtain ⟨rfl, rfl⟩ := exec_pure_iff.mp hk
        obtain ⟨rfl, rfl⟩ := exec_pure_iff.mp hdone
        have hw : w₁ = _ := (hD _ _ _ _ hd).1
        refine .inr ⟨current, rfl, hcurrent, ?_, by rw [hw]; rfl⟩
        cases hmay i hactive with
        | token hget hstash hc => exact .token hget hstash hc
        | display hdisplayed hposition => exact .display hdisplayed hposition
    · rw [if_neg (by simpa using hactive)] at hbody
      obtain ⟨rfl, rfl⟩ := exec_pure_iff.mp hbody
      exact .inl ⟨rfl, rfl⟩

end Landing

end Sessiometer
