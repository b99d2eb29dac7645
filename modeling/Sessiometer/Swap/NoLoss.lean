import Sessiometer.Swap.Script

/-! # What a swap keeps

No failure inside a swap loses the credential that was canonical before it, and what a swap
that succeeds leaves behind. -/

namespace Sessiometer

open Effects

section Alone

variable {pid : ℕ} {P : Op → Stores → Stores → Prop} {w : World}

/-- The surroundings of a process that runs alone are those without interference. -/
theorem surroundings_under_eq {o : Op} {w w' : World} {r : o.Reply}
    (h : surroundings pid o w r w') : (surroundings pid).under Eq o w r w' :=
  ⟨w, rfl, h⟩

theorem wp_swap_alone (pid : ℕ) (outgoing incoming : String) (hfree : FreeReads P) (hD : FreeDisplay P)
    (hP : ∀ x, InputsOf w.stores outgoing incoming x → SwapAllowed P w.stores outgoing x) :
    wp (surroundings pid) (onStores P) (swap outgoing incoming).run w
      (fun r w' => SwapOutcome w.stores outgoing incoming r w'.stores) :=
  wp_device (wp_swap KeepsStores.eq hfree hD hP (fun _ _ h => h))
    (fun _ _ _ _ => surroundings_under_eq) (fun _ _ _ _ _ h => h)

theorem exec_swap_outcome {outgoing incoming : String} {r : Except Error SwapReport} {w' : World}
    (h : Exec (surroundings pid) (swap outgoing incoming).run w r w') :
    SwapOutcome w.stores outgoing incoming r w'.stores := by
  have hwp := wp_swap_alone pid outgoing incoming (w := w)
    (P := fun _ _ _ => True) (fun _ _ _ => trivial) (fun _ _ => trivial)
    (fun _ _ => ⟨fun _ _ => trivial, fun _ _ => trivial, fun _ _ => trivial⟩)
  have ho := wp_exec hwp h
  exact ho

end Alone

/-- The credential is in the canonical item or in the credential half of the stash. -/
def Held (c : Credential) (service : String) (t : Stores) : Prop :=
  t.canonical = some c ∨ t.credentialItem service = some c.blob

theorem swapAllowed_held {t : Stores} {outgoing incoming : String} {x : SwapInputs}
    (hx : InputsOf t outgoing incoming x) :
    SwapAllowed (fun _ t t' => Held x.outgoingCurrent outgoing t →
      Held x.outgoingCurrent outgoing t') t outgoing x := by
  have half : Held x.outgoingCurrent outgoing (t.restashHalf outgoing x) :=
    .inr (by simp [Stores.restashHalf, Stores.setCredential])
  have whole : Held x.outgoingCurrent outgoing (t.restash outgoing x) :=
    .inr (by simp [Stores.restash, Stores.setOauthAccount, Stores.restashHalf,
      Stores.setCredential])
  have swapped : Held x.outgoingCurrent outgoing (t.swapped outgoing x) :=
    .inr (by simp [Stores.swapped, Stores.setCanonical, Stores.restash, Stores.setOauthAccount,
      Stores.restashHalf, Stores.setCredential])
  refine ⟨?_, ?_, ?_⟩
  · rintro t' (rfl | rfl) h
    · exact h
    · exact half
  · rintro t' (rfl | rfl) h
    · exact h
    · exact whole
  · rintro t' (rfl | rfl) h
    · exact h
    · exact swapped

/-- At every point of a swap, finished or not, the old canonical credential is held. -/
theorem swap_holds_outgoing {pid : ℕ} {w w' : World} {outgoing incoming : String}
    {cur : Credential} {tr : List (Occurrence Seams)} {q : Seam (Except Error SwapReport)}
    (hcur : w.stores.canonical = some cur)
    (hs : Steps (surroundings pid) (swap outgoing incoming).run w tr q w') :
    Held cur outgoing w'.stores := by
  have hwp := wp_swap_alone pid outgoing incoming (w := w)
    (P := fun _ t t' => Held cur outgoing t → Held cur outgoing t')
    (fun _ _ _ h => h) (fun _ _ h => h) ?_
  · refine wp_always (I := fun w => Held cur outgoing w.stores) ?_ hwp (.inl hcur) hs
    intro o w r w' hi _ hg
    exact hg hi
  · intro x hx
    have hc : x.outgoingCurrent = cur := Option.some.inj (hx.canonical.symm.trans hcur)
    rw [← hc]
    exact swapAllowed_held hx

theorem swapInputs_no_write {pid : ℕ} {w w' : World} {outgoing incoming : String}
    {tr : List (Occurrence Seams)} {q : Seam (Except Error SwapInputs)}
    (hs : Steps (surroundings pid) (swapInputs outgoing incoming).run w tr q w') :
    ∀ x ∈ tr, x.1.isWrite = false := by
  have hwp : wp ((surroundings pid).under Eq) (onStores fun o _ _ => o.isWrite = false)
      (swapInputs outgoing incoming).run w (fun _ _ => True) :=
    wp_swapInputs KeepsStores.eq (fun _ _ h => h) (fun _ _ _ _ => trivial)
  exact wp_occurrences (P := fun x : Occurrence Seams => x.1.isWrite = false)
    (wp_device hwp (fun _ _ _ _ => surroundings_under_eq) (fun _ _ _ _ _ h => h)) hs

/-- Operations that write nothing leave the stores and the display as they were. -/
theorem steps_no_write {pid : ℕ} {α : Type} {p q : Seam α} {w w' : World}
    {tr : List (Occurrence Seams)} (hs : Steps (surroundings pid) p w tr q w')
    (ht : ∀ x ∈ tr, x.1.isWrite = false) :
    w'.stores = w.stores ∧ w'.claudeJson = w.claudeJson := by
  induction hs with
  | refl => exact ⟨rfl, rfl⟩
  | head hd _ ih =>
    have h₀ := ht _ (List.mem_cons_self ..)
    obtain ⟨h₁, h₂⟩ := ih (fun x hx => ht x (List.mem_cons_of_mem _ hx))
    exact ⟨h₁.trans (surroundings_stores (Op.writesStores_of_isWrite h₀) hd),
      h₂.trans (surroundings_claudeJson h₀ hd)⟩

/-- A swap that writes anything has first read every input and passed the guard. -/
theorem swap_reads_first {pid : ℕ} {w w' : World} {outgoing incoming : String}
    {tr : List (Occurrence Seams)} {q : Seam (Except Error SwapReport)}
    (hs : Steps (surroundings pid) (swap outgoing incoming).run w tr q w') :
    (∀ x ∈ tr, x.1.isWrite = false) ∨
      ∃ inputs tr₁ tr₂ w₁, tr = tr₁ ++ tr₂ ∧ (∀ x ∈ tr₁, x.1.isWrite = false) ∧
        Steps (surroundings pid) (swapInputs outgoing incoming).run w tr₁ (.pure (.ok inputs)) w₁ := by
  unfold swap at hs
  rw [ExceptT.run_bind, steps_bind_iff] at hs
  rcases hs with ⟨p', -, h⟩ | ⟨r, w₁, tr₁, tr₂, rfl, h, h'⟩
  · exact .inl (swapInputs_no_write h)
  · have hn := swapInputs_no_write h
    cases r with
    | error e =>
      obtain ⟨rfl, -, -⟩ := steps_pure_iff.mp h'
      exact .inl (by simpa using hn)
    | ok inputs => exact .inr ⟨inputs, tr₁, tr₂, w₁, rfl, hn, h⟩

theorem swapped_stash_outgoing (t : Stores) (outgoing : String) (x : SwapInputs) :
    (t.swapped outgoing x).stash outgoing = .ok ⟨x.outgoingCurrent, x.outgoingPrev.oauthAccount⟩ :=
  Stores.stash_written (a := ⟨x.outgoingCurrent, x.outgoingPrev.oauthAccount⟩)

theorem swapped_items_of_ne {t : Stores} {outgoing other : String} {x : SwapInputs}
    (h : other ≠ outgoing) :
    (t.swapped outgoing x).credentialItem other = t.credentialItem other ∧
      (t.swapped outgoing x).oauthItem other = t.oauthItem other := by
  simp [Stores.swapped, Stores.restash, Stores.restashHalf, Stores.setCanonical,
    Stores.setOauthAccount, Stores.setCredential, Function.update_of_ne h]

/-- No failure loses the live credential, nothing is written before the inputs are in hand, and
a swap that succeeds has done exactly its three writes. -/
theorem swap_no_loss (pid : ℕ) (w : World) (outgoing incoming : Account)
    (hne : outgoing.accountUuid ≠ incoming.accountUuid) :
    (∀ tr q w', Steps (surroundings pid) (swap outgoing.stash incoming.stash).run w tr q w' →
      (∀ x ∈ tr, x.1.isWrite = false) ∧ w'.stores = w.stores ∧ w'.claudeJson = w.claudeJson ∨
      ∃ inputs tr₁ tr₂ w₁, tr = tr₁ ++ tr₂ ∧ (∀ x ∈ tr₁, x.1.isWrite = false) ∧
        Steps (surroundings pid) (swapInputs outgoing.stash incoming.stash).run w tr₁
          (.pure (.ok inputs)) w₁) ∧
    (∀ cur tr q w', w.stores.canonical = some cur →
      Steps (surroundings pid) (swap outgoing.stash incoming.stash).run w tr q w' →
      w'.stores.canonical = some cur ∨
        w'.stores.credentialItem outgoing.stash = some cur.blob) ∧
    (∀ report w', Exec (surroundings pid) (swap outgoing.stash incoming.stash).run w
        (.ok report) w' →
      ∃ cur prev inc, w.stores.canonical = some cur ∧ w.stores.stash outgoing.stash = .ok prev ∧
        w.stores.stash incoming.stash = .ok inc ∧
        w'.stores.canonical = some inc.credential ∧
        w'.stores.stash outgoing.stash = .ok ⟨cur, prev.oauthAccount⟩ ∧
        w'.stores.stash incoming.stash = .ok inc ∧
        ∀ other, other ≠ outgoing.stash →
          w'.stores.credentialItem other = w.stores.credentialItem other ∧
            w'.stores.oauthItem other = w.stores.oauthItem other) := by
  refine ⟨?_, ?_, ?_⟩
  · intro tr q w' hs
    rcases swap_reads_first hs with h | h
    · exact .inl ⟨h, steps_no_write hs h⟩
    · exact .inr h
  · intro cur tr q w' hcur hs
    exact swap_holds_outgoing hcur hs
  · intro report w' he
    rcases exec_swap_outcome he with ⟨e, he, -⟩ | ⟨x, hx, -, hok⟩
    · cases he
    have hne' : incoming.stash ≠ outgoing.stash := fun h => hne (stash_injective h).symm
    rw [hok report rfl]
    refine ⟨x.outgoingCurrent, x.outgoingPrev, x.incoming, hx.canonical, hx.outgoing, hx.incoming,
      rfl, swapped_stash_outgoing _ _ _, ?_, fun other h => swapped_items_of_ne h⟩
    obtain ⟨h₁, h₂⟩ := swapped_items_of_ne (t := w.stores) (x := x) hne'
    rw [← hx.incoming]
    unfold Stores.stash
    rw [h₁, h₂]

/-- Two captured accounts; the first is active, and its credential was refreshed in place. -/
def refreshedWorld : World :=
  atRest (captured (some ⟨[2]⟩) [(sampleAccount "A", ⟨[1]⟩), (sampleAccount "B", ⟨[3]⟩)]) "A"

theorem swap_no_loss_refreshed :
    Held ⟨[2]⟩ (sampleAccount "A").stash
      (run (calmly 0) (swap (sampleAccount "A").stash (sampleAccount "B").stash).run
        refreshedWorld).2.stores := by
  obtain ⟨tr, hs⟩ := exec_of_run (calmly_refines 0)
    (swap (sampleAccount "A").stash (sampleAccount "B").stash).run refreshedWorld
  exact (swap_no_loss 0 refreshedWorld (sampleAccount "A") (sampleAccount "B") (by decide)).2.1
    _ tr _ _ rfl hs

/-- The most recent credential of the incoming account: its stash, or the canonical item when
it is the account being left. -/
def latestCredential (t : Stores) (outgoing incoming : String) : Option Credential :=
  if incoming = outgoing then t.canonical
  else match t.stash incoming with
    | .ok a => some a.credential
    | .error _ => none

theorem swapped_latest {t : Stores} {outgoing incoming : String} {x : SwapInputs}
    (hx : InputsOf t outgoing incoming x) (h : incoming = outgoing →
      x.outgoingCurrent = x.outgoingPrev.credential) :
    (t.swapped outgoing x).canonical = latestCredential t outgoing incoming := by
  unfold latestCredential
  split
  · next he =>
    have hi := hx.incoming
    rw [he, hx.outgoing] at hi
    rw [hx.canonical, h he, show x.outgoingPrev = x.incoming from Except.ok.inj hi]
    rfl
  · rw [hx.incoming]
    rfl

/-- A drifted account swapped onto itself passes the guard: its stash is not the canonical item,
neither as the outgoing nor as the incoming account. -/
theorem inputsOf_self {t : Stores} {service : String} {cur : Credential} {prev : StashedAccount}
    (hc : t.canonical = some cur) (hp : t.stash service = .ok prev) :
    InputsOf t service service ⟨cur, prev, prev⟩ := by
  refine ⟨hc, hp, hp, ?_⟩
  simp [SwapInputs.wrongIdentity]

/-- A successful swap leaves the incoming account's latest credential canonical, except when an
account whose canonical credential has drifted from its stash is swapped onto itself. -/
theorem swap_installs_latest_iff (pid : ℕ) (w : World) (outgoing incoming : Account) :
    (∀ report w', Exec (surroundings pid) (swap outgoing.stash incoming.stash).run w
        (.ok report) w' →
      w'.stores.canonical = latestCredential w.stores outgoing.stash incoming.stash) ↔
    (incoming.accountUuid = outgoing.accountUuid → ∀ cur prev,
      w.stores.canonical = some cur → w.stores.stash outgoing.stash = .ok prev →
        cur = prev.credential) := by
  constructor
  · intro h he cur prev hc hp
    have hs : incoming.stash = outgoing.stash := by rw [Account.stash, he, Account.stash]
    rw [hs] at h
    have hx := inputsOf_self hc hp
    obtain ⟨report, w', hr⟩ := exec_swap pid (w := w) hx
    have hl := h report w' hr
    rcases exec_swap_outcome hr with ⟨e, he, -⟩ | ⟨x, hx', -, hok⟩
    · cases he
    rw [hok report rfl, latestCredential, if_pos rfl, hc] at hl
    have hi : x.incoming = prev := Except.ok.inj (hx'.incoming.symm.trans hp)
    rw [← hi]
    exact (Option.some.inj hl).symm
  · intro h report w' hr
    rcases exec_swap_outcome hr with ⟨e, he, -⟩ | ⟨x, hx, -, hok⟩
    · cases he
    rw [hok report rfl]
    refine swapped_latest hx (fun he => ?_)
    exact h (stash_injective he) _ _ hx.canonical hx.outgoing

/-- A forced swap onto the active account, after its credential was refreshed in place, puts the
superseded credential back. -/
theorem self_swap_regresses :
    ∃ report w', Exec (surroundings 0) (swap (sampleAccount "A").stash (sampleAccount "A").stash).run
        refreshedWorld (.ok report) w' ∧
      latestCredential refreshedWorld.stores (sampleAccount "A").stash (sampleAccount "A").stash =
        some ⟨[2]⟩ ∧
      w'.stores.canonical = some ⟨[1]⟩ := by
  refine ⟨_, _, exec_of_run (calmly_refines 0) _ _, by decide, ?_⟩
  decide

end Sessiometer
