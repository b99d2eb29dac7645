import Sessiometer.Daemon.GateRules
import Sessiometer.Daemon.Config

/-! # The gate and the outgoing stash

The canary compares the canonical item with the account the display names, the swap writes the
stash of the account the daemon believes active. What is left between the two is the guard inside
the engine. -/

namespace Sessiometer

open Effects

section Reached

variable {pid : ℕ} {w : World}

theorem steps_bind_left {α β : Type} {D : Device Seams World} {p p' : Seam α} {f : α → Seam β}
    {w w' : World} {tr : List (Occurrence Seams)} (h : Steps D p w tr p' w') :
    Steps D (p >>= f) w tr (p' >>= f) w' :=
  steps_bind_iff.mpr (.inl ⟨p', rfl, h⟩)

theorem steps_bind_right {α β : Type} {D : Device Seams World} {p : Seam α} {f : α → Seam β}
    {a : α} {q : Seam β} {w w' w'' : World} {tr : List (Occurrence Seams)} (h : Exec D p w a w')
    (h' : Steps D (f a) w' tr q w'') : ∃ tr', Steps D (p >>= f) w (tr' ++ tr) q w'' := by
  obtain ⟨tr', hs⟩ := h
  exact ⟨tr', steps_bind_iff.mpr (.inr ⟨a, w', tr', tr, rfl, hs, h'⟩)⟩

/-- Some run of the program performs an operation that writes the stash. -/
def MayWrite {α : Type} (pid : ℕ) (service : String) (p : Seam α) (w : World) : Prop :=
  ∃ tr q w', Steps (surroundings pid) p w tr q w' ∧ ∃ x ∈ tr, x.1.writesStash service = true

theorem MayWrite.bind_left {α β : Type} {service : String} {p : Seam α} {f : α → Seam β}
    (h : MayWrite pid service p w) : MayWrite pid service (p >>= f) w := by
  obtain ⟨tr, q, w', hs, hx⟩ := h
  exact ⟨tr, _, w', steps_bind_left hs, hx⟩

theorem MayWrite.bind_right {α β : Type} {service : String} {p : Seam α} {f : α → Seam β} {a : α}
    {w' : World} (he : Exec (surroundings pid) p w a w') (h : MayWrite pid service (f a) w') :
    MayWrite pid service (p >>= f) w := by
  obtain ⟨tr, q, w'', hs, x, hx, hw⟩ := h
  obtain ⟨tr', hs'⟩ := steps_bind_right he hs
  exact ⟨_, q, w'', hs', x, List.mem_append_right _ hx, hw⟩

/-- A swap whose inputs pass the guard goes on to write the outgoing stash. -/
theorem swap_mayWrite {outgoing incoming : String} {x : SwapInputs}
    (h : InputsOf w.stores outgoing incoming x) :
    MayWrite pid outgoing (swap outgoing incoming).run w := by
  have he := exec_of_run (calmly_refines pid) (swapInputs outgoing incoming).run w
  rw [run_swapInputs h] at he
  unfold swap
  rw [ExceptT.run_bind]
  refine MayWrite.bind_right he ?_
  have hd : surroundings pid (.addCredential outgoing x.outgoingCurrent.blob) w
      (.ok () : Except Error Unit)
      (w.setStores (w.stores.setCredential outgoing x.outgoingCurrent.blob)) := rfl
  exact ⟨_, _, _, .head hd (.refl _ _), _, List.mem_singleton_self _, by simp [Op.writesStash]⟩

theorem swapLocked_mayWrite {outgoing incoming : String} {x : SwapInputs}
    (hl : w.swapLock = none) (h : InputsOf w.stores outgoing incoming x) :
    MayWrite pid outgoing (swapLocked outgoing incoming).run w := by
  have hd : Exec (surroundings pid) SwapLock.acquire.run w (.ok ()) { w with swapLock := some pid } :=
    exec_perform_iff.mpr ⟨(.ok () : Except Error Unit), _, ⟨hl, rfl⟩, exec_pure_iff.mpr ⟨rfl, rfl⟩⟩
  unfold swapLocked withSwapLock
  rw [ExceptT.run_bind]
  refine MayWrite.bind_right hd ?_
  have hs : MayWrite pid outgoing (swap outgoing incoming).run { w with swapLock := some pid } :=
    swap_mayWrite h
  exact hs.bind_left.bind_left

end Reached

section Passing

variable {pid : ℕ} {w : World}

/-- Any answer that the device allows is an answer the caller may have to live with. -/
theorem exec_call {α : Type} {o : Op} {w' : World} {r : o.Reply} {k : o.Reply → Seam α} {a : α}
    {w'' : World} (hd : surroundings pid o w r w') (h : Exec (surroundings pid) (k r) w' a w'') :
    Exec (surroundings pid) (.perform o k) w a w'' :=
  exec_perform_iff.mpr ⟨r, w', hd, h⟩

theorem exec_done {α : Type} {a : α} : Exec (surroundings pid) (.pure a) w a w :=
  exec_pure_iff.mpr ⟨rfl, rfl⟩

/-- The display cannot be read, and the cross-check cannot be made. -/
theorem exec_crossCheck_unverified [SerdeJson] (roster : List Account) (canonical : Credential) :
    Exec (surroundings pid) (Canary.crossCheck roster canonical) w
      (.inconclusive .displayUnresolved) w := by
  have hd : surroundings pid .readClaudeJson w (.error .io : Except Error Value) w :=
    ⟨rfl, by simp [Reads]⟩
  have hr : Exec (surroundings pid) (Active.resolveViaDisplay roster) w none w :=
    exec_call hd exec_done
  exact exec_bind_iff.mpr ⟨none, w, hr, exec_done⟩

theorem exec_canaryRun_unverified [SerdeJson] (pid : ℕ) {cur : Credential} (roster : List Account)
    (hcur : w.stores.canonical = some cur) :
    ∃ w', Exec (surroundings pid) (Canary.run roster).run w
      (.ok (.inconclusive .displayUnresolved)) w' := by
  have hprobe : surroundings pid .probeResolution w (.ok () : Except Error Unit) w := rfl
  have hread : surroundings pid .readCanonical w (.ok cur : Except Error Credential) w :=
    ⟨rfl, hcur⟩
  obtain ⟨r, w₁, hrec, -⟩ := exec_quiet pid (quiet_reconcileDisplay roster cur) w
  refine ⟨w₁, exec_except_bind (exec_lift (exec_call hprobe exec_done)) ?_⟩
  refine exec_except_bind (exec_lift (exec_call hread exec_done)) ?_
  exact exec_except_bind (exec_lift hrec) (exec_lift (exec_crossCheck_unverified roster cur))

/-- The online probe finds the bearer alive, or is not made at all. -/
theorem exec_probeLiveness_passes (pid : ℕ) (account : Account) (gate : ProbeGate) :
    ∃ l, Exec (surroundings pid) (Canary.probeLiveness account gate) w l w ∧
      ∀ strict, Canary.probeRefuses l strict = false := by
  cases gate with
  | armed =>
    have hd : surroundings pid (.poll account true) w
        (.ok ⟨⟨none, none, none, none⟩, none⟩ : Except Error PolledReading) w := rfl
    exact ⟨.live, exec_call hd exec_done, by decide⟩
  | disarmed => exact ⟨.skipped, exec_done, by decide⟩
  | uninformative => exact ⟨.uninformative, exec_done, by decide⟩
  | overridden => exact ⟨.overridden, exec_done, by decide⟩

theorem exec_outgoingLiveness_passes (pid : ℕ) {d : Daemon} {outgoing : String} (force : Bool)
    (h : ∃ a ∈ d.roster, a.stash = outgoing) :
    ∃ l d' w', Exec (surroundings pid) ((outgoingLiveness outgoing force).run d) w (l, d') w' ∧
      ∀ strict, Canary.probeRefuses l strict = false := by
  cases hi : d.roster.findIdx? (fun a => a.stash == outgoing) with
  | none =>
    obtain ⟨a, ha, hs⟩ := h
    have := List.findIdx?_eq_none_iff.mp hi a ha
    simp [hs] at this
  | some i =>
    obtain ⟨⟨gate, d'⟩, w', hg, -⟩ := exec_quiet pid (quiet_probeGate i force d) w
    obtain ⟨l, hl, hp⟩ := exec_probeLiveness_passes pid (w := w') (d.account i) gate
    refine ⟨l, d', w', ?_, hp⟩
    unfold outgoingLiveness
    refine exec_state_bind.mpr ⟨d, d, w, exec_get, ?_⟩
    rw [hi]
    exact exec_state_bind.mpr ⟨gate, d', w', hg, exec_state_lift hl⟩

/-- Nothing makes the gate refuse a swap out of a roster account: the display may be unreadable. -/
theorem exec_swapGate_passes [SerdeJson] (pid : ℕ) {d : Daemon} {outgoing : String} {cur : Credential}
    (force : Bool) (h : ∃ a ∈ d.roster, a.stash = outgoing)
    (hcur : w.stores.canonical = some cur) :
    ∃ d' w', Exec (surroundings pid) ((swapGate outgoing force).run d) w (.ok (), d') w' ∧
      w'.stores = w.stores ∧ w'.swapLock = w.swapLock := by
  obtain ⟨w₁, hrun⟩ := exec_canaryRun_unverified pid d.roster hcur
  have hcanary : Exec (surroundings pid) (refreshCanary.run d) w
      (.ok (.inconclusive .displayUnresolved), d.noteCanary (.inconclusive .displayUnresolved))
      w₁ := by
    unfold refreshCanary
    refine exec_state_bind.mpr ⟨d, d, w, exec_get, ?_⟩
    refine exec_state_bind.mpr ⟨_, d, w₁, exec_state_lift hrun, ?_⟩
    exact exec_state_bind.mpr ⟨⟨⟩, _, w₁, exec_modify, exec_state_pure⟩
  have hroster : (d.noteCanary (.inconclusive .displayUnresolved)).roster = d.roster := by
    exact Daemon.noteCanary_roster d _
  obtain ⟨l, d₂, w₂, hl, hp⟩ := exec_outgoingLiveness_passes pid (w := w₁)
    (d := d.noteCanary (.inconclusive .displayUnresolved)) force (hroster.symm ▸ h)
  have hg : Exec (surroundings pid) ((swapGate outgoing force).run d) w (.ok (),
      d₂.emitIf (Canary.probeAlarms l) (.canaryOnlineProbe l.asStr false)) w₂ := by
    unfold swapGate
    refine exec_state_bind.mpr ⟨_, _, w₁, hcanary, ?_⟩
    refine exec_state_bind.mpr ⟨⟨⟩, _, w₁, exec_modify, ?_⟩
    refine exec_state_bind.mpr ⟨_, _, w₁, exec_get, ?_⟩
    refine exec_state_bind.mpr ⟨l, d₂, w₂, hl, ?_⟩
    simp only [hp]
    exact exec_state_bind.mpr ⟨⟨⟩, _, w₂, exec_modify, exec_state_pure⟩
  have hq := wp_exec (wp_quiet (P := fun _ _ _ => True) (quiet_swapGate outgoing force d)
    (fun _ _ _ => trivial)) hg
  exact ⟨_, w₂, hg, hq⟩

theorem exec_swapLocked {outgoing incoming : String} {x : SwapInputs} (hl : w.swapLock = none)
    (hx : InputsOf w.stores outgoing incoming x) :
    ∃ report w', Exec (surroundings pid) (swapLocked outgoing incoming).run w (.ok report) w' := by
  have hacquire : surroundings pid .acquireSwapLock w (.ok () : Except Error Unit)
      { w with swapLock := some pid } := ⟨hl, rfl⟩
  have hx' : InputsOf ({ w with swapLock := some pid } : World).stores outgoing incoming x := hx
  obtain ⟨report, w₁, hswap⟩ := exec_swap pid hx'
  have hrelease : surroundings pid .releaseSwapLock w₁ () { w₁ with swapLock := none } := rfl
  refine ⟨report, { w₁ with swapLock := none }, ?_⟩
  have hafter : Exec (surroundings pid) (do
      let r ← ExceptT.lift (swap outgoing incoming).run
      ExceptT.lift SwapLock.release
      ExceptT.mk (pure r) : Attempt SwapReport).run { w with swapLock := some pid } (.ok report)
      { w₁ with swapLock := none } :=
    exec_except_bind (exec_lift hswap)
      (exec_except_bind (exec_lift (exec_call hrelease exec_done)) exec_done)
  exact exec_except_bind (exec_call hacquire exec_done) hafter

/-- A locked swap out of a roster account succeeds in some run. -/
theorem exec_lockedSwap [SerdeJson] (pid : ℕ) {d : Daemon} {outgoing incoming : String}
    {x : SwapInputs} (force : Bool) (h : ∃ a ∈ d.roster, a.stash = outgoing)
    (hl : w.swapLock = none) (hx : InputsOf w.stores outgoing incoming x) :
    ∃ report d' w', Exec (surroundings pid) ((lockedSwap outgoing incoming force).run d) w
      (.ok report, d') w' := by
  obtain ⟨d', w₁, hg, hs, hl'⟩ := exec_swapGate_passes pid force h hx.canonical
  rw [← hs] at hx
  obtain ⟨report, w', hr⟩ := exec_swapLocked (hl'.trans hl) hx
  exact ⟨report, d', w', exec_state_bind.mpr ⟨_, d', w₁, hg, exec_state_lift hr⟩⟩

end Passing

/-- What the swap of `outgoing` for `incoming` will refuse in this world by itself: the lock is
taken, a stash does not read, or the engine's guard recognises the incoming account. -/
def EngineRefuses (w : World) (outgoing incoming : String) (cur : Credential) : Prop :=
  w.swapLock = none → ∀ prev inc, w.stores.stash outgoing = .ok prev →
    w.stores.stash incoming = .ok inc → (⟨cur, prev, inc⟩ : SwapInputs).wrongIdentity = true

section Exposure

variable {pid : ℕ} {w : World} {outgoing incoming : String} {cur : Credential}

theorem no_inputs_of_refuses (hcur : w.stores.canonical = some cur) (hl : w.swapLock = none)
    (h : EngineRefuses w outgoing incoming cur) (x : SwapInputs) :
    ¬ InputsOf w.stores outgoing incoming x := by
  intro hx
  have hc : x.outgoingCurrent = cur := Option.some.inj (hx.canonical.symm.trans hcur)
  have hg := h hl _ _ hx.outgoing hx.incoming
  rw [← hc] at hg
  have hf : x.wrongIdentity = false := hx.guard
  rw [show (⟨x.outgoingCurrent, x.outgoingPrev, x.incoming⟩ : SwapInputs) = x from rfl, hf] at hg
  cases hg

theorem inputs_of_not_refuses (hcur : w.stores.canonical = some cur)
    (h : ¬ EngineRefuses w outgoing incoming cur) :
    w.swapLock = none ∧ ∃ x, InputsOf w.stores outgoing incoming x := by
  unfold EngineRefuses at h
  push Not at h
  obtain ⟨hl, prev, inc, hp, hi, hg⟩ := h
  exact ⟨hl, ⟨cur, prev, inc⟩, hcur, hp, hi, by simpa using hg⟩

/-- Where the engine refuses, no run of the locked swap writes the outgoing stash. -/
theorem swapLocked_no_write (hcur : w.stores.canonical = some cur)
    (h : EngineRefuses w outgoing incoming cur) :
    wp (surroundings pid) (onStores fun o _ _ => o.writesStash outgoing = false)
      (swapLocked outgoing incoming).run w (fun _ _ => True) := by
  have hfree : FreeReads (fun o _ _ => o.writesStash outgoing = false) := by
    intro o t ho
    cases o <;> simp_all [Op.isWrite, Op.writesStash]
  refine wp_withSwapLock hfree (fun _ => trivial) ?_
  intro hl w₁ hw
  refine wp_mono (wp_swap_alone pid outgoing incoming hfree (fun _ _ => rfl) ?_) (fun _ _ _ _ _ => trivial)
  intro x hx
  rw [hw] at hx
  exact absurd hx (no_inputs_of_refuses hcur hl h x)

end Exposure

/-- The canonical item holds what account `j` has stashed, while the daemon believes that account
`i` is active. -/
structure CanonicalMoved (d : Daemon) (w : World) (i j : ℕ) (cur : Credential) : Prop where
  active : d.active = some i
  other : j ≠ i
  roster : i < d.roster.length ∧ j < d.roster.length
  canonical : w.stores.canonical = some cur
  held : ∃ stashed, w.stores.stash (d.account j).stash = .ok stashed ∧ stashed.credential = cur

theorem account_mem {d : Daemon} {i : ℕ} (h : i < d.roster.length) :
    ∃ a ∈ d.roster, a.stash = (d.account i).stash := by
  refine ⟨d.account i, ?_, rfl⟩
  unfold Daemon.account
  rw [List.getD_eq_getElem?_getD, List.getElem?_eq_getElem h, Option.getD_some]
  exact List.getElem_mem h

/-- Once the canonical item holds another account's credential, the locked swap out of the cached
account keeps off that account's stash in all of its runs exactly when the engine refuses by
itself: the canary never stands in the way. -/
theorem lockedSwap_keeps_outgoing_iff [SerdeJson] (pid : ℕ) (w : World) (d : Daemon) (i j k : ℕ)
    (force : Bool) (cur : Credential) (hm : CanonicalMoved d w i j cur) :
    (∀ tr q w', Steps (surroundings pid)
        ((lockedSwap (d.account i).stash (d.account k).stash force).run d) w tr q w' →
      ∀ x ∈ tr, x.1.writesStash (d.account i).stash = false) ↔
    EngineRefuses w (d.account i).stash (d.account k).stash cur := by
  constructor
  · intro hno
    by_contra h
    obtain ⟨hl, x, hx⟩ := inputs_of_not_refuses hm.canonical h
    obtain ⟨d', w₁, hg, hs, hl'⟩ := exec_swapGate_passes pid force
      (account_mem hm.roster.1) hm.canonical
    rw [← hs] at hx
    have hw : MayWrite pid (d.account i).stash
        (swapLocked (d.account i).stash (d.account k).stash).run w₁ :=
      swapLocked_mayWrite (hl'.trans hl) hx
    have hlocked : MayWrite pid (d.account i).stash
        ((lockedSwap (d.account i).stash (d.account k).stash force).run d) w := by
      unfold lockedSwap
      rw [StateT.run_bind]
      refine MayWrite.bind_right hg ?_
      exact hw.bind_left
    obtain ⟨tr, q, w', hs, e, he, hwrites⟩ := hlocked
    rw [hno tr q w' hs e he] at hwrites
    cases hwrites
  · intro h tr q w' hs
    have hwp : wp (surroundings pid)
        (onStores fun o _ _ => o.writesStash (d.account i).stash = false)
        ((lockedSwap (d.account i).stash (d.account k).stash force).run d) w
        (fun _ _ => True) := by
      unfold lockedSwap
      rw [wp_state_bind]
      refine wp_mono (wp_quiet (quiet_swapGate _ force d)
        (fun o _ => Op.writesStash_of_isQuiet _)) ?_
      rintro ⟨r, d'⟩ w₁ ⟨hs₁, hl₁⟩
      cases r with
      | error e => exact trivial
      | ok u =>
        have hcur : w₁.stores.canonical = some cur := by
          rw [hs₁]
          exact hm.canonical
        have hrefuses : EngineRefuses w₁ (d.account i).stash (d.account k).stash cur := by
          unfold EngineRefuses
          rw [hs₁, hl₁]
          exact h
        exact wp_state_lift.mpr (swapLocked_no_write hcur hrefuses)
    exact wp_occurrences (P := fun x : Occurrence Seams => x.1.writesStash _ = false) hwp hs

section Sample

local instance lockedSwapJson : SerdeJson := sampleJson

/-- A daemon that has just started, on three accounts under the default settings. -/
def startedDaemon : Daemon :=
  Daemon.new [sampleAccount "A", sampleAccount "B", sampleAccount "C"] .default'

/-- The same three accounts, the first of them active. -/
def sampleDaemon : Daemon :=
  { Daemon.new [sampleAccount "A", sampleAccount "B", sampleAccount "C"] .default' with
    active := some 0 }

/-- Each account's credential in its own stash, and the given one canonical. -/
def sampleWorld (canonical : Credential) (displayed : String) : World :=
  atRest (captured (some canonical) [(sampleAccount "A", ⟨[1]⟩), (sampleAccount "B", ⟨[2]⟩),
    (sampleAccount "C", ⟨[3]⟩)]) displayed

/-- Moved to the incoming account instead, the canonical item is recognised by the engine. -/
theorem lockedSwap_keeps_outgoing_incoming :
    EngineRefuses (sampleWorld ⟨[3]⟩ "C") (sampleDaemon.account 0).stash
      (sampleDaemon.account 2).stash ⟨[3]⟩ ∧
    (∀ tr q w', Steps (surroundings 0) ((lockedSwap (sampleDaemon.account 0).stash
        (sampleDaemon.account 2).stash false).run sampleDaemon) (sampleWorld ⟨[3]⟩ "C") tr q w' →
      ∀ x ∈ tr, x.1.writesStash (sampleDaemon.account 0).stash = false) := by
  have hm : CanonicalMoved sampleDaemon (sampleWorld ⟨[3]⟩ "C") 0 2 ⟨[3]⟩ :=
    ⟨rfl, by decide, by decide, rfl, ⟨⟨[3]⟩, ⟨identityDocument "C", "C", by decide⟩⟩, rfl, rfl⟩
  have hrefuses : EngineRefuses (sampleWorld ⟨[3]⟩ "C") (sampleDaemon.account 0).stash
      (sampleDaemon.account 2).stash ⟨[3]⟩ := by
    intro _ prev inc hp hi
    have hprev : prev.credential = ⟨[1]⟩ := by cases hp; rfl
    have hinc : inc.credential = ⟨[3]⟩ := by cases hi; rfl
    simp [SwapInputs.wrongIdentity, hprev, hinc, Credential.«matches»]
  exact ⟨hrefuses, (lockedSwap_keeps_outgoing_iff 0 _ _ 0 2 2 false _ hm).mpr hrefuses⟩

/-- Moved to the second account, display and all, the canonical item passes the canary as `Ok`,
and the swap out of the first account staples it to the first account's stash. -/
theorem lockedSwap_staples_third_account :
    Exec (surroundings 0) (Canary.run sampleDaemon.roster).run (sampleWorld ⟨[2]⟩ "B") (.ok .ok)
      (sampleWorld ⟨[2]⟩ "B") ∧
    ∃ report d' w', Exec (surroundings 0) ((lockedSwap (sampleDaemon.account 0).stash
        (sampleDaemon.account 2).stash false).run sampleDaemon) (sampleWorld ⟨[2]⟩ "B")
        (.ok report, d') w' ∧
      (sampleWorld ⟨[2]⟩ "B").stores.credentialItem (sampleDaemon.account 0).stash = some [1] ∧
      w'.stores.credentialItem (sampleDaemon.account 0).stash = some [2] := by
  refine ⟨exec_of_run (calmly_refines 0) _ _, ?_⟩
  exact ⟨_, _, _, exec_of_run (calmly_refines 0) _ _, by decide, by decide⟩

end Sample

end Sessiometer
