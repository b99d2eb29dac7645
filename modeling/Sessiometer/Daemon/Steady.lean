import Sessiometer.Daemon.Reconcile

/-! # What a tick leaves alone once it has reconciled

The roster, and the external changes reported so far: only the reconciliation reports one. -/

namespace Sessiometer

open Effects

/-- The invariant does not look at the stores or at the baseline. -/
def Steadfast (J : CoreInv) : Prop :=
  ∀ core t watch t', J core t → J { core with canonicalWatch := watch } t'

def Steady (roster : List Account) (changes : List Event) : CoreInv :=
  fun core _ => core.roster = roster ∧ core.externalChanges = changes

section Steadfast

variable {pid : ℕ} {J : CoreInv}

theorem Steadfast.active (hJ : Steadfast J) (active : Option ℕ) :
    Steadfast (fun core t => J core t ∧ core.active = active) :=
  fun core t watch t' h => ⟨hJ core t watch t' h.1, h.2⟩

theorem Steadfast.upkeep (hJ : Steadfast J) : Upkeep pid (surroundings pid) anything J where
  device := fun _ _ _ _ hd => hd
  quiet := fun _ _ _ _ _ _ => trivial
  refresh := fun _ _ _ _ _ => ⟨trivial, fun core h => hJ core _ core.canonicalWatch _ h⟩

/-- A method that keeps the frame keeps the invariant, whatever it writes. -/
theorem Steadfast.of_frame (hJ : Steadfast J) {α : Type} {m : DaemonM α}
    (hm : Keeps (fun d d' => d'.frame = d.frame) m) :
    Preserves (surroundings pid) anything J m := by
  intro d w h
  have hfree : wp (surroundings pid) anything (m.run d) w (fun _ _ => True) :=
    wp_of_forall (fun _ _ _ _ _ => trivial) w
  apply wp_mono (wp_returns hfree (hm d))
  rintro r w' ⟨-, hframe⟩
  rw [core_of_frame hframe]
  exact hJ d.core w.stores d.core.canonicalWatch w'.stores h

theorem Steadfast.promoteCanonical [SerdeJson] (hJ : Steadfast J) (i : ℕ) (cred : Credential) :
    Preserves (surroundings pid) anything J (promoteCanonical i cred) := by
  unfold Sessiometer.promoteCanonical
  apply hJ.upkeep.observed observes_get
  intro d
  have hstores : Preserves (surroundings pid) anything J (attempt (promoteStores d.roster i cred)) :=
    hJ.of_frame (keepsFrame_lift _)
  apply hstores.bind
  intro r
  have hpromoted : Preserves (surroundings pid) anything J
      (modify (·.promoted i cred) : DaemonM PUnit) :=
    ensures_modify (fun d t h => hJ d.core t ⟨some cred⟩ t h)
  split
  · exact hpromoted.bind (fun _ => preserves_pure)
  · exact preserves_pure
  · exact preserves_pure

end Steadfast

theorem steadfast_steady (roster : List Account) (changes : List Event) :
    Steadfast (Steady roster changes) := fun _ _ _ _ h => h

section Steady

variable {pid : ℕ} {roster : List Account} {changes : List Event}

/-- What is steady leaves the roster and the reported changes as they were. -/
theorem exec_steady {α : Type} {m : DaemonM α} {d d' : Daemon} {w w' : World} {a : α}
    (hm : ∀ roster changes, Preserves (surroundings pid) anything (Steady roster changes) m)
    (he : Exec (surroundings pid) (m.run d) w (a, d') w') :
    d'.roster = d.roster ∧ d'.core.externalChanges = d.core.externalChanges := by
  have hwp := hm d.core.roster d.core.externalChanges d w ⟨rfl, rfl⟩
  have hsteady := wp_exec hwp he
  exact hsteady

theorem steady_recordSwap (target : ℕ) (incoming : String) (at' : Nanos) :
    Preserves (surroundings pid) anything (Steady roster changes)
      (recordSwap target incoming at') := by
  unfold recordSwap
  have hrecorded : Preserves (surroundings pid) anything (Steady roster changes)
      (modify (·.swapRecorded target at') : DaemonM PUnit) := ensures_modify (fun _ _ h => h)
  apply hrecorded.bind
  intro _
  apply (steadfast_steady roster changes).upkeep.observed (observes_attempt (quiet_stashRead incoming))
  intro r
  cases r with
  | ok stashed => exact ensures_modify (fun _ _ h => h)
  | error e => exact preserves_pure

theorem adoptLeads_steady (d : Daemon) (target : ℕ) :
    AdoptLeads (surroundings pid) anything (Steady roster changes) (Steady roster changes) d
      target := by
  have hadopt : Preserves (surroundings pid) anything (Steady roster changes)
      (lockedAdopt (d.account target).stash) :=
    (steadfast_steady roster changes).of_frame (keepsFrame_lockedAdopt _)
  refine ⟨Steady roster changes, hadopt.mono (fun _ _ h => h.1) ?_,
    fun at' => steady_recordSwap _ _ at'⟩
  intro r c t h
  cases r <;> exact h

theorem steady_resolveUnknownActive (canonical : Option Credential) :
    Preserves (surroundings pid) anything (Steady roster changes)
      (resolveUnknownActive canonical) := by
  unfold resolveUnknownActive
  apply (steadfast_steady roster changes).upkeep.observed observes_get
  intro d
  split
  · exact preserves_pure
  · cases canonical with
    | some c =>
      apply (steadfast_steady roster changes).upkeep.observed (observes_resolveAccountFor c)
      intro active
      exact ensures_modify (fun _ _ h => h)
    | none =>
      apply (steadfast_steady roster changes).upkeep.observed observes_resolveActive
      intro active
      exact ensures_modify (fun _ _ h => h)

/-- The recovery of a cleared item is steady. -/
theorem steady_recoverIfScrubbed (view : TickView) :
    Preserves (surroundings pid) anything (Steady roster changes) (recoverIfScrubbed view) := by
  have hrecover : Ensures (surroundings pid) anything (Steady roster changes)
      (fun r => if r.isSome then Steady roster changes else Steady roster changes)
      (recoverIfScrubbed view) :=
    ensures_recoverIfScrubbed (steadfast_steady roster changes).upkeep
      (fun d target _ => adoptLeads_steady d target)
  apply hrecover.mono (fun _ _ h => h)
  intro r c t h
  cases r <;> exact h

variable [SerdeJson]

theorem swapLeads_steady (d : Daemon) (i target : ℕ) (force : Bool) :
    SwapLeads (surroundings pid) anything (Steady roster changes) (Steady roster changes) d i target
      force := by
  have hswap : Preserves (surroundings pid) anything (Steady roster changes)
      (lockedSwap (d.account i).stash (d.account target).stash force) :=
    (steadfast_steady roster changes).of_frame (keepsFrame_lockedSwap _ _ force)
  refine ⟨Steady roster changes, hswap.mono (fun _ _ h => h.1) ?_,
    fun at' => steady_recordSwap _ _ at'⟩
  intro r c t h
  cases r <;> exact h

variable [Sha256]

theorem steady_observeReconciled (at' : Nanos) (activeBefore : Option ℕ)
    (canonical : Option Credential) (absent : Bool) :
    Preserves (surroundings pid) anything (Steady roster changes)
      (observeReconciled at' activeBefore canonical absent) := by
  have hwarm : ∀ active, WarmKeeps (surroundings pid) anything
      (fun c t => Steady roster changes c t ∧ c.active = active) canonical := by
    intro active c _ i trigger
    have hJ := (steadfast_steady roster changes).active active
    exact preserves_keepWarmAndPromote hJ.upkeep (hJ.promoteCanonical i) trigger
  have h := ensures_observeReconciled (steadfast_steady roster changes).upkeep (steady_resolveUnknownActive canonical) hwarm at'
    activeBefore absent
  exact h.mono (fun _ _ h => h) (fun _ _ _ h => h.1.1)

/-- A tick that could not read the canonical item reports nothing either. -/
theorem steady_observeRead_error (at' : Nanos) (activeBefore : Option ℕ) (e : Error) :
    Preserves (surroundings pid) anything (Steady roster changes)
      (observeRead at' activeBefore (.error e)) := by
  have hobserve : ∀ absent, Preserves (surroundings pid) anything (Steady roster changes)
      (some <$> observe at' activeBefore none absent) := by
    intro absent
    unfold observe
    refine ensures_map (K := fun _ => Steady roster changes) ?_ (fun _ _ _ h => h)
    apply preserves_fold_bind (fun d => core_of_frame d.clearLockBackoff_frame)
    intro _
    exact Ensures.bind preserves_pure (fun _ => steady_observeReconciled at' activeBefore none absent)
  unfold observeRead
  split
  · apply preserves_fold_bind (fun d => core_of_frame d.lockedTick_frame)
    intro _
    exact preserves_pure
  · next heq => cases heq
  · exact hobserve true
  · exact hobserve false

omit [Sha256] in
theorem steady_finishTick (observed : Option TickView) :
    Preserves (surroundings pid) anything (Steady roster changes) (finishTick observed) := by
  unfold finishTick
  cases observed with
  | none => exact preserves_pure
  | some view =>
    have hdecide : Preserves (surroundings pid) anything (Steady roster changes) (decideTick view) :=
      ensures_decideTick (steadfast_steady roster changes).upkeep (fun _ _ h => h)
        (fun d target _ => adoptLeads_steady d target)
        (fun i _ d target _ => swapLeads_steady d i target false)
    apply hdecide.bind
    intro action
    exact preserves_fold_bind (fun d => core_of_frame (d.settle_frame action))
      (fun _ => preserves_pure)

end Steady

end Sessiometer
