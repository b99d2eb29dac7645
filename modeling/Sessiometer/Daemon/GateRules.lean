import Sessiometer.Daemon.Gate
import Sessiometer.Swap.NoLoss

/-! # What stands between the daemon and a stash

Everything before the swap lock leaves the stores alone, so a locked swap is the engine's swap, on
the stores as they were when the gate was entered. -/

namespace Sessiometer

open Effects

/-- The operations that write an item of this stash. -/
def Op.writesStash (service : String) : Op → Bool
  | .addCredential s _ => s == service
  | .addOauthAccount s _ => s == service
  | .refresh account => account.stash == service
  | _ => false

theorem Op.writesStash_of_isQuiet {o : Op} (service : String) (h : o.isQuiet = true) :
    o.writesStash service = false := by
  cases o <;> simp_all [Op.isQuiet, Op.writesStores, Op.writesStash]

theorem Daemon.noteCanary_roster (d : Daemon) (outcome : CanaryOutcome) :
    (d.noteCanary outcome).roster = d.roster := by
  unfold noteCanary
  simp only
  split
  · rfl
  · cases d.canaryStatusOf outcome <;> simp only [closeCanaryAlarmBracket] <;>
      first | rfl | (split <;> rfl)

section Quiet

theorem quiet_clockNow (d : Daemon) : Only (Op.isQuiet · = true) (clockNow.run d) := by
  have hq : Op.isQuiet .now = true := rfl
  exact only_state_lift (p := Prog.call (S := Seams) .now) (only_call hq) d

theorem quiet_accountBackingOff (i : ℕ) (d : Daemon) :
    Only (Op.isQuiet · = true) ((accountBackingOff i).run d) := by
  unfold accountBackingOff
  refine only_state_bind only_get (fun d' d'' => ?_) d
  split
  · exact only_state_bind quiet_clockNow (fun _ => only_state_pure) d''
  · exact only_state_pure d''

theorem quiet_probeGate (i : ℕ) (force : Bool) (d : Daemon) :
    Only (Op.isQuiet · = true) ((probeGate i force).run d) := by
  unfold probeGate
  refine only_state_bind only_get (fun d' d'' => ?_) d
  split
  · exact only_state_pure d''
  · split
    · exact only_state_pure d''
    · split
      · exact only_state_pure d''
      · exact only_state_bind (quiet_accountBackingOff i) (fun _ => only_state_pure) d''

theorem quiet_outgoingLiveness (outgoing : String) (force : Bool) (d : Daemon) :
    Only (Op.isQuiet · = true) ((outgoingLiveness outgoing force).run d) := by
  unfold outgoingLiveness
  refine only_state_bind only_get (fun d' d'' => ?_) d
  split
  · exact only_state_bind (quiet_probeGate _ force)
      (fun gate => only_state_lift (quiet_probeLiveness _ gate)) d''
  · exact only_state_pure d''

theorem quiet_refreshCanary [SerdeJson] (d : Daemon) :
    Only (Op.isQuiet · = true) (refreshCanary.run d) := by
  unfold refreshCanary
  refine only_state_bind only_get (fun d' d'' => ?_) d
  refine only_state_bind (only_state_lift (quiet_canaryRun d'.roster)) (fun r s => ?_) d''
  cases r with
  | error e => exact only_state_pure s
  | ok outcome => exact only_state_bind only_modify (fun _ => only_state_pure) s

theorem quiet_swapGate [SerdeJson] (outgoing : String) (force : Bool) (d : Daemon) :
    Only (Op.isQuiet · = true) ((swapGate outgoing force).run d) := by
  unfold swapGate
  refine only_state_bind quiet_refreshCanary (fun r s => ?_) d
  cases r with
  | error e => exact only_state_pure s
  | ok outcome =>
    refine only_state_bind only_modify (fun _ => ?_) s
    refine only_state_bind only_get (fun d' s => ?_)
    cases d'.refusal outcome with
    | some e => exact only_state_pure s
    | none =>
      refine only_state_bind (quiet_outgoingLiveness outgoing force) (fun l => ?_) s
      exact only_state_bind only_modify (fun _ => only_state_pure)

end Quiet

section Locked

variable {pid : ℕ} {w : World}

/-- A quiet program leaves the stores and the lock as they are. -/
theorem wp_quiet {α : Type} {p : Seam α} {P : Op → Stores → Stores → Prop}
    (hp : Only (Op.isQuiet · = true) p) (hP : ∀ o t, o.isQuiet = true → P o t t) :
    wp (surroundings pid) (onStores P) p w
      (fun _ w' => w'.stores = w.stores ∧ w'.swapLock = w.swapLock) := by
  let same : World → World → Prop := fun w w' => w'.stores = w.stores ∧ w'.swapLock = w.swapLock
  have htrans : ∀ {w w' w'' : World}, same w w' → same w' w'' → same w w'' :=
    fun h h' => ⟨h'.1.trans h.1, h'.2.trans h.2⟩
  refine wp_only (R := same) hp (fun w => ⟨rfl, rfl⟩) htrans ?_
  intro o w r w' ho hd
  have hq := surroundings_quiet ho hd
  refine ⟨?_, hq⟩
  unfold onStores
  rw [hq.1]
  exact hP o w.stores ho

/-- Some run of a quiet program, when nothing is asked of its result. -/
theorem exec_quiet (pid : ℕ) {α : Type} {p : Seam α} (hp : Only (Op.isQuiet · = true) p) (w : World) :
    ∃ a w', Exec (surroundings pid) p w a w' ∧ w'.stores = w.stores ∧
      w'.swapLock = w.swapLock := by
  have he := exec_of_run (calmly_refines pid) p w
  have hw := wp_exec (wp_quiet (P := fun _ _ _ => True) hp (fun _ _ _ => trivial)) he
  exact ⟨_, _, he, hw⟩

/-- Under the swap lock the body runs on the stores as they were, and only if the lock was free. -/
theorem wp_withSwapLock {α : Type} {body : Attempt α} {P : Op → Stores → Stores → Prop}
    {Q : Except Error α → World → Prop} (hfree : FreeReads P)
    (hbusy : ∀ e, Q (.error e) w)
    (hbody : w.swapLock = none → ∀ w₁, w₁.stores = w.stores →
      wp (surroundings pid) (onStores P) body.run w₁
        (fun r w₂ => ∀ w₃, w₃.stores = w₂.stores → Q r w₃)) :
    wp (surroundings pid) (onStores P) (withSwapLock body).run w Q := by
  unfold withSwapLock
  rw [wp_except_bind, wp_acquire]
  intro r w₁ hd
  cases r with
  | error e =>
    have hw : w₁ = w := hd
    subst hw
    exact ⟨hfree _ _ rfl, hbusy e⟩
  | ok u =>
    obtain ⟨hl, rfl⟩ := hd
    refine ⟨hfree _ _ rfl, ?_⟩
    dsimp only
    rw [wp_except_bind, ← id_map body.run, wp_lift_map]
    refine wp_mono (hbody hl _ rfl) ?_
    intro r w₂ hr
    dsimp only
    rw [wp_except_bind, ← id_map SwapLock.release]
    intro u w₃ hd
    have hw : w₃ = { w₂ with swapLock := none } := hd
    subst hw
    exact ⟨hfree _ _ rfl, hr _ rfl⟩

end Locked

end Sessiometer
