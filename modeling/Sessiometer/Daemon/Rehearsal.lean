import Sessiometer.Daemon.Listed
import Sessiometer.Daemon.LockedSwap

/-! # Rehearsed turns

A tick played against a handler, from a world that others may have changed since the last turn. -/

namespace Sessiometer

open Effects

section Rehearsal

variable [SerdeJson] [Sha256]

/-- The tick that a handler makes of a state. -/
def rehearse (H : Handler Seams World) (d : Daemon) (w : World) :
    (Turn × Option PollLog) × (Daemon × World) :=
  match run H (observeTickLogged.run d) w with
  | ((none, d₁), w₁) => ((.tick d₁.events none, none), (d₁, w₁))
  | ((some (view, log), d₁), w₁) =>
    match run H ((recoverIfScrubbed view).run d₁) w₁ with
    | ((some action, d₂), w₂) =>
      ((.tick (d₂.settle action).events none, some log), (d₂.settle action, w₂))
    | ((none, d₂), w₂) =>
      match run H ((decideAction view.at' view.active view.readings).run d₂) w₂ with
      | ((action, d₃), w₃) =>
        ((.tick (d₃.settle action).events (some ⟨d₂, view, action⟩), some log),
          (d₃.settle action, w₃))

variable {pid : ℕ} {H : Handler Seams World} {d d' : Daemon} {w w₁ w' : World}

/-- Whatever elapsed before a tick may elapse as it begins. -/
theorem exec_observeTickLogged_after {x : Option (TickView × PollLog)} (hw : Elapses w w₁)
    (h : Exec ((surroundings pid).under Elapses) (observeTickLogged.run d) w₁ (x, d') w') :
    Exec ((surroundings pid).under Elapses) (observeTickLogged.run d) w (x, d') w' := by
  unfold observeTickLogged at h ⊢
  rw [exec_modify_bind] at h ⊢
  obtain ⟨now, d₁, w₂, hnow, hrest⟩ := exec_state_bind.mp h
  obtain ⟨r, w₃, ⟨w₄, helapsed, hread⟩, hpure⟩ := exec_perform_iff.mp hnow
  refine exec_state_bind.mpr ⟨now, d₁, w₂, exec_perform_iff.mpr ⟨r, w₃, ⟨w₄, ?_, hread⟩, hpure⟩, hrest⟩
  exact le_trans hw helapsed

/-- A rehearsed tick is a turn of the daemon. -/
theorem loggedStep_rehearse (hH : H.Refines (surroundings pid)) (hw : Elapses w w₁) :
    LoggedStep ((surroundings pid).under Elapses) (d, w) (rehearse H d w₁).1
      (rehearse H d w₁).2 := by
  have hunder := hH.under (R := Elapses) (fun w => le_refl w.clock)
  have hobserve := exec_observeTickLogged_after hw (exec_of_run hunder (observeTickLogged.run d) w₁)
  unfold rehearse
  split
  · next d₁ w₂ hrun =>
    rw [hrun] at hobserve
    exact .locked hobserve
  · next view log d₁ w₂ hrun =>
    rw [hrun] at hobserve
    have hrecover := exec_of_run hunder ((recoverIfScrubbed view).run d₁) w₂
    split
    · next action d₂ w₃ hrun' =>
      rw [hrun'] at hrecover
      exact .recovered hobserve hrecover
    · next d₂ w₃ hrun' =>
      rw [hrun'] at hrecover
      exact .decided hobserve hrecover (exec_of_run hunder _ w₃)

theorem rehearse_tick (H : Handler Seams World) (d : Daemon) (w : World) :
    (rehearse H d w).1.1 ≠ .between := by
  unfold rehearse
  split
  · intro h
    cases h
  · split
    · intro h
      cases h
    · intro h
      cases h

theorem roster_rehearse (hH : H.Refines (surroundings pid)) :
    (rehearse H d w).2.1.roster = d.roster := by
  have hcourse := course_of_logged (loggedStep_rehearse (d := d) hH (le_refl w.clock))
  have htick := rehearse_tick H d w
  generalize (rehearse H d w).1.1 = l at hcourse htick
  generalize (rehearse H d w).1.2 = log at hcourse
  generalize (rehearse H d w).2.1 = d' at hcourse ⊢
  generalize (rehearse H d w).2.2.clock = t' at hcourse
  cases hcourse with
  | between => exact absurd rfl htick
  | reloaded => exact absurd rfl htick
  | locked hd => exact Daemon.roster_of_latches (d := d.beginTick) hd
  | @observed r r' e t₁ _ x _ action _ _ hp hpolled _ hr hr' he =>
    rw [roster_of_frame (e.settle_frame action), he.roster (by intro h; cases h),
      hr'.moves.roster (by intro h; cases h), hr.roster (by intro h; cases h), hpolled.keeps.2,
      hp.roster (by intro h; cases h)]
    rfl

/-- A run goes on with a rehearsed tick. -/
theorem runs_rehearse (s s' : Daemon × World) (w₁ : World) {tr : List (Turn × Option PollLog)}
    (hrun : Runs (LoadedStep ((surroundings pid).under Elapses)) s tr s')
    (hH : H.Refines (surroundings pid)) (hunique : UniqueUuids s'.1.roster)
    (hw : Elapses s'.2 w₁) : Runs (LoadedStep ((surroundings pid).under Elapses)) s
      (tr ++ [(rehearse H s'.1 w₁).1]) (rehearse H s'.1 w₁).2 := by
  refine .snoc hrun ⟨loggedStep_rehearse hH hw, ?_⟩
  rw [roster_rehearse hH]
  exact hunique

end Rehearsal

theorem sampleDaemon_started : sampleDaemon.Started := by
  refine ⟨by unfold UniqueUuids; decide, ?_, rfl⟩
  rintro i ⟨⟩
  decide

end Sessiometer
