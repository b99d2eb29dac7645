import Sessiometer.Effects.Rules
import Mathlib.Logic.Function.Basic

/-! # Interleaved programs

A pool is a family of programs over one shared world. Any of them may perform its next
operation; each acts through its own device. -/

namespace Effects

universe u v w'

variable {S : Interface.{u}} {W : Type v} {α : Type u} {ι : Type w'} [DecidableEq ι]

structure Pool (S : Interface.{u}) (ι : Type w') (α : Type u) (W : Type v) where
  progs : ι → Prog S α
  world : W

/-- One operation of process `i`. -/
inductive PoolStep (D : ι → Device S W) : Pool S ι α W → ι × Occurrence S → Pool S ι α W → Prop
  | step {P : Pool S ι α W} {i : ι} {o : S.Op} {k : S.Reply o → Prog S α} {r : S.Reply o}
      {w' : W} : P.progs i = .perform o k → D i o P.world r w' →
      PoolStep D P (i, ⟨o, r⟩) ⟨Function.update P.progs i (k r), w'⟩

inductive PoolRun (D : ι → Device S W) :
    Pool S ι α W → List (ι × Occurrence S) → Pool S ι α W → Prop
  | refl (P : Pool S ι α W) : PoolRun D P [] P
  | head {P P' P'' : Pool S ι α W} {l : ι × Occurrence S} {tr : List (ι × Occurrence S)} :
      PoolStep D P l P' → PoolRun D P' tr P'' → PoolRun D P (l :: tr) P''

/-- Process `i` performs its next operation, as its handler answers it. -/
def Pool.perform (H : ι → Handler S W) (P : Pool S ι α W) (i : ι) : Pool S ι α W :=
  match P.progs i with
  | .perform o k => ⟨Function.update P.progs i (k (H i o P.world).1), (H i o P.world).2⟩
  | .pure _ => P

/-- Whatever the schedule, handled operations make a run of the pool. -/
theorem poolRun_schedule {H : ι → Handler S W} {D : ι → Device S W} (hH : ∀ i, (H i).Refines (D i))
    (schedule : List ι) (P : Pool S ι α W) :
    ∃ tr, PoolRun D P tr (schedule.foldl (Pool.perform H) P) := by
  induction schedule generalizing P with
  | nil => exact ⟨[], .refl P⟩
  | cons i rest ih =>
    obtain ⟨tr, hrun⟩ := ih (P.perform H i)
    rw [List.foldl_cons]
    cases hp : P.progs i with
    | pure a =>
      have hsame : P.perform H i = P := by
        unfold Pool.perform
        rw [hp]
      rw [hsame] at hrun ⊢
      exact ⟨tr, hrun⟩
    | perform o k =>
      have hmoved : P.perform H i =
          ⟨Function.update P.progs i (k (H i o P.world).1), (H i o P.world).2⟩ := by
        unfold Pool.perform
        rw [hp]
      have hstep : PoolStep D P (i, ⟨o, (H i o P.world).1⟩) (P.perform H i) := by
        rw [hmoved]
        exact .step hp (hH i o P.world)
      exact ⟨_, .head hstep hrun⟩

/-- Process `i` meets its guarantees for as long as the others change the world by `R i`. -/
def PoolSafe (D G : ι → Device S W) (R : ι → W → W → Prop) (Q : ι → α → W → Prop)
    (P : Pool S ι α W) : Prop :=
  ∀ i w, R i P.world w → wp ((D i).under (R i)) (fun o _ r w' => ∃ w₁, D i o w₁ r w' ∧ G i o w₁ r w')
    (P.progs i) w (Q i)

end Effects
