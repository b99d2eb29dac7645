import Sessiometer.Effects.Pool
import Sessiometer.Effects.Runs

/-! # Programs as automata

An automaton says of each of its states which operation comes next, and which state each reply leads
to. A program that goes through such states is followed by the automaton in all of its runs, alone or
in a pool, so that an invariant of the automaton is one of the program. -/

namespace Effects

universe u v w'

structure Automaton (S : Interface.{u}) (φ : Type v) (α : Type u) where
  next : φ → S.Op ⊕ α
  after : φ → (o : S.Op) → S.Reply o → φ

variable {S : Interface.{u}} {W : Type v} {φ : Type v} {α : Type u} {A : Automaton S φ α}

/-- The program performs what the automaton says from the state `x` on. -/
def Embodies (A : Automaton S φ α) : Prog S α → φ → Prop
  | .pure a, x => A.next x = .inr a
  | .perform o k, x => A.next x = .inl o ∧ ∀ r, Embodies A (k r) (A.after x o r)

theorem embodies_pure {a : α} {x : φ} (h : A.next x = .inr a) : Embodies A (.pure a) x := h

theorem embodies_perform {o : S.Op} {k : S.Reply o → Prog S α} {x : φ} (hn : A.next x = .inl o)
    (h : ∀ r, Embodies A (k r) (A.after x o r)) : Embodies A (.perform o k) x :=
  ⟨hn, h⟩

theorem Embodies.returned {a : α} {x : φ} (h : Embodies A (.pure a) x) : A.next x = .inr a := h

theorem Embodies.performs {o : S.Op} {k : S.Reply o → Prog S α} {x : φ}
    (h : Embodies A (.perform o k) x) : A.next x = .inl o := h.1

/-- One operation of the automaton. -/
def AutomatonStep (A : Automaton S φ α) (D : Device S W) :
    φ × W → Occurrence S → φ × W → Prop :=
  fun s l s' => A.next s.1 = .inl l.1 ∧ D l.1 s.2 l.2 s'.2 ∧ s'.1 = A.after s.1 l.1 l.2

/-- Every run of a program is one of the automaton that it embodies. -/
theorem Embodies.runs {D : Device S W} {p q : Prog S α} {x : φ} {w w' : W}
    {tr : List (Occurrence S)} (h : Embodies A p x) (hs : Steps D p w tr q w') :
    ∃ y, Runs (AutomatonStep A D) (x, w) tr (y, w') ∧ Embodies A q y := by
  induction hs generalizing x with
  | refl => exact ⟨x, .refl, h⟩
  | @head o k w w₁ w₂ r tr q hd _ ih =>
    obtain ⟨y, hrun, hy⟩ := ih (h.2 r)
    exact ⟨y, runs_cons_iff.mpr ⟨_, ⟨h.1, hd, rfl⟩, hrun⟩, hy⟩

section Pools

variable {ι : Type w'} [DecidableEq ι]

/-- One operation of a pool is one of the automaton of the process that performs it. -/
theorem PoolStep.automata {A : ι → Automaton S φ α} {D : ι → Device S W} {P P' : Pool S ι α W}
    {x : ι → φ} {l : ι × Occurrence S} (h : ∀ i, Embodies (A i) (P.progs i) (x i))
    (hs : PoolStep D P l P') :
    (A l.1).next (x l.1) = .inl l.2.1 ∧ D l.1 l.2.1 P.world l.2.2 P'.world ∧
      ∀ i, Embodies (A i) (P'.progs i)
        (Function.update x l.1 ((A l.1).after (x l.1) l.2.1 l.2.2) i) := by
  cases hs with
  | @step i o k r w' hp hd =>
    have hi := h i
    rw [hp] at hi
    refine ⟨hi.1, hd, ?_⟩
    intro j
    change Embodies (A j) (Function.update P.progs i (k r) j)
      (Function.update x i ((A i).after (x i) o r) j)
    by_cases hj : j = i
    · subst hj
      rw [Function.update_self, Function.update_self]
      exact hi.2 r
    · rw [Function.update_of_ne hj, Function.update_of_ne hj]
      exact h j

end Pools

end Effects
