import Mathlib.Logic.Relation
import Mathlib.Data.List.Basic

/-! # Programs over an interface of operations

A program is a finite tree: it returns, or it performs one operation and goes on with the reply.
The worlds the operations act on, and which replies they may give, are left to a device. -/

namespace Effects

universe u v

structure Interface where
  Op : Type u
  Reply : Op → Type u

inductive Prog (S : Interface.{u}) (α : Type u) : Type u
  | pure (a : α) : Prog S α
  | perform (o : S.Op) (k : S.Reply o → Prog S α) : Prog S α

namespace Prog

variable {S : Interface.{u}} {α β γ : Type u}

def bind : Prog S α → (α → Prog S β) → Prog S β
  | .pure a, f => f a
  | .perform o k, f => .perform o (fun r => (k r).bind f)

def call (o : S.Op) : Prog S (S.Reply o) :=
  .perform o .pure

instance : Monad (Prog S) where
  pure := Prog.pure
  bind := Prog.bind

@[simp] theorem pure_eq (a : α) : (Pure.pure a : Prog S α) = .pure a := rfl

@[simp] theorem pure_bind' (a : α) (f : α → Prog S β) : (Prog.pure a >>= f) = f a := rfl

@[simp] theorem perform_bind (o : S.Op) (k : S.Reply o → Prog S α) (f : α → Prog S β) :
    (Prog.perform o k >>= f) = .perform o (fun r => k r >>= f) := rfl

@[simp] theorem call_bind (o : S.Op) (f : S.Reply o → Prog S β) :
    (call o >>= f) = .perform o f := rfl

theorem bind_pure' (p : Prog S α) : (p >>= Prog.pure) = p := by
  induction p with
  | pure a => rfl
  | perform o k ih =>
    rw [perform_bind]
    congr 1
    funext r
    exact ih r

theorem bind_assoc' (p : Prog S α) (f : α → Prog S β) (g : β → Prog S γ) :
    ((p >>= f) >>= g) = (p >>= fun a => f a >>= g) := by
  induction p with
  | pure a => rfl
  | perform o k ih =>
    rw [perform_bind, perform_bind, perform_bind]
    congr 1
    funext r
    exact ih r

instance : LawfulMonad (Prog S) :=
  LawfulMonad.mk' (Prog S) (fun p => bind_pure' p) (fun _ _ => rfl) bind_assoc'

end Prog

/-- What one operation may reply, and the world it may leave. -/
abbrev Device (S : Interface.{u}) (W : Type v) :=
  (o : S.Op) → W → S.Reply o → W → Prop

/-- A handler answers every operation with one reply: it runs a program as a function. -/
abbrev Handler (S : Interface.{u}) (W : Type v) :=
  (o : S.Op) → W → S.Reply o × W

abbrev Occurrence (S : Interface.{u}) := (o : S.Op) × S.Reply o

variable {S : Interface.{u}} {W : Type v} {α β : Type u}

/-- The device whose world others may change, as far as `R` allows, before each operation. -/
def Device.under (R : W → W → Prop) (D : Device S W) : Device S W :=
  fun o w r w' => ∃ w₁, R w w₁ ∧ D o w₁ r w'

/-- Every answer of `D` is one of `D'`. -/
def Device.Within (D D' : Device S W) : Prop :=
  ∀ o w r w', D o w r w' → D' o w r w'

def Handler.Refines (H : Handler S W) (D : Device S W) : Prop :=
  ∀ o w, D o w (H o w).1 (H o w).2

theorem Handler.Refines.under {H : Handler S W} {D : Device S W} {R : W → W → Prop}
    (h : H.Refines D) (hR : ∀ w, R w w) : H.Refines (D.under R) :=
  fun o w => ⟨w, hR w, h o w⟩

def run (H : Handler S W) : Prog S α → W → α × W
  | .pure a, w => (a, w)
  | .perform o k, w => run H (k (H o w).1) (H o w).2

@[simp] theorem run_pure (H : Handler S W) (a : α) (w : W) :
    run H (.pure a) w = (a, w) := rfl

@[simp] theorem run_perform (H : Handler S W) (o : S.Op) (k : S.Reply o → Prog S α) (w : W) :
    run H (.perform o k) w = run H (k (H o w).1) (H o w).2 := rfl

theorem run_bind (H : Handler S W) (p : Prog S α) (f : α → Prog S β) (w : W) :
    run H (p >>= f) w = run H (f (run H p w).1) (run H p w).2 := by
  induction p generalizing w with
  | pure a => rfl
  | perform o k ih => exact ih (H o w).1 (H o w).2

/-- A possibly unfinished run: `q` is what is left of the program after the occurrences. -/
inductive Steps (D : Device S W) : Prog S α → W → List (Occurrence S) → Prog S α → W → Prop
  | refl (p : Prog S α) (w : W) : Steps D p w [] p w
  | head {o : S.Op} {k : S.Reply o → Prog S α} {w w' w'' : W} {r : S.Reply o}
      {tr : List (Occurrence S)} {q : Prog S α} :
      D o w r w' → Steps D (k r) w' tr q w'' → Steps D (.perform o k) w (⟨o, r⟩ :: tr) q w''

/-- A finished run. -/
def Exec (D : Device S W) (p : Prog S α) (w : W) (a : α) (w' : W) : Prop :=
  ∃ tr, Steps D p w tr (.pure a) w'

theorem steps_pure_iff {D : Device S W} {a : α} {w w' : W} {tr : List (Occurrence S)}
    {q : Prog S α} : Steps D (.pure a) w tr q w' ↔ tr = [] ∧ q = .pure a ∧ w' = w := by
  constructor
  · intro h
    cases h
    exact ⟨rfl, rfl, rfl⟩
  · rintro ⟨rfl, rfl, rfl⟩
    exact .refl _ _

theorem steps_perform_iff {D : Device S W} {o : S.Op} {k : S.Reply o → Prog S α} {w w'' : W}
    {tr : List (Occurrence S)} {q : Prog S α} :
    Steps D (.perform o k) w tr q w'' ↔ (tr = [] ∧ q = .perform o k ∧ w'' = w) ∨
      ∃ r w' tr', tr = ⟨o, r⟩ :: tr' ∧ D o w r w' ∧ Steps D (k r) w' tr' q w'' := by
  constructor
  · intro h
    cases h with
    | refl => exact .inl ⟨rfl, rfl, rfl⟩
    | head hd hs => exact .inr ⟨_, _, _, rfl, hd, hs⟩
  · rintro (⟨rfl, rfl, rfl⟩ | ⟨r, w', tr', rfl, hd, hs⟩)
    · exact .refl _ _
    · exact .head hd hs

theorem steps_trans {D : Device S W} {p q s : Prog S α} {w w' w'' : W}
    {tr tr' : List (Occurrence S)} (h : Steps D p w tr q w') (h' : Steps D q w' tr' s w'') :
    Steps D p w (tr ++ tr') s w'' := by
  induction h with
  | refl => exact h'
  | head hd _ ih => exact .head hd (ih h')

/-- A run of a sequence is a run of its first part, or a finished run of the first part
followed by a run of the second. -/
theorem steps_bind_iff {D : Device S W} {p : Prog S α} {f : α → Prog S β} {w w' : W}
    {tr : List (Occurrence S)} {q : Prog S β} :
    Steps D (p >>= f) w tr q w' ↔
      (∃ p', q = (p' >>= f) ∧ Steps D p w tr p' w') ∨
      ∃ a w₁ tr₁ tr₂, tr = tr₁ ++ tr₂ ∧ Steps D p w tr₁ (.pure a) w₁ ∧
        Steps D (f a) w₁ tr₂ q w' := by
  induction p generalizing w tr with
  | pure a =>
    constructor
    · intro h
      exact .inr ⟨a, w, [], tr, rfl, .refl _ _, h⟩
    · rintro (⟨p', rfl, h⟩ | ⟨a', w₁, tr₁, tr₂, rfl, h, h'⟩)
      · obtain ⟨rfl, rfl, rfl⟩ := steps_pure_iff.mp h
        exact .refl _ _
      · obtain ⟨rfl, ha, rfl⟩ := steps_pure_iff.mp h
        cases ha
        exact h'
  | perform o k ih =>
    rw [Prog.perform_bind, steps_perform_iff]
    constructor
    · rintro (⟨rfl, rfl, rfl⟩ | ⟨r, w', tr', rfl, hd, hs⟩)
      · exact .inl ⟨.perform o k, rfl, .refl _ _⟩
      · rcases (ih r).mp hs with ⟨p', rfl, h⟩ | ⟨a, w₁, tr₁, tr₂, rfl, h, h'⟩
        · exact .inl ⟨p', rfl, .head hd h⟩
        · exact .inr ⟨a, w₁, _ :: tr₁, tr₂, rfl, .head hd h, h'⟩
    · rintro (⟨p', rfl, h⟩ | ⟨a, w₁, tr₁, tr₂, rfl, h, h'⟩)
      · rcases steps_perform_iff.mp h with ⟨rfl, rfl, rfl⟩ | ⟨r, w', tr', rfl, hd, hs⟩
        · exact .inl ⟨rfl, rfl, rfl⟩
        · exact .inr ⟨r, w', tr', rfl, hd, (ih r).mpr (.inl ⟨p', rfl, hs⟩)⟩
      · rcases steps_perform_iff.mp h with ⟨_, h0, _⟩ | ⟨r, w', tr', rfl, hd, hs⟩
        · cases h0
        · exact .inr ⟨r, w', tr' ++ tr₂, rfl, hd,
            (ih r).mpr (.inr ⟨a, w₁, tr', tr₂, rfl, hs, h'⟩)⟩

theorem exec_of_run {H : Handler S W} {D : Device S W} (hH : H.Refines D) (p : Prog S α)
    (w : W) : Exec D p w (run H p w).1 (run H p w).2 := by
  induction p generalizing w with
  | pure a => exact ⟨[], .refl _ _⟩
  | perform o k ih =>
    obtain ⟨tr, h⟩ := ih (H o w).1 (H o w).2
    exact ⟨_, .head (hH o w) h⟩

/-- What happens in the run that a handler makes of a program. -/
def trace (H : Handler S W) : Prog S α → W → List (Occurrence S)
  | .pure _, _ => []
  | .perform o k, w => ⟨o, (H o w).1⟩ :: trace H (k (H o w).1) (H o w).2

theorem steps_trace {H : Handler S W} {D : Device S W} (hH : H.Refines D) (p : Prog S α) (w : W) :
    Steps D p w (trace H p w) (.pure (run H p w).1) (run H p w).2 := by
  induction p generalizing w with
  | pure a => exact .refl _ _
  | perform o k ih => exact .head (hH o w) (ih _ _)

theorem exec_of_run_eq {H : Handler S W} {D : Device S W} (hH : H.Refines D) {p : Prog S α}
    {w : W} {x : α × W} (hx : run H p w = x) : Exec D p w x.1 x.2 := by
  rw [← hx]
  exact exec_of_run hH p w

theorem exec_pure_iff {D : Device S W} {a b : α} {w w' : W} :
    Exec D (.pure a) w b w' ↔ b = a ∧ w' = w := by
  constructor
  · rintro ⟨tr, h⟩
    obtain ⟨-, hb, rfl⟩ := steps_pure_iff.mp h
    cases hb
    exact ⟨rfl, rfl⟩
  · rintro ⟨rfl, rfl⟩
    exact ⟨[], .refl _ _⟩

theorem exec_perform_iff {D : Device S W} {o : S.Op} {k : S.Reply o → Prog S α} {w w'' : W}
    {a : α} : Exec D (.perform o k) w a w'' ↔ ∃ r w', D o w r w' ∧ Exec D (k r) w' a w'' := by
  constructor
  · rintro ⟨tr, h⟩
    rcases steps_perform_iff.mp h with ⟨-, h0, -⟩ | ⟨r, w', tr', rfl, hd, hs⟩
    · cases h0
    · exact ⟨r, w', hd, tr', hs⟩
  · rintro ⟨r, w', hd, tr, hs⟩
    exact ⟨_, .head hd hs⟩

/-- A run on a smaller device is a run on the larger one. -/
theorem exec_within {D D' : Device S W} (hD : D.Within D') {p : Prog S α} {w w' : W} {a : α}
    (he : Exec D p w a w') : Exec D' p w a w' := by
  induction p generalizing w with
  | pure b => exact exec_pure_iff.mpr (exec_pure_iff.mp he)
  | perform o k ih =>
    obtain ⟨r, w₁, hd, hk⟩ := exec_perform_iff.mp he
    exact exec_perform_iff.mpr ⟨r, w₁, hD o w r w₁ hd, ih r hk⟩

theorem exec_bind_iff {D : Device S W} {p : Prog S α} {f : α → Prog S β} {w w'' : W} {b : β} :
    Exec D (p >>= f) w b w'' ↔ ∃ a w', Exec D p w a w' ∧ Exec D (f a) w' b w'' := by
  induction p generalizing w with
  | pure a =>
    constructor
    · intro h
      exact ⟨a, w, ⟨[], .refl _ _⟩, h⟩
    · rintro ⟨a', w', h, h'⟩
      obtain ⟨rfl, rfl⟩ := exec_pure_iff.mp h
      exact h'
  | perform o k ih =>
    rw [Prog.perform_bind, exec_perform_iff]
    constructor
    · rintro ⟨r, w', hd, h⟩
      obtain ⟨a, w₁, h₁, h₂⟩ := (ih r).mp h
      exact ⟨a, w₁, exec_perform_iff.mpr ⟨r, w', hd, h₁⟩, h₂⟩
    · rintro ⟨a, w₁, h₁, h₂⟩
      obtain ⟨r, w', hd, h⟩ := exec_perform_iff.mp h₁
      exact ⟨r, w', hd, (ih r).mpr ⟨a, w₁, h, h₂⟩⟩

/-! ## Programs over two interfaces -/

abbrev Interface.sum (S T : Interface.{u}) : Interface.{u} := ⟨S.Op ⊕ T.Op, Sum.elim S.Reply T.Reply⟩

/-- A program over one interface, performed over two. -/
def Prog.left (T : Interface.{u}) : Prog S α → Prog (S.sum T) α
  | .pure a => .pure a
  | .perform o k => .perform (S := S.sum T) (.inl o) (fun r => (k r).left T)

end Effects
