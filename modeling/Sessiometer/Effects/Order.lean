import Sessiometer.Effects.Rules

/-! # What comes before what in a run -/

namespace Effects

universe u v

variable {S : Interface.{u}} {W : Type v} {α β : Type u} {D G : Device S W}
variable {φ ψ : Occurrence S → Prop}

/-- Before each occurrence of `ψ` in the list there is one of `φ`. -/
def Preceded (φ ψ : Occurrence S → Prop) (tr : List (Occurrence S)) : Prop :=
  ∀ tr₁ x tr₂, tr = tr₁ ++ x :: tr₂ → ψ x → ∃ y ∈ tr₁, φ y

theorem preceded_of_none {tr : List (Occurrence S)} (h : ∀ x ∈ tr, ¬ψ x) : Preceded φ ψ tr := by
  intro tr₁ x tr₂ htr hx
  exact absurd hx (h x (by simp [htr]))

theorem preceded_cons {x : Occurrence S} {tr : List (Occurrence S)} (hx : ¬ψ x)
    (h : φ x ∨ Preceded φ ψ tr) : Preceded φ ψ (x :: tr) := by
  intro tr₁ y tr₂ htr hy
  cases tr₁ with
  | nil =>
    rw [List.nil_append, List.cons.injEq] at htr
    rw [htr.1] at hx
    exact absurd hy hx
  | cons z tr₁ =>
    rw [List.cons_append, List.cons.injEq] at htr
    rcases h with hφ | h
    · exact ⟨z, by simp, htr.1 ▸ hφ⟩
    · obtain ⟨y', hy', hφ⟩ := h tr₁ y tr₂ htr.2 hy
      exact ⟨y', List.mem_cons_of_mem z hy', hφ⟩

/-- Preceding nothing to the right by nothing to the left: a quiet prefix may be put in front. -/
theorem preceded_append {tr tr' : List (Occurrence S)} (h : ∀ x ∈ tr, ¬ψ x)
    (h' : Preceded φ ψ tr') : Preceded φ ψ (tr ++ tr') := by
  induction tr with
  | nil => exact h'
  | cons x tr ih =>
    have htail := ih (fun y hy => h y (List.mem_cons_of_mem x hy))
    exact preceded_cons (h x (List.mem_cons_self ..)) (.inr htail)

/-- In no run of the program does `ψ` occur before `φ` has. -/
def Awaits (D : Device S W) (φ ψ : Occurrence S → Prop) : Prog S α → W → Prop
  | .pure _, _ => True
  | .perform o k, w => ∀ r w', D o w r w' → ¬ψ ⟨o, r⟩ ∧ (φ ⟨o, r⟩ ∨ Awaits D φ ψ (k r) w')

theorem Awaits.steps {p q : Prog S α} {w w' : W} {tr : List (Occurrence S)}
    (h : Awaits D φ ψ p w) (hs : Steps D p w tr q w') : Preceded φ ψ tr := by
  induction hs with
  | refl => exact preceded_of_none (by simp)
  | head hd _ ih =>
    obtain ⟨hψ, hφ⟩ := h _ _ hd
    exact preceded_cons hψ (hφ.imp_right ih)

theorem awaits_of_wp {p : Prog S α} {w : W} {Q : α → W → Prop}
    (h : wp D (fun o _ r _ => ¬ψ ⟨o, r⟩) p w Q) : Awaits D φ ψ p w := by
  induction p generalizing w with
  | pure a => trivial
  | perform o k ih => exact fun r w' hd => ⟨(h r w' hd).1, .inr (ih r (h r w' hd).2)⟩

theorem awaits_of_only {p : Prog S α} (h : Only (fun o => ∀ r, ¬ψ ⟨o, r⟩) p) (w : W) :
    Awaits D φ ψ p w := by
  induction p generalizing w with
  | pure a => trivial
  | perform o k ih => exact fun r w' _ => ⟨h.1 r, .inr (ih r (h.2 r) w')⟩

/-- The first part performs no `ψ`, and the second awaits `φ` wherever it starts. -/
theorem awaits_bind {p : Prog S α} {f : α → Prog S β} {w : W}
    (h : wp D (fun o _ r _ => ¬ψ ⟨o, r⟩) p w (fun a w' => Awaits D φ ψ (f a) w')) :
    Awaits D φ ψ (p >>= f) w := by
  induction p generalizing w with
  | pure a => exact h
  | perform o k ih => exact fun r w' hd => ⟨(h r w' hd).1, .inr (ih r (h r w' hd).2)⟩

/-- What follows a program that awaits `φ` must await it too: the program may not have met it. -/
theorem Awaits.bind {p : Prog S α} {f : α → Prog S β} {w : W} (h : Awaits D φ ψ p w)
    (hf : ∀ a w', Awaits D φ ψ (f a) w') : Awaits D φ ψ (p >>= f) w := by
  induction p generalizing w with
  | pure a => exact hf a w
  | perform o k ih =>
    intro r w' hd
    obtain ⟨hψ, hφ⟩ := h r w' hd
    exact ⟨hψ, hφ.imp_right (ih r)⟩

section Failure

variable {ε : Type u}

theorem awaits_except_bind {p : ExceptT ε (Prog S) α} {f : α → ExceptT ε (Prog S) β} {w : W}
    (h : wp D (fun o _ r _ => ¬ψ ⟨o, r⟩) p.run w
      (fun r w' => ∀ a, r = .ok a → Awaits D φ ψ (f a).run w')) :
    Awaits D φ ψ (p >>= f).run w := by
  rw [ExceptT.run_bind]
  refine awaits_bind (wp_mono h ?_)
  intro r w' hr
  cases r with
  | error e => trivial
  | ok a => exact hr a rfl

theorem Awaits.except_bind {p : ExceptT ε (Prog S) α} {f : α → ExceptT ε (Prog S) β} {w : W}
    (h : Awaits D φ ψ p.run w) (hf : ∀ a w', Awaits D φ ψ (f a).run w') :
    Awaits D φ ψ (p >>= f).run w := by
  rw [ExceptT.run_bind]
  refine h.bind ?_
  intro r w'
  cases r with
  | error e => trivial
  | ok a => exact hf a w'

theorem Awaits.lift {p : Prog S α} {w : W} (h : Awaits D φ ψ p w) :
    Awaits D φ ψ (ExceptT.lift p : ExceptT ε (Prog S) α).run w := by
  rw [ExceptT.run_lift, map_eq_pure_bind]
  exact h.bind (fun _ _ => trivial)

end Failure

/-- The device, as far as what it replies is what `φ` admits. -/
def Device.telling (φ : Occurrence S → Prop) (D : Device S W) : Device S W :=
  fun o w r w' => D o w r w' ∧ φ ⟨o, r⟩

theorem steps_telling {p q : Prog S α} {w w' : W} {tr : List (Occurrence S)}
    (hs : Steps D p w tr q w') (h : ∀ x ∈ tr, φ x) : Steps (D.telling φ) p w tr q w' := by
  induction hs with
  | refl => exact .refl _ _
  | head hd _ ih =>
    have hx := h _ (List.mem_cons_self ..)
    exact .head ⟨hd, hx⟩ (ih (fun x hx => h x (List.mem_cons_of_mem _ hx)))

end Effects
