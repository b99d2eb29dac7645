import Mathlib.Data.List.Induction

/-! # Runs of labelled steps -/

namespace Effects

universe u v

variable {σ : Type u} {ℓ : Type v}

/-- A run: its labels in order, and the state after the last of them. -/
inductive Runs (step : σ → ℓ → σ → Prop) (s : σ) : List ℓ → σ → Prop
  | refl : Runs step s [] s
  | snoc {tr : List ℓ} {s' s'' : σ} {l : ℓ} :
      Runs step s tr s' → step s' l s'' → Runs step s (tr ++ [l]) s''

variable {step : σ → ℓ → σ → Prop} {s s' : σ} {tr : List ℓ}

theorem runs_single {l : ℓ} (h : step s l s') : Runs step s [l] s' :=
  .snoc .refl h

theorem runs_snoc_iff {l : ℓ} {s'' : σ} :
    Runs step s (tr ++ [l]) s'' ↔ ∃ s', Runs step s tr s' ∧ step s' l s'' := by
  constructor
  · intro h
    generalize hl : tr ++ [l] = labels at h
    cases h with
    | refl => simp at hl
    | snoc hr hs =>
      obtain ⟨rfl, hlast⟩ := List.append_inj' hl rfl
      cases hlast
      exact ⟨_, hr, hs⟩
  · rintro ⟨s', hr, hs⟩
    exact .snoc hr hs

theorem runs_nil_iff : Runs step s [] s' ↔ s' = s := by
  constructor
  · intro h
    generalize hl : ([] : List ℓ) = labels at h
    cases h with
    | refl => rfl
    | snoc hr hs => simp at hl
  · rintro rfl
    exact .refl

/-- A run splits wherever its labels do. -/
theorem runs_append_iff {tr' : List ℓ} {s'' : σ} :
    Runs step s (tr ++ tr') s'' ↔ ∃ s', Runs step s tr s' ∧ Runs step s' tr' s'' := by
  induction tr' using List.reverseRecOn generalizing s'' with
  | nil =>
    rw [List.append_nil]
    constructor
    · intro h
      exact ⟨s'', h, .refl⟩
    · rintro ⟨s', h, h'⟩
      rw [runs_nil_iff.mp h']
      exact h
  | append_singleton tr' l ih =>
    rw [← List.append_assoc, runs_snoc_iff]
    constructor
    · rintro ⟨s₁, h, hs⟩
      obtain ⟨s', h₁, h₂⟩ := ih.mp h
      exact ⟨s', h₁, .snoc h₂ hs⟩
    · rintro ⟨s', h₁, h₂⟩
      obtain ⟨s₁, h₂, hs⟩ := runs_snoc_iff.mp h₂
      exact ⟨s₁, ih.mpr ⟨s', h₁, h₂⟩, hs⟩

theorem runs_cons_iff {l : ℓ} {s'' : σ} :
    Runs step s (l :: tr) s'' ↔ ∃ s', step s l s' ∧ Runs step s' tr s'' := by
  rw [← List.singleton_append, runs_append_iff]
  constructor
  · rintro ⟨s', h, h'⟩
    obtain ⟨s₁, hnil, hs⟩ := runs_snoc_iff.mp ((List.nil_append [l]).symm ▸ h)
    rw [runs_nil_iff.mp hnil] at hs
    exact ⟨s', hs, h'⟩
  · rintro ⟨s', hs, h'⟩
    exact ⟨s', runs_single hs, h'⟩

/-- The invariant rule: what holds of the empty run and is kept by each step holds of every run. -/
theorem Runs.invariant {I : List ℓ → σ → Prop} (hr : Runs step s tr s') (h0 : I [] s)
    (hstep : ∀ tr s' l s'', I tr s' → step s' l s'' → I (tr ++ [l]) s'') : I tr s' := by
  induction hr with
  | refl => exact h0
  | snoc _ hs ih => exact hstep _ _ _ _ ih hs

/-- What every step keeps of the states, every run keeps. -/
theorem Runs.state_invariant {I : σ → Prop} (hr : Runs step s tr s') (h0 : I s)
    (hstep : ∀ s' l s'', I s' → step s' l s'' → I s'') : I s' :=
  hr.invariant (I := fun _ s => I s) h0 (fun _ s' l s'' => hstep s' l s'')

/-- What holds of the label of each step holds of every label of a run. -/
theorem Runs.labels {P : ℓ → Prop} (hr : Runs step s tr s')
    (hstep : ∀ s' l s'', step s' l s'' → P l) : ∀ l ∈ tr, P l := by
  apply hr.invariant (I := fun tr _ => ∀ l ∈ tr, P l)
  · simp
  · intro tr s' l s'' ih hs l' hl'
    rcases List.mem_append.mp hl' with h | h
    · exact ih l' h
    · rw [List.mem_singleton.mp h]
      exact hstep s' l s'' hs

end Effects
