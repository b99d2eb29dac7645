import Mathlib.Algebra.Order.Field.Basic
import Mathlib.Data.List.Induction
import Mathlib.Tactic.Linarith
import Mathlib.Tactic.Ring

/-! # Exponential averages

The average of a list of samples that weighs each new one by `α` against all before it. -/

namespace Pacing

section Blend

variable {K : Type*} [Field K]

def blend (α : K) (average : Option K) (x : K) : K :=
  match average with
  | some a => α * x + (1 - α) * a
  | none => x

def average (α : K) (samples : List K) : Option K :=
  samples.foldl (fun a x => some (blend α a x)) none

variable {α : K} {samples : List K}

@[simp] theorem average_nil : average α [] = none := rfl

@[simp] theorem average_snoc (x : K) :
    average α (samples ++ [x]) = some (blend α (average α samples) x) := by
  simp [average]

theorem average_eq_none : average α samples = none ↔ samples = [] := by
  induction samples using List.reverseRecOn with
  | nil => simp
  | append_singleton samples x _ => simp

theorem average_neg : average α (samples.map (-·)) = (average α samples).map (-·) := by
  induction samples using List.reverseRecOn with
  | nil => rfl
  | append_singleton samples x ih =>
    rw [List.map_append, List.map_singleton, average_snoc, average_snoc, ih]
    cases average α samples with
    | none => rfl
    | some a =>
      simp only [Option.map_some, blend]
      congr 1
      ring

end Blend

section Bounds

variable {K : Type*} [Field K] [LinearOrder K] [IsStrictOrderedRing K]
variable {α a bound : K} {samples : List K}

theorem blend_le (h₀ : 0 ≤ α) (h₁ : α ≤ 1) {x : K} (hx : x ≤ bound)
    (ha : ∀ a, average α samples = some a → a ≤ bound) :
    blend α (average α samples) x ≤ bound := by
  unfold blend
  cases h : average α samples with
  | none => exact hx
  | some a =>
    have hold : (1 - α) * a ≤ (1 - α) * bound := mul_le_mul_of_nonneg_left (ha a h) (by linarith)
    have hnew : α * x ≤ α * bound := mul_le_mul_of_nonneg_left hx h₀
    have hsum : α * bound + (1 - α) * bound = bound := by ring
    linarith

/-- An average is no greater than what bounds all its samples. -/
theorem average_le (h₀ : 0 ≤ α) (h₁ : α ≤ 1) (h : ∀ x ∈ samples, x ≤ bound)
    (ha : average α samples = some a) : a ≤ bound := by
  induction samples using List.reverseRecOn generalizing a with
  | nil => simp at ha
  | append_singleton samples x ih =>
    rw [average_snoc] at ha
    rw [← Option.some.inj ha]
    refine blend_le h₀ h₁ (h x (by simp)) ?_
    intro a' ha'
    exact ih (fun y hy => h y (by simp [hy])) ha'

theorem le_average (h₀ : 0 ≤ α) (h₁ : α ≤ 1) (h : ∀ x ∈ samples, bound ≤ x)
    (ha : average α samples = some a) : bound ≤ a := by
  have hneg : average α (samples.map (-·)) = some (-a) := by rw [average_neg, ha, Option.map_some]
  have hle : -a ≤ -bound := by
    refine average_le h₀ h₁ ?_ hneg
    intro y hy
    obtain ⟨x, hx, rfl⟩ := List.mem_map.mp hy
    exact neg_le_neg (h x hx)
  exact neg_le_neg_iff.mp hle

/-- Some sample is as great as the average. -/
theorem exists_average_le (h₀ : 0 ≤ α) (h₁ : α ≤ 1) (ha : average α samples = some a) :
    ∃ x ∈ samples, a ≤ x := by
  induction samples using List.reverseRecOn generalizing a with
  | nil => simp at ha
  | append_singleton samples x ih =>
    rw [average_snoc] at ha
    rw [← Option.some.inj ha]
    have hlast : x ∈ samples ++ [x] := by simp
    cases hbefore : average α samples with
    | none => exact ⟨x, hlast, le_refl x⟩
    | some b =>
      obtain ⟨y, hy, hby⟩ := ih hbefore
      by_cases hbx : b ≤ x
      · refine ⟨x, hlast, ?_⟩
        rw [← hbefore]
        refine blend_le h₀ h₁ (le_refl x) ?_
        intro b' hb'
        rw [hbefore] at hb'
        rw [← Option.some.inj hb']
        exact hbx
      · refine ⟨y, by simp [hy], le_trans ?_ hby⟩
        rw [← hbefore]
        refine blend_le h₀ h₁ (le_of_not_ge hbx) ?_
        intro b' hb'
        rw [hbefore] at hb'
        rw [← Option.some.inj hb']

end Bounds

end Pacing
