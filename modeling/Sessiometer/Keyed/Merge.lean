import Mathlib.Data.List.Basic

/-! # Merging two lists

What the two-pointer merge makes of two lists that need not be in order. -/

namespace Keyed

universe u

variable {α : Type u}

/-- The third list holds the elements of the first two, each list's in its own order. -/
inductive Interleaves : List α → List α → List α → Prop
  | nil : Interleaves [] [] []
  | left {x : α} {xs ys zs : List α} : Interleaves xs ys zs → Interleaves (x :: xs) ys (x :: zs)
  | right {y : α} {xs ys zs : List α} : Interleaves xs ys zs → Interleaves xs (y :: ys) (y :: zs)

section Interleaves

variable {xs ys zs : List α}

theorem Interleaves.of_left (xs : List α) : Interleaves xs [] xs := by
  induction xs with
  | nil => exact .nil
  | cons x xs ih => exact .left ih

theorem Interleaves.of_right (ys : List α) : Interleaves [] ys ys := by
  induction ys with
  | nil => exact .nil
  | cons y ys ih => exact .right ih

theorem Interleaves.perm (h : Interleaves xs ys zs) : zs.Perm (xs ++ ys) := by
  induction h with
  | nil => exact .nil
  | left _ ih => exact ih.cons _
  | right _ ih => exact (ih.cons _).trans List.perm_middle.symm

theorem Interleaves.sublist_left (h : Interleaves xs ys zs) : xs.Sublist zs := by
  induction h with
  | nil => exact .slnil
  | left _ ih => exact ih.cons_cons _
  | right _ ih => exact ih.cons _

theorem Interleaves.sublist_right (h : Interleaves xs ys zs) : ys.Sublist zs := by
  induction h with
  | nil => exact .slnil
  | left _ ih => exact ih.cons _
  | right _ ih => exact ih.cons_cons _

theorem Interleaves.split_right {ys₁ ys₂ : List α} (h : Interleaves xs (ys₁ ++ ys₂) zs) :
    ∃ xs₁ xs₂ zs₁ zs₂, xs = xs₁ ++ xs₂ ∧ zs = zs₁ ++ zs₂ ∧
      Interleaves xs₁ ys₁ zs₁ ∧ Interleaves xs₂ ys₂ zs₂ := by
  generalize hys : ys₁ ++ ys₂ = ys at h
  induction h generalizing ys₁ with
  | nil =>
    obtain ⟨rfl, rfl⟩ := List.append_eq_nil_iff.mp hys
    exact ⟨[], [], [], [], rfl, rfl, .nil, .nil⟩
  | @left x xs ys zs _ ih =>
    obtain ⟨xs₁, xs₂, zs₁, zs₂, hxs, hzs, h₁, h₂⟩ := ih hys
    exact ⟨x :: xs₁, xs₂, x :: zs₁, zs₂, by rw [hxs]; rfl, by rw [hzs]; rfl, .left h₁, h₂⟩
  | @right y xs ys zs h ih =>
    cases ys₁ with
    | nil =>
      rw [List.nil_append] at hys
      exact ⟨[], xs, [], y :: zs, rfl, rfl, .nil, hys ▸ .right h⟩
    | cons z ys₁ =>
      rw [List.cons_append, List.cons.injEq] at hys
      obtain ⟨xs₁, xs₂, zs₁, zs₂, hxs, hzs, h₁, h₂⟩ := ih hys.2
      exact ⟨xs₁, xs₂, y :: zs₁, zs₂, hxs, by rw [hzs]; rfl, hys.1 ▸ .right h₁, h₂⟩

end Interleaves

section Merge

variable {le : α → α → Bool} {xs ys : List α}

theorem merge_interleaves (le : α → α → Bool) (xs ys : List α) :
    Interleaves xs ys (xs.merge ys le) := by
  induction xs generalizing ys with
  | nil =>
    rw [List.nil_merge]
    exact .of_right ys
  | cons x xs ihx =>
    induction ys with
    | nil =>
      rw [List.merge_right]
      exact .of_left _
    | cons y ys ihy =>
      rw [List.cons_merge_cons]
      by_cases h : le x y = true
      · rw [if_pos h]
        exact .left (ihx (y :: ys))
      · rw [if_neg h]
        exact .right ihy

/-- An element of the first list comes before one of the second, unless it or an element before it
in its own list is the greater. -/
theorem merge_left_first {x y : α} {xs₁ xs₂ ys₁ ys₂ : List α} (hxy : le x y = true)
    (hbefore : ∀ x' ∈ xs₁, le x' y = true) :
    ∃ ys₃ ys₄ front back, ys₁ = ys₃ ++ ys₄ ∧
      (xs₁ ++ x :: xs₂).merge (ys₁ ++ y :: ys₂) le = front ++ x :: back ∧
        Interleaves xs₁ ys₃ front ∧ Interleaves xs₂ (ys₄ ++ y :: ys₂) back := by
  induction xs₁ generalizing ys₁ with
  | nil =>
    induction ys₁ with
    | nil =>
      refine ⟨[], [], [], _, rfl, ?_, .nil, merge_interleaves le xs₂ (y :: ys₂)⟩
      rw [List.nil_append, List.nil_append, List.cons_merge_cons, if_pos hxy]
      rfl
    | cons z ys₁ ih =>
      by_cases h : le x z = true
      · refine ⟨[], z :: ys₁, [], _, rfl, ?_, .nil, merge_interleaves le xs₂ _⟩
        rw [List.nil_append, List.cons_append, List.cons_merge_cons, if_pos h]
        rfl
      · obtain ⟨ys₃, ys₄, front, back, hys, hmerge, hfront, hback⟩ := ih
        refine ⟨z :: ys₃, ys₄, z :: front, back, by rw [hys]; rfl, ?_, .right hfront, hback⟩
        rw [List.nil_append] at hmerge
        rw [List.nil_append, List.cons_append, List.cons_merge_cons, if_neg h, hmerge]
        rfl
  | cons x' xs₁ ihx =>
    have hlater : ∀ x'' ∈ xs₁, le x'' y = true := fun x'' h => hbefore x'' (List.mem_cons_of_mem _ h)
    induction ys₁ with
    | nil =>
      obtain ⟨ys₃, ys₄, front, back, hys, hmerge, hfront, hback⟩ := @ihx [] hlater
      refine ⟨ys₃, ys₄, x' :: front, back, hys, ?_, .left hfront, hback⟩
      rw [List.nil_append] at hmerge
      rw [List.cons_append, List.nil_append, List.cons_merge_cons,
        if_pos (hbefore x' (List.mem_cons_self ..)), hmerge]
      rfl
    | cons z ys₁ ih =>
      by_cases h : le x' z = true
      · obtain ⟨ys₃, ys₄, front, back, hys, hmerge, hfront, hback⟩ := @ihx (z :: ys₁) hlater
        refine ⟨ys₃, ys₄, x' :: front, back, hys, ?_, .left hfront, hback⟩
        rw [List.cons_append] at hmerge
        rw [List.cons_append, List.cons_append, List.cons_merge_cons, if_pos h, hmerge]
        rfl
      · obtain ⟨ys₃, ys₄, front, back, hys, hmerge, hfront, hback⟩ := ih
        refine ⟨z :: ys₃, ys₄, z :: front, back, by rw [hys]; rfl, ?_, .right hfront, hback⟩
        rw [List.cons_append] at hmerge
        rw [List.cons_append, List.cons_append, List.cons_merge_cons, if_neg h, hmerge]
        rfl

/-- What ranks with an element that is taken from the second list is taken along with it. -/
theorem merge_run_rest {y : α} {run : List α} (hrun : ∀ y' ∈ run, ∀ x, le x y' = le x y)
    {x : α} (h : le x y = false) (xs ys : List α) :
    (x :: xs).merge (run ++ ys) le = run ++ (x :: xs).merge ys le := by
  induction run with
  | nil => rfl
  | cons y' run ih =>
    have hy' : ¬le x y' = true := by
      rw [hrun y' (List.mem_cons_self ..), h]
      exact Bool.false_ne_true
    rw [List.cons_append, List.cons_merge_cons, if_neg hy',
      ih (fun z hz => hrun z (List.mem_cons_of_mem _ hz))]
    rfl

/-- A run of the second list that ranks with its first element stays together. -/
theorem merge_run {y : α} {run ys₁ ys₂ : List α} (hrun : ∀ y' ∈ run, ∀ x, le x y' = le x y)
    (xs : List α) : ∃ xs₁ xs₂ front back, xs = xs₁ ++ xs₂ ∧
      xs.merge (ys₁ ++ y :: run ++ ys₂) le = front ++ y :: run ++ back ∧
        Interleaves xs₁ ys₁ front ∧ Interleaves xs₂ ys₂ back := by
  induction xs generalizing ys₁ with
  | nil =>
    refine ⟨[], [], ys₁, ys₂, rfl, ?_, .of_right ys₁, .of_right ys₂⟩
    rw [List.nil_merge]
  | cons x xs ihx =>
    induction ys₁ with
    | nil =>
      by_cases h : le x y = true
      · obtain ⟨xs₁, xs₂, front, back, hxs, hmerge, hfront, hback⟩ := @ihx []
        refine ⟨x :: xs₁, xs₂, x :: front, back, by rw [hxs]; rfl, ?_, .left hfront, hback⟩
        rw [List.nil_append, List.cons_append] at hmerge
        rw [List.nil_append, List.cons_append, List.cons_merge_cons, if_pos h, hmerge]
        rfl
      · refine ⟨[], x :: xs, [], (x :: xs).merge ys₂ le, rfl, ?_, .nil, merge_interleaves le _ _⟩
        rw [List.nil_append, List.cons_append, List.cons_merge_cons, if_neg h,
          merge_run_rest hrun (Bool.not_eq_true _ ▸ h)]
        rfl
    | cons z ys₁ ih =>
      by_cases h : le x z = true
      · obtain ⟨xs₁, xs₂, front, back, hxs, hmerge, hfront, hback⟩ := @ihx (z :: ys₁)
        refine ⟨x :: xs₁, xs₂, x :: front, back, by rw [hxs]; rfl, ?_, .left hfront, hback⟩
        rw [List.cons_append, List.cons_append] at hmerge
        rw [List.cons_append, List.cons_append, List.cons_merge_cons, if_pos h, hmerge]
        rfl
      · obtain ⟨xs₁, xs₂, front, back, hxs, hmerge, hfront, hback⟩ := ih
        refine ⟨xs₁, xs₂, z :: front, back, hxs, ?_, .right hfront, hback⟩
        rw [List.cons_append, List.cons_append, List.cons_merge_cons, if_neg h, hmerge]
        rfl

end Merge

end Keyed
