import Mathlib.Data.List.Basic
import Mathlib.Data.List.Infix

/-! # Streams cut into lines

A line ends with its separator. What precedes the last separator of a stream are its whole lines, the
rest is a line that is not finished. -/

namespace Framing

universe u

variable {α : Type u}

/-- The position of the last element with the property. -/
def rposition (p : α → Bool) : List α → Option ℕ
  | [] => none
  | a :: rest =>
    match rposition p rest with
    | some i => some (i + 1)
    | none => if p a then some 0 else none

section Positions

variable {f : α → Bool} {a : α} {l p q : List α}

theorem rposition_eq_none : rposition f l = none ↔ ∀ a ∈ l, f a = false := by
  induction l with
  | nil => simp [rposition]
  | cons a l ih =>
    cases h : rposition f l with
    | some i =>
      have hnot : ¬ ∀ b ∈ l, f b = false := by
        intro hall
        rw [ih.mpr hall] at h
        cases h
      simp [rposition, h, hnot]
    | none =>
      have hall := ih.mp h
      by_cases ha : f a = true
      · simp [rposition, h, ha]
      · have hfalse : f a = false := by simpa using ha
        rw [List.forall_mem_cons]
        simp only [rposition, h, hfalse]
        exact ⟨fun _ => ⟨trivial, hall⟩, fun _ => rfl⟩

theorem rposition_append (hq : ∀ b ∈ q, f b = false) :
    rposition f (p ++ q) = rposition f p := by
  induction p with
  | nil => exact rposition_eq_none.mpr hq
  | cons a p ih => simp only [List.cons_append, rposition, ih]

theorem rposition_snoc (ha : f a = true) :
    rposition f (p ++ [a]) = some p.length := by
  induction p with
  | nil => simp [rposition, ha]
  | cons b p ih => simp [rposition, ih]

theorem rposition_after {pos : ℕ} (h : rposition f l = some pos) : ∀ b ∈ l.drop (pos + 1), f b = false := by
  induction l generalizing pos with
  | nil => simp
  | cons a l ih =>
    rw [rposition] at h
    cases hrest : rposition f l with
    | some i =>
      rw [hrest] at h
      cases h
      exact ih hrest
    | none =>
      rw [hrest] at h
      dsimp only at h
      split at h
      · cases h
        exact rposition_eq_none.mp hrest
      · cases h

end Positions

/-- Nothing but whole lines. -/
def Terminated (sep : α) (l : List α) : Prop := l = [] ∨ ∃ front, l = front ++ [sep]

/-- A place between two lines. -/
def Boundary (sep : α) (l : List α) (n : ℕ) : Prop := n ≤ l.length ∧ Terminated sep (l.take n)

section Ends

variable {sep : α} {l l' p q : List α}

theorem Terminated.nil : Terminated sep ([] : List α) := .inl rfl

theorem Terminated.append (hp : Terminated sep p) (hq : Terminated sep q) :
    Terminated sep (p ++ q) := by
  rcases hq with rfl | ⟨front, rfl⟩
  · rw [List.append_nil]
    exact hp
  · exact .inr ⟨p ++ front, by rw [List.append_assoc]⟩

theorem Terminated.of_append (h : Terminated sep (p ++ q)) : Terminated sep q := by
  induction q using List.reverseRecOn with
  | nil => exact .nil
  | append_singleton rest last _ =>
    rcases h with h | ⟨front, h⟩
    · simp at h
    · rw [← List.append_assoc] at h
      have hlast := (List.append_inj' h rfl).2
      rw [hlast]
      exact .inr ⟨rest, rfl⟩

theorem boundary_zero (l : List α) : Boundary sep l 0 := ⟨Nat.zero_le _, .nil⟩

theorem boundary_succ {n : ℕ} : Boundary sep l (n + 1) ↔ l[n]? = some sep := by
  unfold Boundary
  constructor
  · rintro ⟨hle, hterminated⟩
    have hlt : n < l.length := by omega
    rw [List.take_succ_eq_append_getElem hlt] at hterminated
    rcases hterminated with hnil | ⟨front, hfront⟩
    · exact absurd hnil (List.append_ne_nil_of_right_ne_nil _ (List.cons_ne_nil _ _))
    · have hlast := (List.append_inj' hfront rfl).2
      rw [List.getElem?_eq_getElem hlt, List.singleton_inj.mp hlast]
  · intro hget
    obtain ⟨hlt, hsep⟩ := List.getElem?_eq_some_iff.mp hget
    refine ⟨hlt, .inr ⟨l.take n, ?_⟩⟩
    rw [List.take_succ_eq_append_getElem hlt, hsep]

theorem Boundary.mono {n : ℕ} (h : Boundary sep l n) (hl : l <+: l') : Boundary sep l' n := by
  obtain ⟨q, rfl⟩ := hl
  refine ⟨by rw [List.length_append]; exact Nat.le_add_right_of_le h.1, ?_⟩
  rw [List.take_append_of_le_length h.1]
  exact h.2

theorem Boundary.take_of_prefix {n : ℕ} (h : Boundary sep l n) (hl : l <+: l') : l'.take n = l.take n := by
  obtain ⟨q, rfl⟩ := hl
  exact List.take_append_of_le_length h.1

end Ends

section Separated

variable [DecidableEq α] (sep : α)

/-- The length of the whole lines. -/
def completeLength (l : List α) : ℕ := (rposition (fun a => decide (a = sep)) l).elim 0 (· + 1)

/-- The whole lines. -/
def complete (l : List α) : List α := l.take (completeLength sep l)

variable {sep} {l l' p q : List α}

/-- Whole lines and a last one that is not finished: there is one way to cut a stream so. -/
theorem completeLength_append (hp : Terminated sep p) (hq : sep ∉ q) :
    completeLength sep (p ++ q) = p.length := by
  have hnone : ∀ b ∈ q, decide (b = sep) = false := by
    intro b hb
    have hne : b ≠ sep := by
      rintro rfl
      exact hq hb
    simp [hne]
  unfold completeLength
  rw [rposition_append hnone]
  rcases hp with rfl | ⟨front, rfl⟩
  · rfl
  · rw [rposition_snoc (by simp)]
    simp

theorem complete_append (hp : Terminated sep p) (hq : sep ∉ q) : complete sep (p ++ q) = p := by
  unfold complete
  rw [completeLength_append hp hq, List.take_left]

theorem exists_complete (sep : α) (l : List α) :
    ∃ p q, l = p ++ q ∧ Terminated sep p ∧ sep ∉ q := by
  induction l using List.reverseRecOn with
  | nil => exact ⟨[], [], rfl, .nil, by simp⟩
  | append_singleton l a ih =>
    by_cases ha : a = sep
    · exact ⟨l ++ [a], [], by simp, .inr ⟨l, by rw [ha]⟩, by simp⟩
    · obtain ⟨p, q, rfl, hp, hq⟩ := ih
      refine ⟨p, q ++ [a], by simp, hp, ?_⟩
      simp [hq, Ne.symm ha]

theorem complete_terminated : Terminated sep (complete sep l) := by
  obtain ⟨p, q, rfl, hp, hq⟩ := exists_complete sep l
  rw [complete_append hp hq]
  exact hp

theorem complete_prefix : complete sep l <+: l := List.take_prefix _ _

theorem complete_of_terminated (hp : Terminated sep p) : complete sep p = p := by
  have h := complete_append hp (q := []) (by simp)
  rwa [List.append_nil] at h

theorem length_complete : (complete sep l).length = completeLength sep l := by
  obtain ⟨p, q, rfl, hp, hq⟩ := exists_complete sep l
  rw [complete_append hp hq, completeLength_append hp hq]

theorem complete_append_terminated (hp : Terminated sep p) :
    complete sep (p ++ q) = p ++ complete sep q := by
  obtain ⟨front, rest, rfl, hfront, hrest⟩ := exists_complete sep q
  rw [complete_append hfront hrest, ← List.append_assoc, complete_append (hp.append hfront) hrest]

theorem Boundary.complete_eq {n : ℕ} (h : Boundary sep l n) :
    complete sep l = l.take n ++ complete sep (l.drop n) := by
  conv_lhs => rw [← List.take_append_drop n l]
  rw [complete_append_terminated h.2]

/-- The whole lines from a place between two lines on end at another one. -/
theorem Boundary.advance {n : ℕ} (h : Boundary sep l n) :
    Boundary sep l (n + completeLength sep (l.drop n)) ∧
      l.take (n + completeLength sep (l.drop n)) = complete sep l := by
  have htake : l.take (n + completeLength sep (l.drop n)) = complete sep l := by
    rw [h.complete_eq, List.take_add]
    rfl
  refine ⟨⟨?_, ?_⟩, htake⟩
  · have hle := (show complete sep (l.drop n) <+: l.drop n from complete_prefix).length_le
    rw [length_complete, List.length_drop] at hle
    have hn := h.1
    omega
  · rw [htake]
    exact complete_terminated

theorem drop_take_complete (sep : α) (l : List α) (n : ℕ) :
    (l.take (n + completeLength sep (l.drop n))).drop n = complete sep (l.drop n) := by
  rw [List.drop_take, Nat.add_sub_cancel_left]
  rfl

end Separated

end Framing
