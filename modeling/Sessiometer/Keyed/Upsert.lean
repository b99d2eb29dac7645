import Mathlib.Data.List.Nodup
import Sessiometer.Keyed.Rekey

/-! # Elements put into a keyed list

An element takes the place of the one under its key, and is appended where there is none. -/

namespace Keyed

universe u v w

variable {α : Type u} {κ : Type v} {β : Type w} [DecidableEq κ] (key : α → κ)

def put (l : List α) (a : α) : List α :=
  match position key l (key a) with
  | some i => l.set i a
  | none => l ++ [a]

/-- The elements, each put in turn. -/
def puts (l : List α) : List α → List α
  | [] => l
  | a :: as => puts (put key l a) as

section One

variable {key} {l : List α} {a : α}

theorem put_of_mem (hd : (l.map key).Nodup) (ha : key a ∈ l.map key) :
    put key l a = l.map (fun b => if key a = key b then a else b) := by
  cases hp : position key l (key a) with
  | none => exact absurd ha (position_eq_none_iff.mp hp)
  | some i =>
    obtain ⟨b, hb, hkey⟩ := getElem?_of_position hp
    have hlt := position_lt hp
    simp only [put, hp]
    apply List.ext_getElem?
    intro j
    rw [List.getElem?_set, List.getElem?_map]
    by_cases hij : i = j
    · subst hij
      rw [if_pos rfl, if_pos hlt, hb, Option.map_some, if_pos hkey.symm]
    · rw [if_neg hij]
      cases hj : l[j]? with
      | none => rfl
      | some c =>
        have hne : key a ≠ key c := by
          intro hc
          have := position_of_getElem? hd hj
          rw [← hc, hp] at this
          exact hij (Option.some.inj this)
        simp [hne]

theorem put_of_not_mem (ha : key a ∉ l.map key) : put key l a = l ++ [a] := by
  unfold put
  rw [position_eq_none_iff.mpr ha]

theorem keys_put (hd : (l.map key).Nodup) :
    (put key l a).map key = if key a ∈ l.map key then l.map key else l.map key ++ [key a] := by
  by_cases ha : key a ∈ l.map key
  · rw [if_pos ha, put_of_mem hd ha, List.map_map]
    apply List.map_congr_left
    intro b _
    by_cases hb : key a = key b <;> simp [hb]
  · rw [if_neg ha, put_of_not_mem ha, List.map_append]
    rfl

theorem nodup_put (hd : (l.map key).Nodup) : ((put key l a).map key).Nodup := by
  rw [keys_put hd]
  by_cases ha : key a ∈ l.map key
  · rwa [if_pos ha]
  · rw [if_neg ha, List.nodup_append]
    refine ⟨hd, List.nodup_singleton _, ?_⟩
    intro k hk k' hk' h
    rw [List.mem_singleton] at hk'
    exact ha (hk' ▸ h ▸ hk)

theorem mem_keys_put (hd : (l.map key).Nodup) {k : κ} :
    k ∈ (put key l a).map key ↔ k ∈ l.map key ∨ k = key a := by
  rw [keys_put hd]
  by_cases ha : key a ∈ l.map key
  · rw [if_pos ha]
    constructor
    · exact .inl
    · rintro (h | rfl)
      · exact h
      · exact ha
  · rw [if_neg ha]
    simp

/-- A value is borne by one more element at most, and by no more where the new one does not bear
it. -/
theorem count_put [DecidableEq β] (f : α → β) (x : β) :
    ((put key l a).map f).count x ≤ (l.map f).count x + if f a = x then 1 else 0 := by
  unfold put
  split
  · next i hp =>
    have hlt := position_lt hp
    have hi : i < (l.map f).length := by rwa [List.length_map]
    rw [List.map_set, List.count_set hi]
    simp only [beq_iff_eq]
    split <;> split <;> omega
  · rw [List.map_append, List.count_append]
    by_cases h : f a = x <;> simp [h]

end One

section Many

variable {key} {l as : List α}

theorem nodup_puts (hd : (l.map key).Nodup) : ((puts key l as).map key).Nodup := by
  induction as generalizing l with
  | nil => exact hd
  | cons a as ih => exact ih (nodup_put hd)

/-- What was there keeps its place, and what is new follows in the order it came. -/
theorem puts_eq (hd : (l.map key).Nodup) (has : (as.map key).Nodup) :
    puts key l as = l.map (fun b => (as.find? (fun a => key a = key b)).getD b) ++
      as.filter (fun a => key a ∉ l.map key) := by
  induction as generalizing l with
  | nil => simp [puts]
  | cons a as ih =>
    rw [List.map_cons, List.nodup_cons] at has
    have hnone : as.find? (fun c => key c = key a) = none := by
      rw [List.find?_eq_none]
      intro c hc h
      exact has.1 (of_decide_eq_true h ▸ List.mem_map_of_mem hc)
    rw [puts, ih (nodup_put hd) has.2]
    by_cases ha : key a ∈ l.map key
    · have hrest : as.filter (fun c => key c ∉ (put key l a).map key) =
          as.filter (fun c => key c ∉ l.map key) := by
        rw [keys_put hd, if_pos ha]
      rw [hrest, List.filter_cons_of_neg (by simpa using ha), put_of_mem hd ha, List.map_map]
      congr 1
      apply List.map_congr_left
      intro b _
      by_cases hb : key a = key b
      · have hb' : as.find? (fun c => key c = key b) = none := by
          rw [← hb]
          exact hnone
        simp [hb, hb']
      · simp [hb]
    · have hrest : as.filter (fun c => key c ∉ (put key l a).map key) =
          as.filter (fun c => key c ∉ l.map key) := by
        apply List.filter_congr
        intro c hc
        have hne : key c ≠ key a := fun h => has.1 (h ▸ List.mem_map_of_mem hc)
        simp only [mem_keys_put hd, hne, or_false]
      have hl : (l.map fun b => ((a :: as).find? (fun c => key c = key b)).getD b) =
          l.map fun b => (as.find? (fun c => key c = key b)).getD b := by
        apply List.map_congr_left
        intro b hb
        have hne : key a ≠ key b := fun h => ha (h ▸ List.mem_map_of_mem hb)
        simp [hne]
      rw [hrest, hl, put_of_not_mem ha, List.filter_cons_of_pos (by simpa using ha),
        List.map_append, List.append_assoc]
      simp [hnone]

/-- A value that no new element bears is borne by no more. -/
theorem count_puts [DecidableEq β] (f : α → β) (x : β) :
    ((puts key l as).map f).count x ≤ (l.map f).count x + (as.map f).count x := by
  induction as generalizing l with
  | nil => simp [puts]
  | cons a as ih =>
    have h : ((puts key (put key l a) as).map f).count x ≤
        ((put key l a).map f).count x + (as.map f).count x := ih
    have h' : ((put key l a).map f).count x ≤ (l.map f).count x + if f a = x then 1 else 0 :=
      count_put f x
    rw [List.map_cons, List.count_cons, puts]
    simp only [beq_iff_eq]
    omega

end Many

end Keyed
