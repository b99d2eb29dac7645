import Mathlib.Data.List.Sort
import Sessiometer.Store.Summary

/-! # Entries in the order of their keys

A stable sort keeps the entries under each key in their order, and so is told by them. The latest entry
at a key is the last of those with the greatest key up to it. -/

namespace Ledger

universe u v w

variable {α : Type u} {κ : Type v} [LinearOrder κ] {key : α → κ} {x y : α} {xs ys : List α} {k : κ}

/-- The entries in the order of their keys, those under one key as they stand. -/
abbrev sorted (key : α → κ) (xs : List α) : List α := xs.insertionSort fun x y => key x ≤ key y

theorem pairwise_sorted : (sorted key xs).Pairwise fun x y => key x ≤ key y := by
  have : Std.Total fun x y : α => key x ≤ key y := ⟨fun x y => le_total _ _⟩
  have : IsTrans α fun x y => key x ≤ key y := ⟨fun _ _ _ h h' => h.trans h'⟩
  exact List.pairwise_insertionSort _ _

theorem sorted_perm : (sorted key xs).Perm xs := List.perm_insertionSort _ _

/-! ## A stable sort -/

theorem entries_cons : entries key k (x :: xs) =
    if key x = k then x :: entries key k xs else entries key k xs := by
  unfold entries
  by_cases hx : key x = k
  · simp [hx]
  · simp [hx]

theorem entries_orderedInsert : entries key k (xs.orderedInsert (fun x y => key x ≤ key y) x) =
    entries key k (x :: xs) := by
  induction xs with
  | nil => rfl
  | cons y ys ih =>
    rw [List.orderedInsert_cons]
    by_cases hle : key x ≤ key y
    · rw [if_pos hle]
    · rw [if_neg hle, entries_cons, ih, entries_cons, entries_cons, entries_cons]
      by_cases hx : key x = k
      · have hy : key y ≠ k := by
          rintro rfl
          exact hle hx.le
        simp [hx, hy]
      · simp [hx]

theorem entries_sorted : entries key k (sorted key xs) = entries key k xs := by
  induction xs with
  | nil => rfl
  | cons x xs ih =>
    change entries key k ((sorted key xs).orderedInsert _ x) = _
    rw [entries_orderedInsert, entries_cons, entries_cons, ih]

theorem key_le_of_entries {x y : α} {xs ys : List α}
    (hys : (y :: ys).Pairwise fun x y => key x ≤ key y)
    (h : ∀ k, entries key k (x :: xs) = entries key k (y :: ys)) : key y ≤ key x := by
  have hmem : x ∈ entries key (key x) (y :: ys) := by
    rw [← h, entries_cons, if_pos rfl]
    exact List.mem_cons_self
  obtain rfl | hx := List.mem_cons.mp (List.mem_filter.mp hmem).1
  · exact le_rfl
  · exact (List.pairwise_cons.mp hys).1 x hx

theorem eq_of_entries (hxs : xs.Pairwise fun x y => key x ≤ key y)
    (hys : ys.Pairwise fun x y => key x ≤ key y) (h : ∀ k, entries key k xs = entries key k ys) :
    xs = ys := by
  induction xs generalizing ys with
  | nil =>
    cases ys with
    | nil => rfl
    | cons y ys =>
      have := h (key y)
      rw [entries_cons, if_pos rfl] at this
      cases this
  | cons x xs ih =>
    cases ys with
    | nil =>
      have := h (key x)
      rw [entries_cons, if_pos rfl] at this
      cases this
    | cons y ys =>
      have hkey : key x = key y :=
        le_antisymm (key_le_of_entries hxs fun k => (h k).symm) (key_le_of_entries hys h)
      have hhead := h (key x)
      rw [entries_cons, if_pos rfl, entries_cons, if_pos hkey.symm] at hhead
      obtain ⟨rfl, -⟩ := List.cons.inj hhead
      rw [ih (List.pairwise_cons.mp hxs).2 (List.pairwise_cons.mp hys).2 fun k => ?_]
      have htail := h k
      rw [entries_cons, entries_cons] at htail
      by_cases hx : key x = k
      · rw [if_pos hx, if_pos hx] at htail
        exact (List.cons.inj htail).2
      · rwa [if_neg hx, if_neg hx] at htail

/-- The sort of the entries is told by those under each key. -/
theorem sorted_congr (h : ∀ k, entries key k xs = entries key k ys) : sorted key xs = sorted key ys :=
  eq_of_entries pairwise_sorted pairwise_sorted fun k => by
    rw [entries_sorted, entries_sorted, h]

/-! ## Grouping entries that come in another order -/

theorem keys_congr (h : xs.Perm ys) : (xs.map key).dedup.mergeSort (fun a b => decide (a ≤ b)) =
    (ys.map key).dedup.mergeSort (fun a b => decide (a ≤ b)) := by
  have hperm : ((xs.map key).dedup.mergeSort (fun a b => decide (a ≤ b))).Perm
      ((ys.map key).dedup.mergeSort (fun a b => decide (a ≤ b))) :=
    (List.mergeSort_perm _ _).trans ((h.map key).dedup.trans (List.mergeSort_perm _ _).symm)
  have htrans : ∀ a b c : κ, decide (a ≤ b) = true → decide (b ≤ c) = true → decide (a ≤ c) = true := by
    intro a b c hab hbc
    exact decide_eq_true ((of_decide_eq_true hab).trans (of_decide_eq_true hbc))
  have htotal : ∀ a b : κ, (decide (a ≤ b) || decide (b ≤ a)) = true := by
    intro a b
    simpa using le_total a b
  refine List.Perm.eq_of_pairwise ?_ (List.pairwise_mergeSort htrans htotal _)
    (List.pairwise_mergeSort htrans htotal _) hperm
  intro a b _ _ hab hba
  exact le_antisymm (of_decide_eq_true hab) (of_decide_eq_true hba)

/-- What is made of each group is the same when it is the same of the entries under each key. -/
theorem map_groups_congr {β : Type w} (h : xs.Perm ys) (f : κ → List α → β)
    (hf : ∀ k, f k (entries key k xs) = f k (entries key k ys)) :
    (groups key xs).map (fun g => f g.1 g.2) = (groups key ys).map fun g => f g.1 g.2 := by
  unfold groups
  rw [keys_congr h, List.map_map, List.map_map]
  exact List.map_congr_left fun k _ => hf k

/-! ## The latest entry -/

/-- The last of the entries with the greatest key that is not above the given one. -/
def latest (key : α → κ) (k : κ) : List α → Option α
  | [] => none
  | x :: xs =>
    match latest key k xs with
    | some y => if key x ≤ k ∧ key y < key x then some x else some y
    | none => if key x ≤ k then some x else none

theorem latest_cons : latest key k (x :: xs) =
    match latest key k xs with
    | some y => if key x ≤ k ∧ key y < key x then some x else some y
    | none => if key x ≤ k then some x else none := rfl

theorem latest_of_gt (h : ∀ x ∈ xs, k < key x) : latest key k xs = none := by
  induction xs with
  | nil => rfl
  | cons x xs ih =>
    have hx := h x (by simp)
    unfold latest
    rw [ih fun y hy => h y (by simp [hy])]
    simp [hx]

theorem latest_isSome (hx : x ∈ xs) (hle : key x ≤ k) : (latest key k xs).isSome := by
  induction xs with
  | nil => simp at hx
  | cons y ys ih =>
    unfold latest
    cases hlatest : latest key k ys with
    | some z =>
      simp only
      by_cases hlater : key y ≤ k ∧ key z < key y
      · simp [hlater]
      · simp [hlater]
    | none =>
      obtain rfl | hx := List.mem_cons.mp hx
      · simp [hle]
      · have := ih hx
        simp [hlatest] at this

/-- The latest entry is one of the entries up to the key, and none of these is later. -/
theorem latest_spec (h : latest key k xs = some x) :
    x ∈ xs ∧ key x ≤ k ∧ ∀ y ∈ xs, key y ≤ k → key y ≤ key x := by
  induction xs generalizing x with
  | nil => simp [latest] at h
  | cons y ys ih =>
    unfold latest at h
    cases hlatest : latest key k ys with
    | some z =>
      obtain ⟨hz, hzk, hgreatest⟩ := ih hlatest
      simp only [hlatest] at h
      by_cases hlater : key y ≤ k ∧ key z < key y
      · rw [if_pos hlater] at h
        obtain rfl := Option.some.inj h
        refine ⟨by simp, hlater.1, fun w hw hwk => ?_⟩
        obtain rfl | hw := List.mem_cons.mp hw
        · exact le_rfl
        · exact (hgreatest w hw hwk).trans hlater.2.le
      · rw [if_neg hlater] at h
        obtain rfl := Option.some.inj h
        refine ⟨by simp [hz], hzk, fun w hw hwk => ?_⟩
        obtain rfl | hw := List.mem_cons.mp hw
        · exact not_lt.mp fun hlt => hlater ⟨hwk, hlt⟩
        · exact hgreatest w hw hwk
    | none =>
      simp only [hlatest] at h
      by_cases hy : key y ≤ k
      · rw [if_pos hy] at h
        obtain rfl := Option.some.inj h
        refine ⟨by simp, hy, fun w hw hwk => ?_⟩
        obtain rfl | hw := List.mem_cons.mp hw
        · exact le_rfl
        · have := latest_isSome (k := k) hw hwk
          simp [hlatest] at this
      · simp [hy] at h

theorem latest_orderedInsert :
    latest key k (xs.orderedInsert (fun x y => key x ≤ key y) x) = latest key k (x :: xs) := by
  induction xs with
  | nil => rfl
  | cons y ys ih =>
    rw [List.orderedInsert_cons]
    by_cases hle : key x ≤ key y
    · rw [if_pos hle]
    · have hlt := not_le.mp hle
      rw [if_neg hle]
      simp only [latest, ih]
      -- the two stand at different keys, so that it is all one which of them comes first
      cases latest key k ys with
      | none =>
        by_cases hx : key x ≤ k
        · have hy : key y ≤ k := hlt.le.trans hx
          simp [hx, hy, hlt, hlt.le]
        · by_cases hy : key y ≤ k
          · simp [hx, hy]
          · simp [hx, hy]
      | some z =>
        by_cases hx : key x ≤ k ∧ key z < key x
        · by_cases hy : key y ≤ k ∧ key z < key y
          · simp [hx, hy, hlt, hlt.le]
          · simp [hx, hy, hlt.le]
        · by_cases hy : key y ≤ k ∧ key z < key y
          · have hnot : ¬(key x ≤ k ∧ key y < key x) := fun h => hx ⟨h.1, hy.2.trans hlt⟩
            simp only [hx, hy, hnot, if_true, if_false, and_self]
          · simp [hx, hy]

theorem latest_sorted : latest key k (sorted key xs) = latest key k xs := by
  induction xs with
  | nil => rfl
  | cons x xs ih =>
    change latest key k ((sorted key xs).orderedInsert _ x) = _
    rw [latest_orderedInsert]
    simp only [latest, ih]

/-- In their order, an entry is the latest one up to the next. -/
theorem latest_cons_of_sorted (h : (x :: xs).Pairwise fun x y => key x ≤ key y) :
    latest key k (x :: xs) =
      if (∃ y ∈ xs.head?, key y ≤ k) then latest key k xs else if key x ≤ k then some x else none := by
  obtain ⟨hfirst, hrest⟩ := List.pairwise_cons.mp h
  rw [latest_cons]
  cases xs with
  | nil => simp [latest]
  | cons y ys =>
    simp only [List.head?_cons, Option.mem_def, Option.some.injEq, exists_eq_left']
    by_cases hy : key y ≤ k
    · obtain ⟨z, hz⟩ := Option.isSome_iff_exists.mp
        (latest_isSome (by simp : y ∈ y :: ys) hy)
      have hle : ¬(key x ≤ k ∧ key z < key x) := fun h => not_lt.mpr (hfirst z (latest_spec hz).1) h.2
      rw [hz, if_pos hy]
      simp only
      rw [if_neg hle]
    · have hnone : latest key k (y :: ys) = none := by
        refine latest_of_gt fun z hz => ?_
        obtain rfl | hz := List.mem_cons.mp hz
        · exact not_le.mp hy
        · exact (not_le.mp hy).trans_le ((List.pairwise_cons.mp hrest).1 z hz)
      simp [hnone, hy]

/-- The first of the entries with the least key. -/
def earliest (key : α → κ) : List α → Option α
  | [] => none
  | x :: xs =>
    match earliest key xs with
    | some y => if key y < key x then some y else some x
    | none => some x

/-- It is the first in their order. -/
theorem head?_sorted : (sorted key xs).head? = earliest key xs := by
  induction xs with
  | nil => rfl
  | cons x xs ih =>
    change ((sorted key xs).orderedInsert _ x).head? = _
    unfold earliest
    rw [← ih]
    cases hsorted : sorted key xs with
    | nil => rfl
    | cons y ys =>
      rw [List.orderedInsert_cons]
      by_cases hle : key x ≤ key y
      · simp [hle, not_lt.mpr hle]
      · simp [hle, not_le.mp hle]

/-! ## Looking groups up -/

theorem lookup_map_pair [BEq κ] [LawfulBEq κ] {β : Type w} (f : κ → β) (ks : List κ) (k : κ) :
    (ks.map fun j => (j, f j)).lookup k = if k ∈ ks then some (f k) else none := by
  induction ks with
  | nil => simp
  | cons j ks ih =>
    rw [List.map_cons, List.lookup_cons, ih]
    by_cases hk : k = j
    · simp [hk]
    · have hne : (k == j) = false := beq_eq_false_iff_ne.mpr hk
      simp [hk, hne]

theorem lookup_groups [BEq κ] [LawfulBEq κ] {β : Type w} (f : κ → List α → β) (xs : List α) (k : κ) :
    ((groups key xs).map fun g => (g.1, f g.1 g.2)).lookup k =
      if k ∈ xs.map key then some (f k (entries key k xs)) else none := by
  unfold groups
  rw [List.map_map]
  refine (lookup_map_pair (fun j => f j (entries key j xs)) _ k).trans ?_
  simp only [List.mem_mergeSort, List.mem_dedup]

theorem keys_groups : (groups key xs).map Prod.fst =
    (xs.map key).dedup.mergeSort (fun a b => decide (a ≤ b)) := by
  unfold groups
  rw [List.map_map]
  exact List.map_id _

theorem mem_keys_groups : k ∈ (groups key xs).map Prod.fst ↔ k ∈ xs.map key := by
  rw [keys_groups, List.mem_mergeSort, List.mem_dedup]

/-- The entries under so many keys are together as many as there are, when no key is missing. -/
theorem sum_length_entries {ks : List κ} (hks : ks.Nodup) (hall : ∀ x ∈ xs, key x ∈ ks) :
    (ks.map fun k => (entries key k xs).length).sum = xs.length := by
  have hperm := flatMap_filter_perm key xs hks
  rw [List.filter_eq_self.mpr fun x hx => decide_eq_true (hall x hx)] at hperm
  have hlength := hperm.length_eq
  rw [List.length_flatMap] at hlength
  exact hlength

end Ledger
