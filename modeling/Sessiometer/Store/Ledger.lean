import Mathlib.Data.List.Dedup
import Mathlib.Data.List.Sort
import Mathlib.Order.MinMax

/-! # Ledgers

Entries are grouped by a key, kept in tables with one row for each key, and moved out of a raw log in
the order of their keys, behind a watermark. -/

namespace Ledger

universe u v w

variable {α : Type u} {κ : Type v} {β : Type w} [LinearOrder κ]

/-! ## Groups -/

/-- The entries by key, the least key first. -/
def groups (key : α → κ) (xs : List α) : List (κ × List α) :=
  ((xs.map key).dedup.mergeSort (fun a b => decide (a ≤ b))).map
    (fun k => (k, xs.filter (fun x => decide (key x = k))))

theorem mem_groups {key : α → κ} {xs : List α} {g : κ × List α} (h : g ∈ groups key xs) :
    g.2 ≠ [] ∧ ∀ x ∈ g.2, key x = g.1 := by
  obtain ⟨k, hk, rfl⟩ := List.mem_map.mp h
  obtain ⟨x, hx, rfl⟩ := List.mem_map.mp (List.mem_dedup.mp (List.mem_mergeSort.mp hk))
  refine ⟨List.ne_nil_of_mem (List.mem_filter.mpr ⟨hx, decide_eq_true rfl⟩), fun y hy => ?_⟩
  exact of_decide_eq_true (List.mem_filter.mp hy).2

theorem flatMap_filter_perm (key : α → κ) (xs : List α) {ks : List κ} (hks : ks.Nodup) :
    (ks.flatMap (fun k => xs.filter (fun x => decide (key x = k)))).Perm
      (xs.filter (fun x => decide (key x ∈ ks))) := by
  induction ks with
  | nil => simp
  | cons k ks ih =>
    obtain ⟨hk, hks⟩ := List.nodup_cons.mp hks
    rw [List.flatMap_cons]
    refine ((ih hks).append_left _).trans ?_
    have hsplit := List.filter_append_perm (fun x => decide (key x = k))
      (xs.filter (fun x => decide (key x ∈ k :: ks)))
    refine List.Perm.trans (List.Perm.of_eq ?_) hsplit
    rw [List.filter_filter, List.filter_filter]
    congr 1
    · refine List.filter_congr (fun x _ => ?_)
      by_cases hx : key x = k <;> simp [hx]
    · refine List.filter_congr (fun x _ => ?_)
      by_cases hx : key x = k
      · simp [hx, hk]
      · simp [hx]

/-- The groups hold every entry once. -/
theorem groups_perm (key : α → κ) (xs : List α) : ((groups key xs).flatMap Prod.snd).Perm xs := by
  have hkeys : ∀ x ∈ xs, key x ∈ (xs.map key).dedup.mergeSort (fun a b => decide (a ≤ b)) :=
    fun x hx => List.mem_mergeSort.mpr (List.mem_dedup.mpr (List.mem_map_of_mem hx))
  have hnodup : ((xs.map key).dedup.mergeSort (fun a b => decide (a ≤ b))).Nodup :=
    (List.mergeSort_perm _ _).nodup_iff.mpr (List.nodup_dedup _)
  have hperm := flatMap_filter_perm key xs hnodup
  rw [List.filter_eq_self.mpr (fun x hx => decide_eq_true (hkeys x hx))] at hperm
  unfold groups
  rw [List.flatMap_map]
  exact hperm

theorem groups_nil (key : α → κ) : groups key [] = [] := by
  unfold groups
  simp

/-- Entries that are in the order of their keys stay as they are. -/
theorem sort_sort (key : α → κ) (xs : List α) :
    (xs.mergeSort (fun a b => decide (key a ≤ key b))).mergeSort
        (fun a b => decide (key a ≤ key b)) =
      xs.mergeSort (fun a b => decide (key a ≤ key b)) := by
  refine List.mergeSort_of_pairwise (List.pairwise_mergeSort ?_ ?_ xs)
  · intro a b c hab hbc
    exact decide_eq_true ((of_decide_eq_true hab).trans (of_decide_eq_true hbc))
  · intro a b
    rcases le_total (key a) (key b) with h | h
    · simp [h]
    · simp [h]

theorem sort_filter_sort (key : α → κ) (p : α → Bool) (xs : List α) :
    ((((xs.filter p).mergeSort (fun a b => decide (key a ≤ key b))).filter p).mergeSort
        (fun a b => decide (key a ≤ key b))) =
      (xs.filter p).mergeSort (fun a b => decide (key a ≤ key b)) := by
  have hall : ∀ x ∈ (xs.filter p).mergeSort (fun a b => decide (key a ≤ key b)), p x = true :=
    fun x hx => (List.mem_filter.mp (List.mem_mergeSort.mp hx)).2
  rw [List.filter_eq_self.mpr hall, sort_sort]

/-! ## Tables -/

/-- Replaces the row under the key, or adds one at the end. -/
def upsert (key : β → κ) (merge : β → β → β) (new : β) : List β → List β
  | [] => [new]
  | row :: rows =>
    if key row = key new then merge row new :: rows else row :: upsert key merge new rows

section Table

variable {key : β → κ} {merge : β → β → β} {new : β} {rows : List β}

theorem map_key_upsert (hmerge : ∀ row new, key (merge row new) = key row) :
    (upsert key merge new rows).map key =
      if key new ∈ rows.map key then rows.map key else rows.map key ++ [key new] := by
  induction rows with
  | nil => rfl
  | cons row rows ih =>
    unfold upsert
    by_cases h : key row = key new
    · rw [if_pos h, List.map_cons, List.map_cons, hmerge, if_pos (by rw [h]; simp)]
    · rw [if_neg h, List.map_cons, List.map_cons, ih]
      by_cases hin : key new ∈ rows.map key
      · rw [if_pos hin, if_pos (List.mem_cons_of_mem _ hin)]
      · rw [if_neg hin, if_neg, List.cons_append]
        intro hcons
        rcases List.mem_cons.mp hcons with heq | hrest
        · exact h heq.symm
        · exact hin hrest

theorem mem_upsert (hnodup : (rows.map key).Nodup) {row : β} (h : row ∈ upsert key merge new rows) :
    (row ∈ rows ∧ key row ≠ key new) ∨
      (∃ old ∈ rows, key old = key new ∧ row = merge old new) ∨
        (key new ∉ rows.map key ∧ row = new) := by
  induction rows with
  | nil => exact .inr (.inr ⟨List.not_mem_nil, List.mem_singleton.mp h⟩)
  | cons first rows ih =>
    obtain ⟨hfirst, hrows⟩ := List.nodup_cons.mp hnodup
    unfold upsert at h
    by_cases hkey : key first = key new
    · rw [if_pos hkey] at h
      rcases List.mem_cons.mp h with rfl | hrest
      · exact .inr (.inl ⟨first, List.mem_cons_self, hkey, rfl⟩)
      · refine .inl ⟨List.mem_cons_of_mem _ hrest, fun heq => hfirst ?_⟩
        rw [hkey, ← heq]
        exact List.mem_map_of_mem hrest
    · rw [if_neg hkey] at h
      rcases List.mem_cons.mp h with rfl | hrest
      · exact .inl ⟨List.mem_cons_self, hkey⟩
      · rcases ih hrows hrest with ⟨hin, hne⟩ | ⟨old, hold, heq, hrow⟩ | ⟨hnew, hrow⟩
        · exact .inl ⟨List.mem_cons_of_mem _ hin, hne⟩
        · exact .inr (.inl ⟨old, List.mem_cons_of_mem _ hold, heq, hrow⟩)
        · refine .inr (.inr ⟨fun hcons => ?_, hrow⟩)
          rcases List.mem_cons.mp hcons with heq | hrest
          · exact hkey heq.symm
          · exact hnew hrest

theorem nodup_upsert (hmerge : ∀ row new, key (merge row new) = key row)
    (hnodup : (rows.map key).Nodup) : ((upsert key merge new rows).map key).Nodup := by
  rw [map_key_upsert hmerge]
  by_cases h : key new ∈ rows.map key
  · rw [if_pos h]
    exact hnodup
  · rw [if_neg h, List.nodup_append]
    refine ⟨hnodup, List.nodup_singleton _, fun k hk k' hk' heq => h ?_⟩
    rwa [← List.mem_singleton.mp hk', ← heq]

theorem mem_keys_upsert (hmerge : ∀ row new, key (merge row new) = key row) {k : κ} :
    k ∈ (upsert key merge new rows).map key ↔ k ∈ rows.map key ∨ k = key new := by
  rw [map_key_upsert hmerge]
  by_cases h : key new ∈ rows.map key
  · rw [if_pos h]
    exact ⟨Or.inl, fun hk => hk.elim id (fun heq => heq ▸ h)⟩
  · rw [if_neg h, List.mem_append, List.mem_singleton]

end Table

/-! ## The watermark -/

/-- The entries that are past the watermark. -/
def pending (key : α → κ) (through : κ) (raw : List α) : List α :=
  raw.filter (fun x => decide (through < key x))

/-- The entries that are old enough to be moved, and past the watermark. -/
def batch (key : α → κ) (aged : κ → Bool) (through : κ) (raw : List α) : List α :=
  (raw.filter (fun x => aged (key x))).filter (fun x => decide (through < key x))

/-- The watermark once the batch is moved. -/
def advance (key : α → κ) (through : κ) (moved : List α) : κ :=
  moved.foldl (fun through x => max through (key x)) through

section Watermark

variable {key : α → κ} {aged : κ → Bool} {through : κ} {raw raw' moved : List α}

theorem le_advance : through ≤ advance key through moved := by
  induction moved generalizing through with
  | nil => exact le_refl _
  | cons x moved ih => exact (le_max_left _ _).trans ih

theorem key_le_advance {x : α} (h : x ∈ moved) : key x ≤ advance key through moved := by
  induction moved generalizing through with
  | nil => cases h
  | cons y moved ih =>
    rcases List.mem_cons.mp h with rfl | hrest
    · exact (le_max_right _ _).trans le_advance
    · exact ih hrest

theorem foldl_max_map (key : α → κ) (k k' : κ) (xs : List α) :
    max k ((xs.map key).foldl max k') = xs.foldl (fun k x => max k (key x)) (max k k') := by
  induction xs generalizing k' with
  | nil => rfl
  | cons x xs ih =>
    rw [List.map_cons, List.foldl_cons, List.foldl_cons, ih, max_assoc]

/-- The watermark stays where it is, or moves to an entry. -/
theorem advance_eq (key : α → κ) (through : κ) (moved : List α) :
    advance key through moved = through ∨ ∃ x ∈ moved, advance key through moved = key x := by
  induction moved generalizing through with
  | nil => exact .inl rfl
  | cons y moved ih =>
    unfold advance
    rw [List.foldl_cons]
    rcases ih (max through (key y)) with heq | ⟨x, hx, heq⟩
    · rcases max_choice through (key y) with hleft | hright
      · exact .inl (heq.trans hleft)
      · exact .inr ⟨y, List.mem_cons_self, heq.trans hright⟩
    · exact .inr ⟨x, List.mem_cons_of_mem _ hx, heq⟩

/-- Behind the advanced watermark there is no aged entry. -/
theorem not_aged_of_advance (x : α) (hx : x ∈ raw)
    (h : advance key through (batch key aged through raw) < key x) : aged (key x) = false := by
  by_contra haged
  rw [Bool.not_eq_false] at haged
  have hpast : through < key x := lt_of_le_of_lt le_advance h
  have hin : x ∈ batch key aged through raw :=
    List.mem_filter.mpr ⟨List.mem_filter.mpr ⟨hx, haged⟩, decide_eq_true hpast⟩
  exact absurd h (not_lt.mpr (key_le_advance hin))

/-- An entry that is too young to be moved is past every aged one. -/
theorem past_advance (hdown : ∀ {k k'}, k ≤ k' → aged k' = true → aged k = true) (x : α)
    (hyoung : aged (key x) = false) :
    advance key through (batch key aged through raw) < key x ↔ through < key x := by
  refine ⟨fun h => lt_of_le_of_lt le_advance h, fun h => ?_⟩
  rcases advance_eq key through (batch key aged through raw) with heq | ⟨y, hy, heq⟩
  · rw [heq]
    exact h
  · rw [heq]
    by_contra hle
    have haged : aged (key y) = true := (List.mem_filter.mp (List.mem_filter.mp hy).1).2
    rw [hdown (not_lt.mp hle) haged] at hyoung
    cases hyoung

/-- Moving a batch takes it out of the pending entries, and nothing else, whether or not the raw log
has lost its aged entries. -/
theorem pending_perm (hdown : ∀ {k k'}, k ≤ k' → aged k' = true → aged k = true)
    (hraw : raw'.Perm raw ∨ raw'.Perm (raw.filter (fun x => !aged (key x)))) :
    (pending key through raw).Perm
      (pending key (advance key through (batch key aged through raw)) raw' ++
        batch key aged through raw) := by
  have hyoung : (pending key (advance key through (batch key aged through raw)) raw').Perm
      ((raw.filter (fun x => !aged (key x))).filter (fun x => decide (through < key x))) := by
    have hfilter : ∀ x ∈ raw.filter (fun x => !aged (key x)),
        decide (advance key through (batch key aged through raw) < key x) =
          decide (through < key x) := by
      intro x hx
      have hx' := (List.mem_filter.mp hx).2
      rw [Bool.not_eq_true'] at hx'
      exact decide_eq_decide.mpr (past_advance hdown x hx')
    rcases hraw with hperm | hperm
    · refine (hperm.filter _).trans (List.Perm.of_eq ?_)
      rw [← List.filter_congr hfilter, List.filter_filter]
      refine List.filter_congr (fun x hx => ?_)
      by_cases hpast : advance key through (batch key aged through raw) < key x
      · simp [hpast, not_aged_of_advance x hx hpast]
      · simp [hpast]
    · exact (hperm.filter _).trans (List.Perm.of_eq (List.filter_congr hfilter))
  refine List.Perm.trans ?_ (hyoung.symm.append_right _)
  unfold pending batch
  rw [← List.filter_append]
  refine List.Perm.filter _ ?_
  exact ((List.perm_append_comm).trans
    (List.filter_append_perm (fun x => aged (key x)) raw)).symm

/-- Nothing is left to move behind the watermark that a batch has advanced. -/
theorem batch_advance (hraw : ∀ x ∈ raw', x ∈ raw) :
    batch key aged (advance key through (batch key aged through raw)) raw' = [] := by
  unfold batch
  rw [List.filter_filter, List.filter_eq_nil_iff]
  intro x hx hboth
  obtain ⟨hpast, haged⟩ := Bool.and_eq_true_iff.mp hboth
  have hyoung := not_aged_of_advance x (hraw x hx) (of_decide_eq_true hpast)
  rw [hyoung] at haged
  cases haged

end Watermark

end Ledger
