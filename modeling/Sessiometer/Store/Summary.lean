import Mathlib.Algebra.GroupWithZero.Nat
import Mathlib.Data.List.Flatten
import Sessiometer.Store.Ledger

/-! # Tables that summarise

Each row of a table describes the entries under its key. A merge that describes two groups together,
where its operands describe one each, keeps the table a summary of all that was ever folded into it,
in whatever batches. -/

namespace Ledger

universe u v w x

variable {α : Type u} {κ : Type v} {β : Type w} {κ' : Type x} [LinearOrder κ]

/-- The entries under a key. -/
def entries (key : α → κ) (k : κ) (xs : List α) : List α := xs.filter (fun x => decide (key x = k))

section Entries

variable {key : α → κ} {k : κ} {xs ys : List α}

theorem entries_append : entries key k (xs ++ ys) = entries key k xs ++ entries key k ys :=
  List.filter_append ..

theorem entries_self (h : ∀ x ∈ xs, key x = k) : entries key k xs = xs :=
  List.filter_eq_self.mpr (fun x hx => decide_eq_true (h x hx))

theorem entries_eq_nil (h : ∀ x ∈ xs, key x ≠ k) : entries key k xs = [] :=
  List.filter_eq_nil_iff.mpr (fun x hx => by simpa using h x hx)

theorem mem_map_iff_entries : k ∈ xs.map key ↔ entries key k xs ≠ [] := by
  unfold entries
  simp

/-- Entries that are grouped by a key keep their order under any key at least as fine. -/
theorem entries_groups {sub : α → κ'} [LinearOrder κ'] (hsub : ∀ x y, sub x = sub y → key x = key y)
    (k' : κ') (xs : List α) :
    entries sub k' ((groups key xs).flatMap Prod.snd) = entries sub k' xs := by
  have hgroups : ∀ ks : List κ, ks.Nodup →
      entries sub k' (ks.flatMap (fun k => entries key k xs)) =
        if ∃ x ∈ xs, sub x = k' ∧ key x ∈ ks then entries sub k' xs else [] := by
    intro ks
    induction ks with
    | nil => simp [entries]
    | cons k ks ih =>
      intro hnodup
      obtain ⟨hk, hks⟩ := List.nodup_cons.mp hnodup
      rw [List.flatMap_cons, entries_append, ih hks]
      by_cases hhead : ∃ x ∈ xs, sub x = k' ∧ key x = k
      · obtain ⟨x, hx, hxsub, hxkey⟩ := hhead
        have hall : ∀ y, sub y = k' → key y = k := by
          intro y hy
          rw [hsub y x (hy.trans hxsub.symm), hxkey]
        have hfirst : entries sub k' (entries key k xs) = entries sub k' xs := by
          unfold entries
          rw [List.filter_filter]
          refine List.filter_congr (fun y _ => ?_)
          by_cases hy : sub y = k'
          · simp [hy, hall y hy]
          · simp [hy]
        have hrest : ¬ ∃ y ∈ xs, sub y = k' ∧ key y ∈ ks := by
          rintro ⟨y, -, hy, hyk⟩
          exact hk (hall y hy ▸ hyk)
        have hany : ∃ y ∈ xs, sub y = k' ∧ key y ∈ k :: ks :=
          ⟨x, hx, hxsub, by rw [hxkey]; exact List.mem_cons_self⟩
        rw [if_neg hrest, if_pos hany, hfirst, List.append_nil]
      · have hfirst : entries sub k' (entries key k xs) = [] := by
          refine entries_eq_nil (fun y hy hsuby => hhead ?_)
          obtain ⟨hyx, hyk⟩ := List.mem_filter.mp hy
          exact ⟨y, hyx, hsuby, of_decide_eq_true hyk⟩
        have hiff : (∃ y ∈ xs, sub y = k' ∧ key y ∈ k :: ks) ↔
            ∃ y ∈ xs, sub y = k' ∧ key y ∈ ks := by
          constructor
          · rintro ⟨y, hy, hsuby, hyk⟩
            rcases List.mem_cons.mp hyk with hyk | hyk
            · exact absurd ⟨y, hy, hsuby, hyk⟩ hhead
            · exact ⟨y, hy, hsuby, hyk⟩
          · rintro ⟨y, hy, hsuby, hyk⟩
            exact ⟨y, hy, hsuby, List.mem_cons_of_mem _ hyk⟩
        rw [hfirst, List.nil_append]
        exact if_congr hiff.symm rfl rfl
  have hnodup : ((xs.map key).dedup.mergeSort (fun a b => decide (a ≤ b))).Nodup :=
    (List.mergeSort_perm _ _).nodup_iff.mpr (List.nodup_dedup _)
  have hmem : ∀ x ∈ xs, key x ∈ (xs.map key).dedup.mergeSort (fun a b => decide (a ≤ b)) :=
    fun x hx => List.mem_mergeSort.mpr (List.mem_dedup.mpr (List.mem_map_of_mem hx))
  unfold groups
  rw [List.flatMap_map]
  refine (hgroups _ hnodup).trans ?_
  by_cases hany : ∃ x ∈ xs, sub x = k'
  · obtain ⟨x, hx, hxsub⟩ := hany
    rw [if_pos ⟨x, hx, hxsub, hmem x hx⟩]
  · rw [entries_eq_nil (fun x hx hxsub => hany ⟨x, hx, hxsub⟩), ite_self]

end Entries

/-- The rows of the table, one for each key, describe the entries folded into it. -/
structure Summarises (key : α → κ) (rowKey : β → κ) (describes : List α → β → Prop) (xs : List α)
    (rows : List β) : Prop where
  distinct : (rows.map rowKey).Nodup
  keys : ∀ k, k ∈ rows.map rowKey ↔ k ∈ xs.map key
  rows : ∀ row ∈ rows, describes (entries key (rowKey row) xs) row

section Summarises

variable {key : α → κ} {rowKey : β → κ} {describes : List α → β → Prop} {merge : β → β → β}
  {xs ys : List α} {rows : List β}

theorem summarises_nil : Summarises key rowKey describes [] ([] : List β) where
  distinct := List.nodup_nil
  keys _ := Iff.rfl
  rows row hrow := by cases hrow

/-- Only the entries under each key matter, not how the keys are interleaved. -/
theorem Summarises.congr (h : Summarises key rowKey describes xs rows)
    (hys : ∀ k, entries key k ys = entries key k xs) :
    Summarises key rowKey describes ys rows where
  distinct := h.distinct
  keys k := by rw [h.keys, mem_map_iff_entries, mem_map_iff_entries, hys]
  rows row hrow := by
    rw [hys]
    exact h.rows row hrow

/-- Two summaries of the same entries have the same keys, and describe the same entries by them. -/
theorem Summarises.both {describes' : List α → β → Prop} {rows' : List β}
    (h : Summarises key rowKey describes xs rows) (h' : Summarises key rowKey describes' xs rows')
    {row : β} (hrow : row ∈ rows) : ∃ row' ∈ rows', rowKey row' = rowKey row ∧
      describes (entries key (rowKey row) xs) row ∧ describes' (entries key (rowKey row) xs) row' := by
  have hkey : rowKey row ∈ rows'.map rowKey :=
    (h'.keys _).mpr ((h.keys _).mp (List.mem_map_of_mem hrow))
  obtain ⟨row', hrow', heq⟩ := List.mem_map.mp hkey
  have hdescribed := h'.rows row' hrow'
  rw [heq] at hdescribed
  exact ⟨row', hrow', heq, h.rows row hrow, hdescribed⟩

variable (hmergeKey : ∀ row new, rowKey (merge row new) = rowKey row)
  (hmerge : ∀ {as bs : List α} {a b : β}, as ≠ [] → bs ≠ [] → rowKey a = rowKey b →
    describes as a → describes bs b → describes (as ++ bs) (merge a b))

include hmergeKey hmerge

/-- A group is added to the row of its key, if there is one. -/
theorem Summarises.upsert (h : Summarises key rowKey describes xs rows) {new : β} (hne : ys ≠ [])
    (hkey : ∀ y ∈ ys, key y = rowKey new) (hnew : describes ys new) :
    Summarises key rowKey describes (xs ++ ys) (Ledger.upsert rowKey merge new rows) := by
  have hother : ∀ k, k ≠ rowKey new → entries key k ys = [] :=
    fun k hk => entries_eq_nil (fun y hy heq => hk (heq.symm.trans (hkey y hy)))
  refine ⟨nodup_upsert hmergeKey h.distinct, fun k => ?_, fun row hrow => ?_⟩
  · rw [mem_keys_upsert hmergeKey, h.keys, mem_map_iff_entries, mem_map_iff_entries, entries_append]
    by_cases hk : k = rowKey new
    · simp [hk, entries_self hkey, hne]
    · simp [hk, hother k hk]
  · rw [entries_append]
    rcases mem_upsert h.distinct hrow with ⟨hin, hd⟩ | ⟨old, hold, hd, rfl⟩ | ⟨hfresh, rfl⟩
    · rw [hother _ hd, List.append_nil]
      exact h.rows row hin
    · have hnonempty : entries key (rowKey old) xs ≠ [] :=
        mem_map_iff_entries.mp ((h.keys _).mp (List.mem_map_of_mem hold))
      rw [hmergeKey, hd, entries_self hkey, ← hd]
      exact hmerge hnonempty hne hd (h.rows old hold) hnew
    · have hempty : entries key (rowKey row) xs = [] := by
        by_contra hnonempty
        exact hfresh ((h.keys _).mpr (mem_map_iff_entries.mpr hnonempty))
      rw [hempty, entries_self hkey, List.nil_append]
      exact hnew

/-- Groups are folded in, one row after the other. -/
theorem Summarises.folds (h : Summarises key rowKey describes xs rows) {make : κ → List α → β}
    (hmakeKey : ∀ k ys, rowKey (make k ys) = k)
    (hmake : ∀ {k ys}, ys ≠ [] → (∀ y ∈ ys, key y = k) → describes ys (make k ys))
    (gs : List (κ × List α)) (hgs : ∀ g ∈ gs, g.2 ≠ [] ∧ ∀ y ∈ g.2, key y = g.1) :
    Summarises key rowKey describes (xs ++ gs.flatMap Prod.snd)
      (gs.foldl (fun rows g => Ledger.upsert rowKey merge (make g.1 g.2) rows) rows) := by
  induction gs generalizing xs rows with
  | nil =>
    rw [List.flatMap_nil, List.append_nil]
    exact h
  | cons g gs ih =>
    obtain ⟨hne, hg⟩ := hgs g List.mem_cons_self
    have hkey : ∀ y ∈ g.2, key y = rowKey (make g.1 g.2) := by
      intro y hy
      rw [hmakeKey, hg y hy]
    have hone := h.upsert hmergeKey hmerge hne hkey (hmake hne hg)
    rw [List.flatMap_cons, ← List.append_assoc]
    exact ih hone (fun g' hg' => hgs g' (List.mem_cons_of_mem _ hg'))

end Summarises

section Tables

variable {key : α → κ} {rowKey : β → κ} {describes : List α → β → Prop} {merge : β → β → β}
  {xs : List α} {rows rows' : List β}

/-- Tables whose rows are made of the entries under their keys hold the same rows. -/
theorem Summarises.perm {make : κ → List α → β} (h : Summarises key rowKey describes xs rows)
    (h' : Summarises key rowKey describes xs rows')
    (hmade : ∀ row, describes (entries key (rowKey row) xs) row →
      row = make (rowKey row) (entries key (rowKey row) xs)) : rows.Perm rows' := by
  have hincluded : ∀ {as bs : List β}, Summarises key rowKey describes xs as →
      Summarises key rowKey describes xs bs → ∀ row ∈ as, row ∈ bs := by
    intro as bs has hbs row hrow
    obtain ⟨row', hrow', heq, hrowd, hrowd'⟩ := has.both hbs hrow
    have hsame := hmade row' (by rwa [heq])
    rw [heq, ← hmade row hrowd] at hsame
    rwa [← hsame]
  refine (List.perm_ext_iff_of_nodup h.distinct.of_map h'.distinct.of_map).mpr (fun row => ?_)
  exact ⟨hincluded h h' row, hincluded h' h row⟩

/-- The rows of some of the keys count the entries under these. -/
theorem Summarises.sum_counts (h : Summarises key rowKey describes xs rows) (p : κ → Bool) :
    ((rows.filter (fun row => p (rowKey row))).map
        (fun row => (entries key (rowKey row) xs).length)).sum =
      (xs.filter (fun x => p (key x))).length := by
  have hkeys : (rows.filter (fun row => p (rowKey row))).map rowKey =
      (rows.map rowKey).filter p := by
    rw [List.filter_map]
    rfl
  have hperm := flatMap_filter_perm key xs (h.distinct.filter p)
  have hlength := hperm.length_eq
  rw [List.length_flatMap, ← hkeys, List.map_map] at hlength
  refine hlength.trans (congrArg List.length (List.filter_congr (fun x hx => ?_)))
  have hx : key x ∈ rows.map rowKey := (h.keys _).mpr (List.mem_map_of_mem hx)
  rw [hkeys]
  by_cases hp : p (key x) = true
  · simp [hp, List.mem_filter, List.mem_map.mp hx]
  · simp [hp, List.mem_filter]

theorem upsert_of_fresh {new : β} (h : rowKey new ∉ rows.map rowKey) :
    upsert rowKey merge new rows = rows ++ [new] := by
  induction rows with
  | nil => rfl
  | cons row rows ih =>
    rw [List.map_cons, List.mem_cons, not_or] at h
    unfold upsert
    rw [if_neg (Ne.symm h.1), ih h.2, List.cons_append]

/-- Groups of keys that the table does not have are added as they are. -/
theorem foldl_upsert_fresh {make : κ → List α → β} (hmakeKey : ∀ k ys, rowKey (make k ys) = k)
    (gs : List (κ × List α)) (hfresh : (rows.map rowKey ++ gs.map Prod.fst).Nodup) :
    gs.foldl (fun rows g => upsert rowKey merge (make g.1 g.2) rows) rows =
      rows ++ gs.map (fun g => make g.1 g.2) := by
  induction gs generalizing rows with
  | nil => exact (List.append_nil rows).symm
  | cons g gs ih =>
    rw [List.map_cons] at hfresh
    have hnew : rowKey (make g.1 g.2) ∉ rows.map rowKey := by
      rw [hmakeKey]
      intro hin
      exact (List.nodup_append.mp hfresh).2.2 _ hin _ List.mem_cons_self rfl
    rw [List.foldl_cons, upsert_of_fresh hnew, ih, List.append_assoc, List.map_cons,
      List.singleton_append]
    rw [List.map_append, List.map_singleton, hmakeKey, List.append_assoc, List.singleton_append]
    exact hfresh

theorem snd_of_mem_groups {g : κ × List α} (h : g ∈ groups key xs) : g.2 = entries key g.1 xs := by
  obtain ⟨k, -, rfl⟩ := List.mem_map.mp h
  rfl

theorem nodup_keys_groups (key : α → κ) (xs : List α) : ((groups key xs).map Prod.fst).Nodup := by
  unfold groups
  rw [List.map_map]
  have hid : (Prod.fst ∘ fun k => (k, xs.filter (fun x => decide (key x = k)))) = id := rfl
  rw [hid, List.map_id, (List.mergeSort_perm _ _).nodup_iff]
  exact List.nodup_dedup _

end Tables

/-! ## Ranks -/

section Ranks

variable {ys zs : List κ} {n m r : ℕ} {bound : κ}

/-- As many entries as its rank are no greater than the entry of a rank. -/
theorem rank_le_countP (hsorted : ys.Pairwise (· ≤ ·)) (hn : n < ys.length) :
    n + 1 ≤ ys.countP (fun y => decide (y ≤ ys[n])) := by
  have htaken : (ys.take (n + 1)).countP (fun y => decide (y ≤ ys[n])) =
      (ys.take (n + 1)).length := by
    refine List.countP_eq_length.mpr (fun y hy => decide_eq_true ?_)
    obtain ⟨i, hi, rfl⟩ := List.mem_take_iff_getElem.mp hy
    have hin : i ≤ n := by omega
    rcases hin.lt_or_eq with hlt | rfl
    · exact List.pairwise_iff_getElem.mp hsorted i n (by omega) hn hlt
    · exact le_refl _
  have hsplit := congrArg (List.countP (fun y => decide (y ≤ ys[n])))
    (List.take_append_drop (n + 1) ys)
  rw [List.countP_append, htaken, List.length_take] at hsplit
  omega

/-- The entry of a rank is within a bound that as many entries are within. -/
theorem getElem_le_of_countP (hsorted : ys.Pairwise (· ≤ ·)) (hn : n < ys.length)
    (hcount : n + 1 ≤ ys.countP (fun y => decide (y ≤ bound))) : ys[n] ≤ bound := by
  by_contra hover
  have hdropped : (ys.drop n).countP (fun y => decide (y ≤ bound)) = 0 := by
    refine List.countP_eq_zero.mpr (fun y hy hle => hover ?_)
    obtain ⟨i, hi, rfl⟩ := List.mem_drop_iff_getElem.mp hy
    have hbound := of_decide_eq_true hle
    by_cases hzero : i = 0
    · subst hzero
      simpa using hbound
    · exact (List.pairwise_iff_getElem.mp hsorted n (n + i) hn (by omega) (by omega)).trans hbound
  have hsplit := congrArg (List.countP (fun y => decide (y ≤ bound))) (List.take_append_drop n ys)
  have htaken := List.countP_le_length (p := fun y => decide (y ≤ bound)) (l := ys.take n)
  rw [List.countP_append, hdropped, Nat.add_zero] at hsplit
  rw [List.length_take] at htaken
  omega

/-- The entry of a rank in two lists together is within the greater of their own, where their ranks
add up to as much. -/
theorem getElem_sort_append_le (hn : n < (ys.mergeSort (fun a b => decide (a ≤ b))).length)
    (hm : m < (zs.mergeSort (fun a b => decide (a ≤ b))).length)
    (hr : r < ((ys ++ zs).mergeSort (fun a b => decide (a ≤ b))).length)
    (hranks : r + 1 ≤ (n + 1) + (m + 1)) :
    ((ys ++ zs).mergeSort (fun a b => decide (a ≤ b)))[r] ≤
      max (ys.mergeSort (fun a b => decide (a ≤ b)))[n]
        (zs.mergeSort (fun a b => decide (a ≤ b)))[m] := by
  have hsorted : ∀ xs : List κ, (xs.mergeSort (fun a b => decide (a ≤ b))).Pairwise (· ≤ ·) := by
    intro xs
    have hpairwise : (xs.mergeSort (fun a b => decide (a ≤ b))).Pairwise
        (fun a b => decide (a ≤ b) = true) := by
      refine List.pairwise_mergeSort (fun a b c hab hbc => ?_) (fun a b => ?_) xs
      · exact decide_eq_true ((of_decide_eq_true hab).trans (of_decide_eq_true hbc))
      · rcases le_total a b with h | h
        · simp [h]
        · simp [h]
    exact hpairwise.imp of_decide_eq_true
  have hgrown : ∀ {xs : List κ} {i : ℕ} {top : κ}
      (hi : i < (xs.mergeSort (fun a b => decide (a ≤ b))).length),
      (xs.mergeSort (fun a b => decide (a ≤ b)))[i] ≤ top →
        i + 1 ≤ xs.countP (fun x => decide (x ≤ top)) := by
    intro xs i top hi hle
    have hrank := rank_le_countP (hsorted xs) hi
    rw [(List.mergeSort_perm xs _).countP_eq] at hrank
    refine hrank.trans (List.countP_mono_left (fun x _ hx => decide_eq_true ?_))
    exact (of_decide_eq_true hx).trans hle
  refine getElem_le_of_countP (hsorted _) hr ?_
  rw [(List.mergeSort_perm _ _).countP_eq, List.countP_append]
  have hfirst := hgrown hn (le_max_left _ (zs.mergeSort (fun a b => decide (a ≤ b)))[m])
  have hsecond := hgrown hm (le_max_right (ys.mergeSort (fun a b => decide (a ≤ b)))[n] _)
  omega

end Ranks

end Ledger
