import Mathlib.Order.Lattice
import Mathlib.Order.Monotone.Defs
import Mathlib.Data.List.Basic
import Mathlib.Data.List.Pairwise
import Mathlib.Data.List.TakeWhile

/-! # Anchored runs

A sorted list cut greedily: the first key of a run reaches up to some later key, and what it reaches
is its run. -/

namespace Keyed

universe u v

variable {α : Type u} {κ : Type v}

/-- The runs of two elements or more. -/
def cohorts (runs : List (List α)) : List (List α) := runs.filter fun run => decide (2 ≤ run.length)

@[simp] theorem mem_cohorts {runs : List (List α)} {run : List α} :
    run ∈ cohorts runs ↔ run ∈ runs ∧ 2 ≤ run.length := by
  simp [cohorts]

theorem cohorts_map (key : α → κ) (runs : List (List α)) :
    cohorts (runs.map (List.map key)) = (cohorts runs).map (List.map key) := by
  simp [cohorts, List.filter_map, Function.comp_def]

variable [LinearOrder κ]

/-- The runs of a list, each of the elements that its first element's key reaches. -/
def anchoredRuns (key : α → κ) (reach : κ → κ) : List α → List (List α)
  | [] => []
  | x :: xs =>
    (x :: xs.takeWhile fun y => decide (key y ≤ reach (key x))) ::
      anchoredRuns key reach (xs.dropWhile fun y => decide (key y ≤ reach (key x)))
termination_by xs => xs.length
decreasing_by
  have h := (List.dropWhile_sublist (fun y => decide (key y ≤ reach (key x))) (l := xs)).length_le
  simp only [List.length_cons]
  omega

/-- A run within the reach of its first key, which is its least. -/
def Held (reach : κ → κ) (run : List κ) : Prop :=
  ∃ anchor rest, run = anchor :: rest ∧ ∀ k ∈ run, anchor ≤ k ∧ k ≤ reach anchor

/-- Runs each held by its first key, which reaches no key of a later run. -/
structure Anchored (reach : κ → κ) (runs : List (List κ)) : Prop where
  held : ∀ run ∈ runs, Held reach run
  beyond : runs.Pairwise fun run later => ∀ anchor ∈ run.head?, ∀ k ∈ later, reach anchor < k

section Runs

variable (key : α → κ) (reach : κ → κ)

theorem anchoredRuns_cons (x : α) (xs : List α) :
    anchoredRuns key reach (x :: xs) =
      (x :: xs.takeWhile fun y => decide (key y ≤ reach (key x))) ::
        anchoredRuns key reach (xs.dropWhile fun y => decide (key y ≤ reach (key x))) := by
  rw [anchoredRuns]

theorem flatten_anchoredRuns (xs : List α) : (anchoredRuns key reach xs).flatten = xs := by
  fun_induction anchoredRuns key reach xs with
  | case1 => rfl
  | case2 x xs ih =>
    rw [List.flatten_cons, ih, List.cons_append, List.takeWhile_append_dropWhile]

theorem map_anchoredRuns (xs : List α) :
    (anchoredRuns key reach xs).map (List.map key) = anchoredRuns id reach (xs.map key) := by
  fun_induction anchoredRuns key reach xs with
  | case1 => simp [anchoredRuns]
  | case2 x xs ih =>
    rw [List.map_cons, List.map_cons, ih, List.map_cons, anchoredRuns_cons, List.takeWhile_map,
      List.dropWhile_map]
    rfl

theorem lt_of_mem_dropWhile {ks : List κ} {bound k : κ} (hks : ks.Pairwise (· ≤ ·))
    (hk : k ∈ ks.dropWhile fun y => decide (y ≤ bound)) : bound < k := by
  induction ks with
  | nil => cases hk
  | cons a ks ih =>
    by_cases ha : a ≤ bound
    · rw [List.dropWhile_cons, if_pos (by simpa using ha)] at hk
      exact ih (List.pairwise_cons.mp hks).2 hk
    · have ha' : bound < a := not_le.mp ha
      rw [List.dropWhile_cons, if_neg (by simpa using ha')] at hk
      rcases List.mem_cons.mp hk with rfl | hk
      · exact ha'
      · exact lt_of_lt_of_le ha' ((List.pairwise_cons.mp hks).1 k hk)

theorem anchored_of_sorted {ks : List κ} (hks : ks.Pairwise (· ≤ ·))
    (hreach : ∀ k, k ≤ reach k) : Anchored reach (anchoredRuns id reach ks) := by
  fun_induction anchoredRuns id reach ks with
  | case1 => exact ⟨by simp, .nil⟩
  | case2 x xs ih =>
    have hx : ∀ k ∈ xs, x ≤ k := (List.pairwise_cons.mp hks).1
    have hxs : xs.Pairwise (· ≤ ·) := (List.pairwise_cons.mp hks).2
    have hrest := ih (hxs.sublist (List.dropWhile_sublist _))
    constructor
    · intro run hrun
      rcases List.mem_cons.mp hrun with rfl | hrun
      · refine ⟨x, _, rfl, ?_⟩
        intro k hk
        rcases List.mem_cons.mp hk with rfl | hk
        · exact ⟨le_refl _, hreach _⟩
        · have hreached := List.mem_takeWhile_imp hk
          exact ⟨hx k ((List.takeWhile_sublist _).subset hk), of_decide_eq_true hreached⟩
      · exact hrest.held run hrun
    · refine List.pairwise_cons.mpr ⟨?_, hrest.beyond⟩
      intro later hlater anchor hanchor k hk
      have hkey : anchor = x := by simpa using hanchor.symm
      have hmem : k ∈ xs.dropWhile fun y => decide (y ≤ reach x) := by
        have hflat := flatten_anchoredRuns id reach (xs.dropWhile fun y => decide (y ≤ reach x))
        rw [← hflat]
        exact List.mem_flatten_of_mem hlater hk
      rw [hkey]
      exact lt_of_mem_dropWhile hxs hmem

end Runs

section Anchored

variable {reach : κ → κ} {runs : List (List κ)}

theorem Held.ne_nil {run : List κ} (h : Held reach run) : run ≠ [] := by
  obtain ⟨anchor, rest, rfl, -⟩ := h
  simp

/-- Two keys of one run reach each other. -/
theorem Held.near {run : List κ} (h : Held reach run) (hmono : Monotone reach) {j k : κ}
    (hj : j ∈ run) (hk : k ∈ run) : k ≤ reach j := by
  obtain ⟨anchor, rest, -, hheld⟩ := h
  exact (hheld k hk).2.trans (hmono (hheld j hj).1)

theorem Anchored.ascending (h : Anchored reach runs) :
    runs.Pairwise fun run later => ∀ j ∈ run, ∀ k ∈ later, j < k := by
  refine h.beyond.imp_of_mem ?_
  intro run later hrun _ hbeyond j hj k hk
  obtain ⟨anchor, rest, rfl, hheld⟩ := h.held run hrun
  exact lt_of_le_of_lt (hheld j hj).2 (hbeyond anchor rfl k hk)

theorem Anchored.length_le (h : Anchored reach runs) : runs.length ≤ runs.flatten.length := by
  induction runs with
  | nil => simp
  | cons r runs ih =>
    have hrest := ih ⟨fun run hrun => h.held run (List.mem_cons_of_mem _ hrun),
      (List.pairwise_cons.mp h.beyond).2⟩
    have hne := List.length_pos_iff.mpr (h.held r (List.mem_cons_self ..)).ne_nil
    rw [List.flatten_cons, List.length_append, List.length_cons]
    omega

theorem Anchored.sublist {runs' : List (List κ)} (h : Anchored reach runs)
    (hsub : runs'.Sublist runs) : Anchored reach runs' :=
  ⟨fun run hrun => h.held run (hsub.subset hrun), h.beyond.sublist hsub⟩

theorem Anchored.cohorts (h : Anchored reach runs) : Anchored reach (cohorts runs) :=
  h.sublist List.filter_sublist

theorem Anchored.eq_of_mem (h : Anchored reach runs) {run run' : List κ} {k : κ}
    (hrun : run ∈ runs) (hrun' : run' ∈ runs) (hk : k ∈ run) (hk' : k ∈ run') : run = run' := by
  have hsame : runs.Pairwise fun run run' => ∀ j ∈ run, j ∈ run' → run = run' := by
    refine h.ascending.imp ?_
    intro run later hlt j hj hj'
    exact absurd (hlt j hj j hj') (lt_irrefl j)
  have : Std.Symm fun run run' : List κ => ∀ j ∈ run, j ∈ run' → run = run' :=
    ⟨fun _ _ hsep j hj hj' => (hsep j hj' hj).symm⟩
  exact hsame.forall_of_forall (fun _ _ _ _ _ => rfl) hrun hrun' k hk hk'

theorem Anchored.count (h : Anchored reach runs) {run : List κ} (hrun : run ∈ runs) :
    runs.flatten.countP (fun k => decide (k ∈ run)) = run.length := by
  induction runs with
  | nil => cases hrun
  | cons r runs ih =>
    have hrest : Anchored reach runs := h.sublist (List.sublist_cons_self _ _)
    have hlt := (List.pairwise_cons.mp h.ascending).1
    rw [List.flatten_cons, List.countP_append]
    rcases List.mem_cons.mp hrun with rfl | hlater
    · have hall : run.countP (fun k => decide (k ∈ run)) = run.length :=
        List.countP_eq_length.mpr fun k hk => by simpa using hk
      have hnone : runs.flatten.countP (fun k => decide (k ∈ run)) = 0 := by
        refine List.countP_eq_zero.mpr ?_
        intro k hk hmem
        obtain ⟨later, hlater, hk⟩ := List.mem_flatten.mp hk
        exact lt_irrefl k (hlt later hlater k (by simpa using hmem) k hk)
      omega
    · have hnone : r.countP (fun k => decide (k ∈ run)) = 0 := by
        refine List.countP_eq_zero.mpr ?_
        intro k hk hmem
        exact lt_irrefl k (hlt run hlater k hk k (by simpa using hmem))
      have := ih hrest hlater
      omega

/-- A key that reaches another in the list is in a cohort. -/
theorem Anchored.grouped (h : Anchored reach runs) {j k : κ} (hpair : [j, k].Sublist runs.flatten)
    (hreach : k ≤ reach j) : ∃ run ∈ Keyed.cohorts runs, j ∈ run := by
  induction runs with
  | nil => simp at hpair
  | cons r runs ih =>
    have hrest : Anchored reach runs := h.sublist (List.sublist_cons_self _ _)
    rw [List.flatten_cons] at hpair
    obtain ⟨front, back, hjk, hfront, hback⟩ := List.sublist_append_iff.mp hpair
    cases front with
    | nil =>
      obtain ⟨run, hrun, hj⟩ := ih hrest (by simpa [hjk] using hback)
      have hrun' := mem_cohorts.mp hrun
      exact ⟨run, mem_cohorts.mpr ⟨List.mem_cons_of_mem _ hrun'.1, hrun'.2⟩, hj⟩
    | cons a front =>
      obtain ⟨rfl, htail⟩ := List.cons.inj hjk
      have hj : j ∈ r := hfront.subset (List.mem_cons_self ..)
      refine ⟨r, mem_cohorts.mpr ⟨List.mem_cons_self .., ?_⟩, hj⟩
      cases front with
      | cons b front => exact hfront.length_le.trans' (by simp)
      | nil =>
        have hk : k ∈ back := by
          rw [← show [k] = back from htail]
          exact List.mem_singleton_self k
        have hk : k ∈ runs.flatten := hback.subset hk
        obtain ⟨later, hlater, hk⟩ := List.mem_flatten.mp hk
        obtain ⟨anchor, rest, rfl, hheld⟩ := h.held r (List.mem_cons_self ..)
        have hbeyond := (List.pairwise_cons.mp h.beyond).1 later hlater anchor rfl k hk
        cases rest with
        | cons b rest => simp
        | nil =>
          obtain rfl : j = anchor := by simpa using hj
          exact absurd hreach (not_le.mpr hbeyond)

end Anchored

/-! ## The run a key is in -/

/-- The position of the run that holds a key. -/
def runOf (runs : List (List κ)) (k : κ) : Option ℕ := runs.findIdx? fun run => decide (k ∈ run)

section RunOf

variable {reach : κ → κ} {runs : List (List κ)} {j k : κ} {m n : ℕ}

theorem runOf_eq_none : runOf runs k = none ↔ ∀ run ∈ runs, k ∉ run := by
  simp [runOf, List.findIdx?_eq_none_iff]

theorem mem_of_runOf (h : runOf runs k = some n) : ∃ run, runs[n]? = some run ∧ k ∈ run := by
  obtain ⟨hn, hk, -⟩ := List.findIdx?_eq_some_iff_getElem.mp h
  exact ⟨runs[n], List.getElem?_eq_getElem hn, of_decide_eq_true hk⟩

theorem Anchored.runOf_eq_some (h : Anchored reach runs) :
    runOf runs k = some n ↔ ∃ run, runs[n]? = some run ∧ k ∈ run := by
  constructor
  · exact mem_of_runOf
  · rintro ⟨run, hrun, hk⟩
    obtain ⟨hn, rfl⟩ := List.getElem?_eq_some_iff.mp hrun
    refine List.findIdx?_eq_some_iff_getElem.mpr ⟨hn, decide_eq_true hk, ?_⟩
    intro m hm
    have hlt := List.pairwise_iff_getElem.mp h.ascending m n (by omega) hn hm
    simpa using fun hkm => lt_irrefl k (hlt k hkm k hk)

theorem Anchored.lt_of_runOf (h : Anchored reach runs) (hj : runOf runs j = some m)
    (hk : runOf runs k = some n) (hmn : m < n) : j < k := by
  obtain ⟨run, hrun, hj⟩ := mem_of_runOf hj
  obtain ⟨later, hlater, hk⟩ := mem_of_runOf hk
  obtain ⟨hm, rfl⟩ := List.getElem?_eq_some_iff.mp hrun
  obtain ⟨hn, rfl⟩ := List.getElem?_eq_some_iff.mp hlater
  exact List.pairwise_iff_getElem.mp h.ascending m n hm hn hmn j hj k hk

end RunOf

end Keyed
