import Mathlib.Data.List.Perm.Subperm
import Mathlib.Data.List.ReduceOption
import Mathlib.Order.Bounds.Defs
import Sessiometer.Status.Cohort

/-! # What the grouping says of a fleet -/

namespace Sessiometer.Status

open Keyed (anchoredRuns Anchored cohorts mem_cohorts runOf)

/-- A row's deadline that another row's follows within the window. -/
def Followed (deadlines : List (Option Int64)) (window d : ℤ) : Prop :=
  ∃ (i j : ℕ) (a b : Int64), i ≠ j ∧ deadlines[i]? = some (some a) ∧
    deadlines[j]? = some (some b) ∧ a.toInt = d ∧ d ≤ b.toInt ∧ b.toInt - d ≤ window

/-- The rows of one number, as the deadlines' distances from the earliest of them. -/
def spread (deadlines : List (Option Int64)) (assignment : List (Option UInt32)) (id : UInt32)
    (earliest : ℤ) : Set ℤ :=
  {x | ∃ (i : ℕ) (d : Int64), deadlines[i]? = some (some d) ∧ assignment[i]? = some (some id) ∧
    x = d.toInt - earliest}

/-- The condition describes the group of the rows that carry the earliest deadline. -/
structure Describes (deadlines : List (Option Int64)) (assignment : List (Option UInt32))
    (window : ℤ) (id : UInt32) (c : ExpiryCohort) : Prop where
  anchor : ∃ i : ℕ, deadlines[i]? = some (some c.earliest)
  stamped : ∀ i : ℕ, deadlines[i]? = some (some c.earliest) → assignment[i]? = some (some id)
  size : c.size.toNat = assignment.count (some id)
  observed : c.observed.toNat = deadlines.reduceOption.length
  span : IsGreatest (spread deadlines assignment id c.earliest.toInt) c.spanSecs.toInt
  within : 0 ≤ c.spanSecs.toInt ∧ c.spanSecs.toInt ≤ window

/-- The groups and the condition of a fleet are those of its deadlines. -/
structure Synchronized (deadlines : List (Option Int64)) (window edge : ℤ)
    (assignment : List (Option UInt32)) (condition : Option ExpiryCohort) : Prop where
  length : assignment.length = deadlines.length
  present : ∀ (i : ℕ) id, assignment[i]? = some (some id) → ∃ d, deadlines[i]? = some (some d)
  raised : condition.isSome ↔ ∃ d, Followed deadlines window d ∧ d ≤ edge
  soonest : ∀ c ∈ condition, IsLeast {d | Followed deadlines window d ∧ d ≤ edge} c.earliest.toInt
  described : ∀ c ∈ condition, ∃ id, Describes deadlines assignment window id c
  dense : ∃ n : ℕ, ∀ id : UInt32, some id ∈ assignment ↔ id.toNat < n
  ascending : ∀ (i j : ℕ) d e id later, deadlines[i]? = some (some d) → deadlines[j]? = some (some e) →
    assignment[i]? = some (some id) → assignment[j]? = some (some later) → id < later → d < e
  plural : ∀ id, some id ∈ assignment → 2 ≤ assignment.count (some id)
  equal : ∀ (i j : ℕ) d, deadlines[i]? = some (some d) → deadlines[j]? = some (some d) →
    assignment[i]? = assignment[j]?
  near : ∀ (i j : ℕ) d e id, deadlines[i]? = some (some d) → deadlines[j]? = some (some e) →
    assignment[i]? = some (some id) → assignment[j]? = some (some id) →
      d.toInt - e.toInt ≤ window
  alone : ∀ (i : ℕ) d, deadlines[i]? = some (some d) → assignment[i]? = some none →
    ∀ (j : ℕ) e, j ≠ i → deadlines[j]? = some (some e) →
      ¬(d.toInt ≤ e.toInt ∧ e.toInt ≤ d.toInt + window)

section Facts

variable {deadlines : List (Option Int64)} {window : ℤ} {i j n : ℕ} {d e : Int64} {k : ℤ}

theorem mem_deadlineKeys : k ∈ deadlineKeys deadlines ↔
    ∃ (i : ℕ) (d : Int64), deadlines[i]? = some (some d) ∧ d.toInt = k := by
  rw [← observed_keys, List.mem_map]
  constructor
  · rintro ⟨p, hp, rfl⟩
    exact ⟨p.2, p.1, mem_observed.mp hp, rfl⟩
  · rintro ⟨i, d, hd, rfl⟩
    exact ⟨(d, i), mem_observed.mpr hd, rfl⟩

theorem length_deadlineKeys : (deadlineKeys deadlines).length = deadlines.reduceOption.length := by
  simp [deadlineKeys]

theorem mem_keys_of_mem_cohort {group : List ℤ} (hgroup : group ∈ fleetCohorts deadlines window)
    (hk : k ∈ group) : k ∈ deadlineKeys deadlines := by
  rw [← Keyed.flatten_anchoredRuns id (· + window) (deadlineKeys deadlines)]
  exact List.mem_flatten_of_mem (mem_cohorts.mp hgroup).1 hk

/-- Two rows' deadlines stand in the sorted list one after the other. -/
theorem pair_sublist (hij : i ≠ j) (hi : deadlines[i]? = some (some d))
    (hj : deadlines[j]? = some (some e)) (hde : d.toInt ≤ e.toInt) :
    [d.toInt, e.toInt].Sublist (deadlineKeys deadlines) := by
  have hpair : [(d, i), (e, j)].Subperm (observedDeadlines deadlines) := by
    refine List.subperm_of_subset (by simp [hij]) ?_
    intro p hp
    rcases List.mem_pair.mp hp with rfl | rfl
    · exact mem_observed.mpr hi
    · exact mem_observed.mpr hj
  obtain ⟨l, hperm, hsub⟩ := hpair
  have hsub' := hsub.map deadlineOf
  rw [observed_keys] at hsub'
  exact List.sublist_of_subperm_of_pairwise ⟨_, hperm.map deadlineOf, hsub'⟩ (by simpa using hde)
    (List.pairwise_insertionSort _ _)

theorem grouped_of_followed (hwindow : 0 ≤ window) (h : Followed deadlines window k) :
    ∃ group ∈ fleetCohorts deadlines window, k ∈ group := by
  obtain ⟨i, j, a, b, hij, hi, hj, rfl, hle, hnear⟩ := h
  have hpair := pair_sublist hij hi hj hle
  rw [← Keyed.flatten_anchoredRuns id (· + window) (deadlineKeys deadlines)] at hpair
  exact (deadlineKeys_anchored hwindow).grouped hpair (by omega)

theorem cohort_anchor (hwindow : 0 ≤ window) {group : List ℤ}
    (hgroup : group ∈ fleetCohorts deadlines window) :
    ∃ anchor rest, group = anchor :: rest ∧ Followed deadlines window anchor ∧
      ∀ k ∈ group, anchor ≤ k ∧ k ≤ anchor + window := by
  obtain ⟨anchor, rest, heq, hheld⟩ := (fleetCohorts_anchored hwindow).held group hgroup
  refine ⟨anchor, rest, heq, ?_, hheld⟩
  rw [← map_cohorts_rowGroups] at hgroup
  obtain ⟨g, hg, rfl⟩ := List.mem_map.mp hgroup
  have hg' := mem_cohorts.mp hg
  cases g with
  | nil => simp at heq
  | cons p g =>
    cases g with
    | nil => simp at hg'
    | cons q g =>
      have hp := mem_of_mem_rowGroups hg'.1 (List.mem_cons_self ..)
      have hq := mem_of_mem_rowGroups hg'.1 (List.mem_cons_of_mem _ (List.mem_cons_self ..))
      have hrows := @observed_nodup deadlines
      rw [← Keyed.flatten_anchoredRuns deadlineOf (· + window) (observedDeadlines deadlines),
        List.map_flatten, List.nodup_flatten] at hrows
      have hnodup := hrows.1 _ (List.mem_map_of_mem hg'.1)
      have hpq : p.2 ≠ q.2 := by simp_all
      have hanchor : anchor = p.1.toInt := (List.cons.inj heq).1.symm
      have hheldq : anchor ≤ q.1.toInt ∧ q.1.toInt ≤ anchor + window :=
        hheld q.1.toInt (by simp [deadlineOf])
      exact ⟨p.2, q.2, p.1, q.1, hpq, hp, hq, hanchor.symm, hheldq.1, by omega⟩

theorem length_cohorts (hwindow : 0 ≤ window) :
    (fleetCohorts deadlines window).length ≤ deadlines.length := by
  have hruns := (@deadlineKeys_anchored deadlines window hwindow).length_le
  rw [Keyed.flatten_anchoredRuns, length_deadlineKeys] at hruns
  have hfilter : (fleetCohorts deadlines window).length ≤
      (anchoredRuns id (· + window) (deadlineKeys deadlines)).length :=
    List.length_filter_le _ _
  have hpresent := List.reduceOption_length_le deadlines
  omega

/-- The rows' stamps. -/
def assigned (deadlines : List (Option Int64)) (window : ℤ) : List (Option UInt32) :=
  deadlines.map fun deadline => deadline.bind (stampOf (fleetCohorts deadlines window))

theorem assigned_row (hd : deadlines[i]? = some (some d)) :
    (assigned deadlines window)[i]? = some (stampOf (fleetCohorts deadlines window) d) := by
  simp [assigned, hd]

theorem runOf_lt (hwindow : 0 ≤ window) (hlen : deadlines.length < 4294967296)
    (hrun : runOf (fleetCohorts deadlines window) k = some n) : n < 4294967296 := by
  obtain ⟨group, hgroup, -⟩ := Keyed.mem_of_runOf hrun
  have hn := (List.getElem?_eq_some_iff.mp hgroup).1
  have hle := @length_cohorts deadlines window hwindow
  omega

theorem stampOf_eq_some (hwindow : 0 ≤ window) (hlen : deadlines.length < 4294967296)
    {id : UInt32} : stampOf (fleetCohorts deadlines window) d = some id ↔
      runOf (fleetCohorts deadlines window) d.toInt = some id.toNat := by
  unfold stampOf
  constructor
  · intro h
    obtain ⟨n, hn, rfl⟩ := Option.map_eq_some_iff.mp h
    rw [hn, UInt32.toNat_ofNat_of_lt' (runOf_lt hwindow hlen hn)]
  · intro h
    simp [h]

theorem assigned_eq_some (hwindow : 0 ≤ window) (hlen : deadlines.length < 4294967296)
    {id : UInt32} : (assigned deadlines window)[i]? = some (some id) ↔
      ∃ d, deadlines[i]? = some (some d) ∧
        runOf (fleetCohorts deadlines window) d.toInt = some id.toNat := by
  rw [assigned, List.getElem?_map]
  constructor
  · intro h
    obtain ⟨row, hrow, hid⟩ := Option.map_eq_some_iff.mp h
    obtain ⟨d, rfl, hid⟩ := Option.bind_eq_some_iff.mp hid
    exact ⟨d, hrow, (stampOf_eq_some hwindow hlen).mp hid⟩
  · rintro ⟨d, hd, hrun⟩
    simp [hd, (stampOf_eq_some hwindow hlen).mpr hrun]

theorem mem_assigned (hwindow : 0 ≤ window) (hlen : deadlines.length < 4294967296) {id : UInt32} :
    some id ∈ assigned deadlines window ↔
      id.toNat < (fleetCohorts deadlines window).length := by
  have hanchored := @fleetCohorts_anchored deadlines window hwindow
  rw [List.mem_iff_getElem?]
  constructor
  · rintro ⟨i, hi⟩
    obtain ⟨d, -, hrun⟩ := (assigned_eq_some hwindow hlen).mp hi
    obtain ⟨group, hgroup, -⟩ := Keyed.mem_of_runOf hrun
    exact (List.getElem?_eq_some_iff.mp hgroup).1
  · intro hid
    have hgroup := List.getElem?_eq_getElem hid
    obtain ⟨anchor, rest, heq, -⟩ := cohort_anchor hwindow (List.getElem_mem hid)
    have hmem : anchor ∈ (fleetCohorts deadlines window)[id.toNat] := by simp [heq]
    obtain ⟨i, d, hd, hk⟩ := mem_deadlineKeys.mp (mem_keys_of_mem_cohort (List.getElem_mem hid) hmem)
    refine ⟨i, (assigned_eq_some hwindow hlen).mpr ⟨d, hd, ?_⟩⟩
    exact hanchored.runOf_eq_some.mpr ⟨_, hgroup, hk ▸ hmem⟩

theorem assigned_group (hwindow : 0 ≤ window) (hlen : deadlines.length < 4294967296) {id : UInt32}
    {group : List ℤ} (hgroup : (fleetCohorts deadlines window)[id.toNat]? = some group) :
    (assigned deadlines window)[i]? = some (some id) ↔
      ∃ d, deadlines[i]? = some (some d) ∧ d.toInt ∈ group := by
  simp [assigned_eq_some hwindow hlen, (fleetCohorts_anchored hwindow).runOf_eq_some, hgroup]

/-- A number is carried by as many rows as its group has deadlines. -/
theorem count_assigned (hwindow : 0 ≤ window) (hlen : deadlines.length < 4294967296) {id : UInt32}
    {group : List ℤ} (hgroup : (fleetCohorts deadlines window)[id.toNat]? = some group) :
    (assigned deadlines window).count (some id) = group.length := by
  have hanchored := @fleetCohorts_anchored deadlines window hwindow
  have hmem := (mem_cohorts.mp (List.mem_of_getElem? hgroup)).1
  have hcount := (@deadlineKeys_anchored deadlines window hwindow).count hmem
  have hstamp : ∀ d : Int64, stampOf (fleetCohorts deadlines window) d = some id ↔
      d.toInt ∈ group := by
    intro d
    rw [stampOf_eq_some hwindow hlen, hanchored.runOf_eq_some, hgroup]
    simp
  have hpresent : deadlines.reduceOption = deadlines.filterMap (fun d => d) := rfl
  rw [Keyed.flatten_anchoredRuns, deadlineKeys,
    (List.perm_insertionSort (· ≤ ·) _).countP_eq, List.countP_map, hpresent,
    List.countP_filterMap] at hcount
  rw [← hcount, List.count_eq_countP, assigned, List.countP_map]
  congr 1
  funext deadline
  cases deadline with
  | none => rfl
  | some d =>
    rw [Bool.eq_iff_iff]
    simpa using hstamp d

/-- A group that the horizon reaches. -/
def reached (edge : ℤ) (group : List ℤ) : Bool := group.head?.any fun anchor => decide (anchor ≤ edge)

variable {edge : ℤ}

theorem reached_of_followed (hwindow : 0 ≤ window) (h : Followed deadlines window k)
    (hk : k ≤ edge) : ∃ group ∈ fleetCohorts deadlines window, k ∈ group ∧ reached edge group := by
  obtain ⟨group, hgroup, hmem⟩ := grouped_of_followed hwindow h
  obtain ⟨anchor, rest, rfl, -, hheld⟩ := cohort_anchor hwindow hgroup
  have hle := (hheld k hmem).1
  exact ⟨_, hgroup, hmem, by simp [reached]; omega⟩

theorem exists_reached_iff (hwindow : 0 ≤ window) :
    (∃ group ∈ fleetCohorts deadlines window, reached edge group) ↔
      ∃ d, Followed deadlines window d ∧ d ≤ edge := by
  constructor
  · rintro ⟨group, hgroup, hreached⟩
    obtain ⟨anchor, rest, rfl, hfollowed, -⟩ := cohort_anchor hwindow hgroup
    exact ⟨anchor, hfollowed, by simpa [reached] using hreached⟩
  · rintro ⟨d, hfollowed, hd⟩
    obtain ⟨group, hgroup, -, hreached⟩ := reached_of_followed hwindow hfollowed hd
    exact ⟨group, hgroup, hreached⟩

/-- The first group that the horizon reaches is the first of all. -/
theorem find_reached (hwindow : 0 ≤ window) {group : List ℤ}
    (hfind : (fleetCohorts deadlines window).find? (reached edge) = some group) :
    (fleetCohorts deadlines window)[0]? = some group := by
  have hanchored := @fleetCohorts_anchored deadlines window hwindow
  obtain ⟨hreached, n, hn, heq, hbefore⟩ := List.find?_eq_some_iff_getElem.mp hfind
  cases n with
  | zero =>
    rw [← heq]
    exact List.getElem?_eq_getElem hn
  | succ n =>
    have h0 : 0 < (fleetCohorts deadlines window).length := by omega
    have hlt := List.pairwise_iff_getElem.mp hanchored.ascending 0 (n + 1) h0 hn (by omega)
    obtain ⟨anchor, rest, hgroup, -⟩ := cohort_anchor hwindow (List.getElem_mem hn)
    obtain ⟨first, others, hfirst, -⟩ := cohort_anchor hwindow (List.getElem_mem h0)
    have hfirst' := hlt first (by simp [hfirst]) anchor (by simp [hgroup])
    have hunreached := hbefore 0 (by omega)
    rw [← heq, hgroup] at hreached
    rw [hfirst] at hunreached
    simp only [reached, List.head?_cons, Option.any_some, decide_eq_true_eq, Bool.not_eq_true',
      decide_eq_false_iff_not] at hreached hunreached
    omega

theorem find_soonest (hwindow : 0 ≤ window) {anchor : ℤ} {rest : List ℤ}
    (hfind : (fleetCohorts deadlines window).find? (reached edge) = some (anchor :: rest)) :
    IsLeast {d | Followed deadlines window d ∧ d ≤ edge} anchor := by
  have hanchored := @fleetCohorts_anchored deadlines window hwindow
  have hfirst := find_reached hwindow hfind
  obtain ⟨anchor', rest', heq, hfollowed, hheld⟩ :=
    cohort_anchor hwindow (List.mem_of_find?_eq_some hfind)
  obtain ⟨rfl, rfl⟩ := List.cons.inj heq
  have hreached := List.find?_some hfind
  refine ⟨⟨hfollowed, by simpa [reached] using hreached⟩, ?_⟩
  rintro d ⟨hd, -⟩
  obtain ⟨group, hgroup, hmem⟩ := grouped_of_followed hwindow hd
  obtain ⟨n, hn, rfl⟩ := List.mem_iff_getElem.mp hgroup
  cases n with
  | zero =>
    rw [List.getElem?_eq_getElem hn] at hfirst
    exact (hheld d (Option.some.inj hfirst ▸ hmem)).1
  | succ n =>
    obtain ⟨h0, hzero⟩ := List.getElem?_eq_some_iff.mp hfirst
    have hlt := List.pairwise_iff_getElem.mp hanchored.ascending 0 (n + 1) h0 hn (by omega)
    exact (hlt anchor (by simp [hzero]) d hmem).le

theorem cohort_sorted {group : List ℤ} (hgroup : group ∈ fleetCohorts deadlines window) :
    group.Pairwise (· ≤ ·) := by
  have hsorted : (deadlineKeys deadlines).Pairwise (· ≤ ·) := List.pairwise_insertionSort _ _
  rw [← Keyed.flatten_anchoredRuns id (· + window) (deadlineKeys deadlines),
    List.pairwise_flatten] at hsorted
  exact hsorted.1 group (mem_cohorts.mp hgroup).1

/-- The rows at both ends of a group. -/
theorem cohort_ends (hwindow : 0 ≤ window) {group : List ℤ}
    (hgroup : group ∈ fleetCohorts deadlines window) :
    ∃ (i j : ℕ) (d e : Int64), deadlines[i]? = some (some d) ∧ deadlines[j]? = some (some e) ∧
      group.head? = some d.toInt ∧ group.getLast? = some e.toInt ∧ e.toInt ≤ d.toInt + window ∧
        ∀ k ∈ group, d.toInt ≤ k ∧ k ≤ e.toInt := by
  have hsorted := cohort_sorted hgroup
  obtain ⟨anchor, rest, rfl, -, hheld⟩ := cohort_anchor hwindow hgroup
  have hlatest := List.getLast_mem (List.cons_ne_nil anchor rest)
  obtain ⟨i, d, hd, rfl⟩ := mem_deadlineKeys.mp
    (mem_keys_of_mem_cohort hgroup (List.mem_cons_self ..))
  obtain ⟨j, e, he, hlast⟩ := mem_deadlineKeys.mp (mem_keys_of_mem_cohort hgroup hlatest)
  refine ⟨i, j, d, e, hd, he, rfl, ?_, hlast ▸ (hheld _ hlatest).2, ?_⟩
  · rw [List.getLast?_eq_some_getLast (List.cons_ne_nil _ _), hlast]
  · intro k hk
    refine ⟨(hheld k hk).1, ?_⟩
    rw [hlast]
    exact hsorted.rel_getLast hk

theorem described_eq {observed : ℕ} {group : List ℤ} (hhead : group.head? = some d.toInt)
    (hlast : group.getLast? = some e.toInt) :
    described observed group = some
      { size := UInt32.ofNatClamp group.length, observed := UInt32.ofNatClamp observed,
        earliest := d, spanSecs := saturating (e.toInt - d.toInt) } := by
  simp [described, hhead, hlast]

/-- What is described is the first group. -/
theorem described_describes (hwindow : 0 ≤ window) (hfits : window ≤ 9223372036854775807)
    (hlen : deadlines.length < 4294967296) {group : List ℤ} {c : ExpiryCohort}
    (hgroup : (fleetCohorts deadlines window)[0]? = some group)
    (hc : described deadlines.reduceOption.length group = some c) :
    group.head? = some c.earliest.toInt ∧
      Describes deadlines (assigned deadlines window) window 0 c := by
  have hgroup' : (fleetCohorts deadlines window)[(0 : UInt32).toNat]? = some group := hgroup
  have hrows := fun i => @assigned_group deadlines window i hwindow hlen 0 group hgroup'
  have hcount := count_assigned hwindow hlen hgroup'
  obtain ⟨i, j, d, e, hd, he, hhead, hlast, hnear, hends⟩ :=
    cohort_ends hwindow (List.mem_of_getElem? hgroup)
  have hmem : d.toInt ∈ group := List.mem_of_head? hhead
  have hmem' : e.toInt ∈ group := List.mem_of_getLast? hlast
  have hle := (hends d.toInt hmem).2
  have hspan : (saturating (e.toInt - d.toInt)).toInt = e.toInt - d.toInt := by
    rw [toInt_saturating, Framing.saturatedI64_of_fits]
    unfold Framing.FitsI64
    omega
  have hsize : group.length < 4294967296 := by
    have h := @List.count_le_length _ _ (some (0 : UInt32)) (assigned deadlines window)
    rw [hcount, assigned, List.length_map] at h
    omega
  have hobserved : deadlines.reduceOption.length < 4294967296 := by
    have h := List.reduceOption_length_le deadlines
    omega
  rw [described_eq hhead hlast] at hc
  obtain rfl := Option.some.inj hc
  refine ⟨hhead, ⟨i, hd⟩, ?_, ?_, ?_, ?_, ?_⟩
  · intro i' hi'
    exact (hrows i').mpr ⟨d, hi', hmem⟩
  · rw [hcount]
    exact UInt32.toNat_ofNatClamp_of_lt hsize
  · exact UInt32.toNat_ofNatClamp_of_lt hobserved
  · dsimp only
    rw [hspan]
    constructor
    · exact ⟨j, e, he, (hrows j).mpr ⟨e, he, hmem'⟩, rfl⟩
    · rintro x ⟨i', d', hd', hstamp, rfl⟩
      obtain ⟨d'', hd'', hmem''⟩ := (hrows i').mp hstamp
      obtain rfl : d' = d'' := by simpa [hd'] using hd''
      have := (hends d'.toInt hmem'').2
      omega
  · dsimp only
    omega

/-- The condition that a fleet raises. -/
def raisedBy (deadlines : List (Option Int64)) (window edge : ℤ) : Option ExpiryCohort :=
  ((fleetCohorts deadlines window).find? (reached edge)).bind
    (described deadlines.reduceOption.length)

theorem raisedBy_isSome (hwindow : 0 ≤ window) : (raisedBy deadlines window edge).isSome ↔
    ∃ d, Followed deadlines window d ∧ d ≤ edge := by
  rw [← exists_reached_iff hwindow, ← List.find?_isSome, Option.isSome_iff_exists,
    Option.isSome_iff_exists]
  constructor
  · rintro ⟨c, hc⟩
    obtain ⟨group, hgroup, -⟩ := Option.bind_eq_some_iff.mp hc
    exact ⟨group, hgroup⟩
  · rintro ⟨group, hgroup⟩
    obtain ⟨i, j, d, e, -, -, hhead, hlast, -⟩ :=
      cohort_ends hwindow (List.mem_of_find?_eq_some hgroup)
    exact ⟨_, Option.bind_eq_some_iff.mpr ⟨group, hgroup, described_eq hhead hlast⟩⟩

theorem raisedBy_eq_some (hwindow : 0 ≤ window) (hfits : window ≤ 9223372036854775807)
    (hlen : deadlines.length < 4294967296) {c : ExpiryCohort}
    (hc : raisedBy deadlines window edge = some c) :
    IsLeast {d | Followed deadlines window d ∧ d ≤ edge} c.earliest.toInt ∧
      Describes deadlines (assigned deadlines window) window 0 c := by
  obtain ⟨group, hfind, hc⟩ := Option.bind_eq_some_iff.mp hc
  obtain ⟨hhead, hdescribes⟩ :=
    described_describes hwindow hfits hlen (find_reached hwindow hfind) hc
  refine ⟨?_, hdescribes⟩
  cases group with
  | nil => simp at hhead
  | cons anchor rest =>
    obtain rfl : anchor = c.earliest.toInt := by simpa using hhead
    exact find_soonest hwindow hfind

theorem assigned_synchronized (hwindow : 0 ≤ window) (hfits : window ≤ 9223372036854775807)
    (hlen : deadlines.length < 4294967296) :
    Synchronized deadlines window edge (assigned deadlines window)
      (raisedBy deadlines window edge) := by
  have hanchored := @fleetCohorts_anchored deadlines window hwindow
  have hrun : ∀ {i : ℕ} {d : Int64} {id : UInt32}, deadlines[i]? = some (some d) →
      (assigned deadlines window)[i]? = some (some id) →
        runOf (fleetCohorts deadlines window) d.toInt = some id.toNat := by
    intro i d id hd hid
    obtain ⟨d', hd', hrun⟩ := (assigned_eq_some hwindow hlen).mp hid
    obtain rfl : d = d' := by simpa [hd] using hd'
    exact hrun
  constructor
  · simp [assigned]
  · intro i id hid
    obtain ⟨d, hd, -⟩ := (assigned_eq_some hwindow hlen).mp hid
    exact ⟨d, hd⟩
  · exact raisedBy_isSome hwindow
  · intro c hc
    exact (raisedBy_eq_some hwindow hfits hlen hc).1
  · intro c hc
    exact ⟨0, (raisedBy_eq_some hwindow hfits hlen hc).2⟩
  · exact ⟨_, fun id => mem_assigned hwindow hlen⟩
  · intro i j d e id later hd he hid hlater hlt
    exact Int64.lt_iff_toInt_lt.mpr (hanchored.lt_of_runOf (hrun hd hid) (hrun he hlater)
      (UInt32.lt_iff_toNat_lt.mp hlt))
  · intro id hid
    have hgroup := List.getElem?_eq_getElem ((mem_assigned hwindow hlen).mp hid)
    rw [count_assigned hwindow hlen hgroup]
    exact (mem_cohorts.mp (List.mem_of_getElem? hgroup)).2
  · intro i j d hi hj
    rw [assigned_row hi, assigned_row hj]
  · intro i j d e id hd he hid hid'
    obtain ⟨group, hgroup, hmem⟩ := Keyed.mem_of_runOf (hrun hd hid)
    obtain ⟨group', hgroup', hmem'⟩ := Keyed.mem_of_runOf (hrun he hid')
    obtain rfl : group = group' := by simpa [hgroup] using hgroup'
    obtain ⟨anchor, rest, -, hheld⟩ := hanchored.held group (List.mem_of_getElem? hgroup)
    have h := (hheld _ hmem).2
    have h' := (hheld _ hmem').1
    dsimp only at h
    omega
  · rintro i d hd hnone j e hij he ⟨hle, hnear⟩
    have hfollowed : Followed deadlines window d.toInt :=
      ⟨i, j, d, e, Ne.symm hij, hd, he, rfl, hle, by omega⟩
    obtain ⟨group, hgroup, hmem⟩ := grouped_of_followed hwindow hfollowed
    rw [assigned_row hd, stampOf] at hnone
    have hungrouped := Option.map_eq_none_iff.mp (Option.some.inj hnone)
    exact Keyed.runOf_eq_none.mp hungrouped group hgroup hmem

end Facts

theorem saturating_natCast_le (n : ℕ) : (saturating n).toInt ≤ 9223372036854775807 := by
  have h := (saturating n).toInt_lt
  omega

theorem deadlineKeys_perm {deadlines others : List (Option Int64)}
    (h : others.reduceOption.Perm deadlines.reduceOption) :
    deadlineKeys others = deadlineKeys deadlines :=
  (((List.perm_insertionSort _ _).trans (h.map Int64.toInt)).trans
    (List.perm_insertionSort _ _).symm).eq_of_pairwise' (List.pairwise_insertionSort _ _)
      (List.pairwise_insertionSort _ _)

/-- The groups and the condition are those of the deadlines, and neither the order of the accounts
nor the unobserved ones have a say in them. -/
theorem expiryCohorts_synchronized (deadlines : List (Option Int64))
    (hlen : deadlines.length < 4294967296) (windowSecs horizonSecs : UInt64) (nowSecs : Int64) :
    Synchronized deadlines (saturating windowSecs.toNat).toInt
      (horizonEdge nowSecs horizonSecs).toInt
        (expiryCohorts deadlines windowSecs horizonSecs nowSecs).1
        (expiryCohorts deadlines windowSecs horizonSecs nowSecs).2 ∧
    ∃ stamp : Int64 → Option UInt32, ∀ others : List (Option Int64),
      others.reduceOption.Perm deadlines.reduceOption →
        expiryCohorts others windowSecs horizonSecs nowSecs =
          (others.map fun deadline => deadline.bind stamp,
            (expiryCohorts deadlines windowSecs horizonSecs nowSecs).2) := by
  constructor
  · rw [expiryCohorts_eq]
    exact assigned_synchronized (saturating_natCast_nonneg _) (saturating_natCast_le _) hlen
  · refine ⟨stampOf (fleetCohorts deadlines (saturating windowSecs.toNat).toInt), ?_⟩
    intro others hperm
    simp only [expiryCohorts_eq, fleetCohorts, deadlineKeys_perm hperm, hperm.length_eq]

theorem pair_synchronized :
    ([some 100, none, some 160] : List (Option Int64)).length < 4294967296 ∧
      Synchronized [some 100, none, some 160] (saturating (60 : UInt64).toNat).toInt
        (horizonEdge 0 3600).toInt (expiryCohorts [some 100, none, some 160] 60 3600 0).1
          (expiryCohorts [some 100, none, some 160] 60 3600 0).2 :=
  ⟨by decide, (expiryCohorts_synchronized [some 100, none, some 160] (by decide) 60 3600 0).1⟩

/-- A fleet of one deadline is told whole only as far as the count's word reaches. -/
theorem lt_of_synchronized_replicate {n : ℕ} (hn : 2 ≤ n) {window edge : ℤ} (hwindow : 0 ≤ window)
    (hedge : 0 ≤ edge) {assignment : List (Option UInt32)} {condition : Option ExpiryCohort}
    (h : Synchronized (List.replicate n (some 0)) window edge assignment condition) :
    n < 4294967296 := by
  have hrow : ∀ i < n, (List.replicate n (some (0 : Int64)))[i]? = some (some 0) := by
    intro i hi
    rw [List.getElem?_replicate, if_pos hi]
  have hfollowed : Followed (List.replicate n (some 0)) window 0 :=
    ⟨0, 1, 0, 0, by omega, hrow 0 (by omega), hrow 1 (by omega), rfl, le_refl 0, by simpa⟩
  obtain ⟨c, hc⟩ := Option.isSome_iff_exists.mp (h.raised.mpr ⟨0, hfollowed, hedge⟩)
  obtain ⟨id, hdescribes⟩ := h.described c hc
  obtain ⟨i, hi⟩ := hdescribes.anchor
  have hearliest : c.earliest = 0 := by
    have hmem := List.mem_of_getElem? hi
    simpa using (List.mem_replicate.mp hmem).2
  have hlength : assignment.length = n := by simpa using h.length
  have hall : assignment = List.replicate n (some id) := by
    refine List.eq_replicate_iff.mpr ⟨hlength, ?_⟩
    intro x hx
    obtain ⟨i, hi, rfl⟩ := List.mem_iff_getElem.mp hx
    have hstamped := hdescribes.stamped i (hearliest ▸ hrow i (by omega))
    rw [List.getElem?_eq_getElem hi] at hstamped
    exact Option.some.inj hstamped
  have hsize := hdescribes.size
  rw [hall, List.count_replicate_self] at hsize
  have := c.size.toNat_lt
  omega

/-- The size of a group of 2^32 accounts is cut to the largest word. -/
theorem size_saturates : ¬ ∀ (deadlines : List (Option Int64)) (windowSecs horizonSecs : UInt64)
    (nowSecs : Int64), Synchronized deadlines (saturating windowSecs.toNat).toInt
      (horizonEdge nowSecs horizonSecs).toInt
        (expiryCohorts deadlines windowSecs horizonSecs nowSecs).1
        (expiryCohorts deadlines windowSecs horizonSecs nowSecs).2 := by
  intro h
  have hlt := lt_of_synchronized_replicate (by omega) (by decide) (by decide)
    (h (List.replicate 4294967296 (some 0)) 0 0 0)
  omega

end Sessiometer.Status
