import Mathlib.Data.List.Sort
import Sessiometer.Framing.Word64
import Sessiometer.Keyed.Anchored
import Sessiometer.Status.Snapshot

/-! # Synchronized expiry

The grouping of the accounts whose deadlines fall within one window, and the condition that the
soonest such group raises. -/

namespace Sessiometer.Status

open Framing (FitsI64 saturatedI64 saturatedI64_of_fits)
open Keyed (anchoredRuns Anchored cohorts mem_cohorts runOf)

/-- A word where the integer fits, its nearer limit where it does not. -/
def saturating (x : ℤ) : Int64 := Int64.ofInt (saturatedI64 x)

def horizonEdge (nowSecs : Int64) (horizonSecs : UInt64) : Int64 :=
  saturating (nowSecs.toInt + (saturating horizonSecs.toNat).toInt)

/-- What the walk over the sorted deadlines keeps. -/
structure CohortWalk where
  assignment : List (Option UInt32)
  condition : Option ExpiryCohort
  nextId : UInt32

/-- The deadlines that were observed, each with the row it is of, the soonest first. -/
def observedDeadlines (deadlines : List (Option Int64)) : List (Int64 × ℕ) :=
  (deadlines.zipIdx.filterMap fun row => row.1.map fun deadline => (deadline, row.2)).insertionSort
    fun p q => p.1 < q.1 ∨ p.1 = q.1 ∧ p.2 ≤ q.2

def stampRows (id : UInt32) (group : List (Int64 × ℕ)) (assignment : List (Option UInt32)) :
    List (Option UInt32) :=
  group.foldl (fun rows p => rows.set p.2 (some id)) assignment

/-- The candidate that a group is for the condition. -/
def candidate (observed : ℕ) (anchor : Int64) (group : List (Int64 × ℕ)) : ExpiryCohort :=
  let latest := (group.getLast?.map Prod.fst).getD anchor
  { size := UInt32.ofNatClamp group.length
    observed := UInt32.ofNatClamp observed
    earliest := anchor
    spanSecs := saturating (latest.toInt - anchor.toInt) }

/-- One turn of the walk, once the group of an anchor is known. -/
def settleGroup (observed : ℕ) (edge : Int64) (anchor : Int64) (group : List (Int64 × ℕ))
    (w : CohortWalk) : CohortWalk :=
  if 2 ≤ group.length then
    { assignment := stampRows w.nextId group w.assignment
      nextId := w.nextId + 1
      condition :=
        if anchor ≤ edge then w.condition.or (some (candidate observed anchor group))
        else w.condition }
  else w

def walkCohorts (window edge : Int64) (observed : ℕ) : List (Int64 × ℕ) → CohortWalk → CohortWalk
  | [], w => w
  | first :: rest, w =>
    let windowEdge := saturating (first.1.toInt + window.toInt)
    let group := first :: rest.takeWhile fun p => decide (p.1 ≤ windowEdge)
    walkCohorts window edge observed (rest.dropWhile fun p => decide (p.1 ≤ windowEdge))
      (settleGroup observed edge first.1 group w)
termination_by ps => ps.length
decreasing_by
  have h := (List.dropWhile_sublist (fun p => decide (p.1 ≤ saturating (first.1.toInt + window.toInt)))
    (l := rest)).length_le
  simp only [List.length_cons]
  omega

def expiryCohorts (deadlines : List (Option Int64)) (windowSecs horizonSecs : UInt64)
    (nowSecs : Int64) : List (Option UInt32) × Option ExpiryCohort :=
  let observed := observedDeadlines deadlines
  let walk := walkCohorts (saturating windowSecs.toNat) (horizonEdge nowSecs horizonSecs)
    observed.length observed
    { assignment := List.replicate deadlines.length none, condition := none, nextId := 0 }
  (walk.assignment, walk.condition)

/-! ## The walk as a fold over the anchored runs -/

theorem fits_toInt (a : Int64) : FitsI64 a.toInt := ⟨a.le_toInt, by have := a.toInt_lt; omega⟩

theorem toInt_saturating (x : ℤ) : (saturating x).toInt = saturatedI64 x := by
  have h := Framing.saturatedI64_fits x
  unfold FitsI64 at h
  unfold saturating
  exact Int64.toInt_ofInt_of_le (by simpa using h.1) (by omega)

theorem saturating_natCast_nonneg (n : ℕ) : 0 ≤ (saturating n).toInt := by
  rw [toInt_saturating]
  unfold saturatedI64
  omega

theorem le_saturating {a : Int64} {x : ℤ} (hx : -9223372036854775808 ≤ x) :
    a ≤ saturating x ↔ a.toInt ≤ x := by
  have ha := fits_toInt a
  rw [Int64.le_iff_toInt_le, toInt_saturating]
  unfold FitsI64 at ha
  unfold saturatedI64
  omega

def settleRun (observed : ℕ) (edge : Int64) (w : CohortWalk) : List (Int64 × ℕ) → CohortWalk
  | [] => w
  | first :: rest => settleGroup observed edge first.1 (first :: rest) w

/-- The deadline of a pair, as an integer. -/
def deadlineOf (p : Int64 × ℕ) : ℤ := p.1.toInt

theorem walkCohorts_eq {window edge : Int64} (hwindow : 0 ≤ window.toInt) (observed : ℕ)
    (ps : List (Int64 × ℕ)) (w : CohortWalk) :
    walkCohorts window edge observed ps w =
      (anchoredRuns deadlineOf (· + window.toInt) ps).foldl (settleRun observed edge) w := by
  fun_induction walkCohorts window edge observed ps w with
  | case1 w => simp [anchoredRuns]
  | case2 first rest w windowEdge group ih =>
    have hedge : (fun p : Int64 × ℕ => decide (p.1 ≤ windowEdge)) =
        fun p => decide (deadlineOf p ≤ deadlineOf first + window.toInt) := by
      funext p
      have hmin := (fits_toInt first.1).1
      exact decide_eq_decide.mpr (le_saturating (by omega))
    rw [Keyed.anchoredRuns_cons, List.foldl_cons, ih]
    simp only [group, hedge]
    rfl

/-! ## What a run of turns leaves -/

section Turns

variable {observed : ℕ} {edge : Int64} {i : ℕ} {group : List (Int64 × ℕ)}

theorem stampRows_length (id : UInt32) (group : List (Int64 × ℕ)) (rows : List (Option UInt32)) :
    (stampRows id group rows).length = rows.length := by
  induction group generalizing rows with
  | nil => rfl
  | cons p group ih => simpa [stampRows] using ih (rows.set p.2 (some id))

theorem stampRows_other {id : UInt32} {rows : List (Option UInt32)}
    (hi : i ∉ group.map Prod.snd) : (stampRows id group rows)[i]? = rows[i]? := by
  induction group generalizing rows with
  | nil => rfl
  | cons p group ih =>
    simp only [List.map_cons, List.mem_cons, not_or] at hi
    have hrest := @ih (rows.set p.2 (some id)) hi.2
    rw [List.getElem?_set_ne (Ne.symm hi.1)] at hrest
    simpa [stampRows] using hrest

theorem stampRows_of_mem {id : UInt32} {rows : List (Option UInt32)}
    (hi : i ∈ group.map Prod.snd) (hlen : i < rows.length) :
    (stampRows id group rows)[i]? = some (some id) := by
  induction group generalizing rows with
  | nil => simp at hi
  | cons p group ih =>
    by_cases hlater : i ∈ group.map Prod.snd
    · simpa [stampRows] using @ih (rows.set p.2 (some id)) hlater (by simpa using hlen)
    · obtain rfl : i = p.2 := by simpa [hlater] using hi
      have hrest := @stampRows_other p.2 group id (rows.set p.2 (some id)) hlater
      rw [List.getElem?_set_self hlen] at hrest
      simpa [stampRows] using hrest

theorem settleRun_single {w : CohortWalk} (hgroup : ¬2 ≤ group.length) :
    settleRun observed edge w group = w := by
  cases group with
  | nil => rfl
  | cons first rest =>
    rw [settleRun, settleGroup, if_neg hgroup]

theorem settleRun_assignment {w : CohortWalk} (hgroup : 2 ≤ group.length) :
    (settleRun observed edge w group).assignment = stampRows w.nextId group w.assignment := by
  cases group with
  | nil => simp at hgroup
  | cons first rest =>
    rw [settleRun, settleGroup, if_pos hgroup]

theorem settleRun_nextId {w : CohortWalk} (hgroup : 2 ≤ group.length) :
    (settleRun observed edge w group).nextId = w.nextId + 1 := by
  cases group with
  | nil => simp at hgroup
  | cons first rest =>
    rw [settleRun, settleGroup, if_pos hgroup]

variable {gs : List (List (Int64 × ℕ))}

theorem cohorts_cons_single (hgroup : ¬2 ≤ group.length) : cohorts (group :: gs) = cohorts gs :=
  List.filter_cons_of_neg (by simpa using hgroup)

theorem cohorts_cons (hgroup : 2 ≤ group.length) :
    cohorts (group :: gs) = group :: cohorts gs :=
  List.filter_cons_of_pos (by simpa using hgroup)

theorem foldl_unstamped {w : CohortWalk} (hi : ∀ g ∈ cohorts gs, i ∉ g.map Prod.snd) :
    (gs.foldl (settleRun observed edge) w).assignment[i]? = w.assignment[i]? := by
  induction gs generalizing w with
  | nil => rfl
  | cons g gs ih =>
    rw [List.foldl_cons]
    by_cases hg : 2 ≤ g.length
    · rw [cohorts_cons hg] at hi
      rw [ih fun g' hg' => hi g' (List.mem_cons_of_mem _ hg'), settleRun_assignment hg,
        stampRows_other (hi g (List.mem_cons_self ..))]
    · rw [cohorts_cons_single hg] at hi
      rw [ih hi, settleRun_single hg]

theorem foldl_stamped {w : CohortWalk} {n : ℕ}
    (hrows : gs.Pairwise fun g later => ∀ i ∈ g.map Prod.snd, i ∉ later.map Prod.snd)
    (hn : (cohorts gs)[n]? = some group) (hi : i ∈ group.map Prod.snd)
    (hlen : i < w.assignment.length) :
    (gs.foldl (settleRun observed edge) w).assignment[i]? =
      some (some (w.nextId + UInt32.ofNat n)) := by
  induction gs generalizing w n with
  | nil => simp [cohorts] at hn
  | cons g gs ih =>
    have hlater := List.pairwise_cons.mp hrows
    rw [List.foldl_cons]
    by_cases hg : 2 ≤ g.length
    · rw [cohorts_cons hg] at hn
      cases n with
      | zero =>
        obtain rfl : g = group := by simpa using hn
        have hother : ∀ g' ∈ cohorts gs, i ∉ g'.map Prod.snd := fun g' hg' =>
          hlater.1 g' (mem_cohorts.mp hg').1 i hi
        rw [foldl_unstamped hother, settleRun_assignment hg, stampRows_of_mem hi hlen]
        simp
      | succ n =>
        rw [ih hlater.2 (by simpa using hn) (by simpa [settleRun_assignment hg, stampRows_length]),
          settleRun_nextId hg]
        rw [UInt32.ofNat_add, UInt32.add_comm (UInt32.ofNat n), ← UInt32.add_assoc]
        rfl
    · rw [cohorts_cons_single hg] at hn
      rw [settleRun_single hg]
      exact ih hlater.2 hn hlen

/-- The condition is of the first cohort that the horizon reaches. -/
theorem foldl_condition {w : CohortWalk} :
    (gs.foldl (settleRun observed edge) w).condition =
      w.condition.or (((cohorts gs).find? fun g => g.head?.any fun first => decide (first.1 ≤ edge)).bind
        fun g => g.head?.map fun first => candidate observed first.1 g) := by
  induction gs generalizing w with
  | nil => simp [cohorts]
  | cons g gs ih =>
    rw [List.foldl_cons, ih]
    by_cases hg : 2 ≤ g.length
    · rw [cohorts_cons hg]
      cases g with
      | nil => simp at hg
      | cons first rest =>
        by_cases hedge : first.1 ≤ edge
        · rw [settleRun, settleGroup, if_pos hg, List.find?_cons_of_pos (by simpa using hedge)]
          simp [hedge]
        · rw [settleRun, settleGroup, if_pos hg, List.find?_cons_of_neg (by simpa using hedge)]
          simp [hedge]
    · rw [cohorts_cons_single hg, settleRun_single hg]

end Turns

/-! ## The observed deadlines in order -/

section Observed

variable {deadlines : List (Option Int64)}

/-- The deadlines as integers, the soonest first. -/
def deadlineKeys (deadlines : List (Option Int64)) : List ℤ :=
  (deadlines.reduceOption.map Int64.toInt).insertionSort (· ≤ ·)

/-- The pairs before they are sorted. -/
def observedRows (deadlines : List (Option Int64)) : List (Int64 × ℕ) :=
  deadlines.zipIdx.filterMap fun row => row.1.map fun deadline => (deadline, row.2)

theorem observed_perm : (observedDeadlines deadlines).Perm (observedRows deadlines) :=
  List.perm_insertionSort _ _

theorem mem_observed {d : Int64} {i : ℕ} :
    (d, i) ∈ observedDeadlines deadlines ↔ deadlines[i]? = some (some d) := by
  rw [observed_perm.mem_iff, observedRows, List.mem_filterMap]
  constructor
  · rintro ⟨⟨row, j⟩, hrow, hd⟩
    rw [List.mem_zipIdx_iff_getElem?] at hrow
    cases row with
    | none => simp at hd
    | some d' =>
      simp only [Option.map_some, Option.some.injEq, Prod.mk.injEq] at hd
      rw [← hd.1, ← hd.2]
      exact hrow
  · intro hd
    exact ⟨(some d, i), List.mem_zipIdx_iff_getElem?.mpr hd, rfl⟩

theorem observed_nodup : ((observedDeadlines deadlines).map Prod.snd).Nodup := by
  rw [(observed_perm.map Prod.snd).nodup_iff]
  have hrows : deadlines.zipIdx.Pairwise fun p q => p.2 ≠ q.2 := by
    rw [← List.pairwise_map (f := Prod.snd) (R := (· ≠ ·)), List.zipIdx_map_snd]
    exact List.nodup_range'
  refine List.pairwise_map.mpr (hrows.filterMap _ ?_)
  intro p q hpq p' hp q' hq
  obtain ⟨d, -, rfl⟩ := Option.map_eq_some_iff.mp hp
  obtain ⟨d', -, rfl⟩ := Option.map_eq_some_iff.mp hq
  exact hpq

theorem observed_sorted :
    (observedDeadlines deadlines).Pairwise fun p q => deadlineOf p ≤ deadlineOf q := by
  have htotal : Std.Total fun p q : Int64 × ℕ => p.1 < q.1 ∨ p.1 = q.1 ∧ p.2 ≤ q.2 := by
    constructor
    intro p q
    simp only [Int64.lt_iff_toInt_lt, ← Int64.toInt_inj]
    omega
  have htrans : IsTrans (Int64 × ℕ) fun p q => p.1 < q.1 ∨ p.1 = q.1 ∧ p.2 ≤ q.2 := by
    constructor
    intro p q r
    simp only [Int64.lt_iff_toInt_lt, ← Int64.toInt_inj]
    omega
  refine (List.pairwise_insertionSort _ _).imp ?_
  intro p q hpq
  simp only [Int64.lt_iff_toInt_lt, ← Int64.toInt_inj] at hpq
  unfold deadlineOf
  omega

theorem observed_keys : (observedDeadlines deadlines).map deadlineOf = deadlineKeys deadlines := by
  have hperm : ((observedDeadlines deadlines).map deadlineOf).Perm (deadlineKeys deadlines) := by
    have hrows : (observedRows deadlines).map deadlineOf =
        deadlines.reduceOption.map Int64.toInt := by
      have hfst := List.zipIdx_map_fst 0 deadlines
      have hpresent : deadlines.reduceOption = deadlines.filterMap (id : Option Int64 → _) := rfl
      rw [observedRows, hpresent, List.map_filterMap, List.map_filterMap]
      conv_rhs => rw [← hfst, List.filterMap_map]
      congr 1
      funext row
      obtain ⟨deadline, i⟩ := row
      cases deadline with
      | none => rfl
      | some d => rfl
    rw [deadlineKeys, ← hrows]
    exact (observed_perm.map deadlineOf).trans (List.perm_insertionSort _ _).symm
  exact hperm.eq_of_pairwise' (List.pairwise_map.mpr observed_sorted) (List.pairwise_insertionSort _ _)

end Observed

/-! ## The groups of a fleet -/

section Fleet

variable {deadlines : List (Option Int64)} {window : ℤ}

/-- The groups of a fleet's deadlines, the soonest first. -/
def fleetCohorts (deadlines : List (Option Int64)) (window : ℤ) : List (List ℤ) :=
  cohorts (anchoredRuns id (· + window) (deadlineKeys deadlines))

/-- The number that a row's deadline is stamped with. -/
def stampOf (groups : List (List ℤ)) (deadline : Int64) : Option UInt32 :=
  (runOf groups deadline.toInt).map UInt32.ofNat

/-- The condition that a group is. -/
def described (observed : ℕ) (group : List ℤ) : Option ExpiryCohort :=
  group.head?.map fun anchor =>
    { size := UInt32.ofNatClamp group.length
      observed := UInt32.ofNatClamp observed
      earliest := Int64.ofInt anchor
      spanSecs := saturating (group.getLast?.getD anchor - anchor) }

theorem deadlineKeys_anchored (hwindow : 0 ≤ window) :
    Anchored (· + window) (anchoredRuns id (· + window) (deadlineKeys deadlines)) := by
  refine Keyed.anchored_of_sorted _ (List.pairwise_insertionSort _ _) ?_
  intro k
  omega

theorem fleetCohorts_anchored (hwindow : 0 ≤ window) :
    Anchored (· + window) (fleetCohorts deadlines window) :=
  (deadlineKeys_anchored hwindow).cohorts

/-- The walk's groups, of deadlines with their rows. -/
def rowGroups (deadlines : List (Option Int64)) (window : ℤ) : List (List (Int64 × ℕ)) :=
  anchoredRuns deadlineOf (· + window) (observedDeadlines deadlines)

theorem map_rowGroups : (rowGroups deadlines window).map (List.map deadlineOf) =
    anchoredRuns id (· + window) (deadlineKeys deadlines) := by
  rw [rowGroups, Keyed.map_anchoredRuns, observed_keys]

theorem map_cohorts_rowGroups : (cohorts (rowGroups deadlines window)).map (List.map deadlineOf) =
    fleetCohorts deadlines window := by
  rw [← Keyed.cohorts_map, map_rowGroups, fleetCohorts]

theorem rowGroups_rows : (rowGroups deadlines window).Pairwise fun g later =>
    ∀ i ∈ g.map Prod.snd, i ∉ later.map Prod.snd := by
  have hnodup := @observed_nodup deadlines
  rw [← Keyed.flatten_anchoredRuns deadlineOf (· + window) (observedDeadlines deadlines),
    List.map_flatten, List.nodup_flatten, List.pairwise_map] at hnodup
  refine hnodup.2.imp ?_
  intro g later hdisjoint i hi hi'
  exact hdisjoint hi hi'

theorem mem_of_mem_rowGroups {g : List (Int64 × ℕ)} {p : Int64 × ℕ}
    (hg : g ∈ rowGroups deadlines window) (hp : p ∈ g) : deadlines[p.2]? = some (some p.1) := by
  rw [← mem_observed, ← Keyed.flatten_anchoredRuns deadlineOf (· + window) (observedDeadlines _)]
  exact List.mem_flatten_of_mem hg hp

/-- Two rows of one deadline are in one group. -/
theorem rowGroups_eq (hwindow : 0 ≤ window) {g g' : List (Int64 × ℕ)} {p q : Int64 × ℕ}
    (hg : g ∈ rowGroups deadlines window) (hg' : g' ∈ rowGroups deadlines window)
    (hp : p ∈ g) (hq : q ∈ g') (hpq : p.1 = q.1) : g = g' := by
  have hasc := (@deadlineKeys_anchored deadlines _ hwindow).ascending
  rw [← map_rowGroups, List.pairwise_map] at hasc
  have hsame : (rowGroups deadlines window).Pairwise fun g g' =>
      ∀ p ∈ g, ∀ q ∈ g', p.1 = q.1 → g = g' := by
    refine hasc.imp ?_
    intro g later hlt p hp q hq hpq
    have h := hlt _ (List.mem_map_of_mem hp) _ (List.mem_map_of_mem hq)
    rw [deadlineOf, deadlineOf, hpq] at h
    exact absurd h (lt_irrefl _)
  have : Std.Symm fun g g' : List (Int64 × ℕ) => ∀ p ∈ g, ∀ q ∈ g', p.1 = q.1 → g = g' :=
    ⟨fun _ _ h p hp q hq hpq => (h q hq p hp hpq.symm).symm⟩
  exact hsame.forall_of_forall (fun _ _ _ _ _ _ _ => rfl) hg hg' p hp q hq hpq

theorem foldl_length {observed : ℕ} {edge : Int64} (gs : List (List (Int64 × ℕ)))
    (w : CohortWalk) :
    (gs.foldl (settleRun observed edge) w).assignment.length = w.assignment.length := by
  induction gs generalizing w with
  | nil => rfl
  | cons g gs ih =>
    rw [List.foldl_cons, ih]
    by_cases hg : 2 ≤ g.length
    · rw [settleRun_assignment hg, stampRows_length]
    · rw [settleRun_single hg]

/-- The walk, as a fold over its groups. -/
def fleetWalk (edge : Int64) (window : ℤ) (deadlines : List (Option Int64)) : CohortWalk :=
  (rowGroups deadlines window).foldl (settleRun (observedDeadlines deadlines).length edge)
    { assignment := List.replicate deadlines.length none, condition := none, nextId := 0 }

section Walk

variable {edge : Int64} {i : ℕ}

theorem fleetWalk_length :
    (fleetWalk edge window deadlines).assignment.length = deadlines.length := by
  rw [fleetWalk, foldl_length, List.length_replicate]

theorem fleetWalk_unstamped (hi : i < deadlines.length)
    (hrows : ∀ g ∈ cohorts (rowGroups deadlines window), i ∉ g.map Prod.snd) :
    (fleetWalk edge window deadlines).assignment[i]? = some none := by
  rw [fleetWalk, foldl_unstamped hrows, List.getElem?_replicate, if_pos hi]

theorem row_deadline {g : List (Int64 × ℕ)} (hg : g ∈ rowGroups deadlines window)
    (hi : i ∈ g.map Prod.snd) : ∃ d, deadlines[i]? = some (some d) ∧ d.toInt ∈ g.map deadlineOf := by
  obtain ⟨p, hp, rfl⟩ := List.mem_map.mp hi
  exact ⟨p.1, mem_of_mem_rowGroups hg hp, List.mem_map_of_mem hp⟩

theorem fleetWalk_unobserved (hd : deadlines[i]? = some none) :
    (fleetWalk edge window deadlines).assignment[i]? = some none := by
  refine fleetWalk_unstamped (List.getElem?_eq_some_iff.mp hd).1 ?_
  intro g hg hi
  obtain ⟨d, hd', -⟩ := row_deadline (mem_cohorts.mp hg).1 hi
  simp [hd] at hd'

theorem fleetWalk_single {d : Int64} (hd : deadlines[i]? = some (some d))
    (hrun : runOf (fleetCohorts deadlines window) d.toInt = none) :
    (fleetWalk edge window deadlines).assignment[i]? = some none := by
  refine fleetWalk_unstamped (List.getElem?_eq_some_iff.mp hd).1 ?_
  intro g hg hi
  obtain ⟨d', hd', hmem⟩ := row_deadline (mem_cohorts.mp hg).1 hi
  obtain rfl : d = d' := by simpa [hd] using hd'
  refine Keyed.runOf_eq_none.mp hrun (g.map deadlineOf) ?_ hmem
  rw [← map_cohorts_rowGroups]
  exact List.mem_map_of_mem hg

theorem fleetWalk_stamped (hwindow : 0 ≤ window) {d : Int64} {n : ℕ}
    (hd : deadlines[i]? = some (some d))
    (hrun : runOf (fleetCohorts deadlines window) d.toInt = some n) :
    (fleetWalk edge window deadlines).assignment[i]? = some (some (UInt32.ofNat n)) := by
  obtain ⟨run, hn, hmem⟩ := Keyed.mem_of_runOf hrun
  rw [← map_cohorts_rowGroups, List.getElem?_map] at hn
  obtain ⟨g, hg, rfl⟩ := Option.map_eq_some_iff.mp hn
  have hgs := (mem_cohorts.mp (List.mem_of_getElem? hg)).1
  obtain ⟨p, hp, hpd⟩ := List.mem_map.mp hmem
  have hobs : (d, i) ∈ (rowGroups deadlines window).flatten := by
    rw [rowGroups, Keyed.flatten_anchoredRuns]
    exact mem_observed.mpr hd
  obtain ⟨g', hg', hmem'⟩ := List.mem_flatten.mp hobs
  have hsame := rowGroups_eq hwindow hgs hg' hp hmem' (Int64.toInt_inj.mp hpd)
  have hi : i ∈ g.map Prod.snd := by
    rw [hsame]
    exact List.mem_map_of_mem hmem'
  have hlen := (List.getElem?_eq_some_iff.mp hd).1
  rw [fleetWalk, foldl_stamped rowGroups_rows hg hi (by simpa using hlen)]
  simp

theorem fleetWalk_assignment (hwindow : 0 ≤ window) :
    (fleetWalk edge window deadlines).assignment =
      deadlines.map fun deadline => deadline.bind (stampOf (fleetCohorts deadlines window)) := by
  apply List.ext_getElem?
  intro i
  rw [List.getElem?_map]
  cases hd : deadlines[i]? with
  | none =>
    have hi : deadlines.length ≤ i := List.getElem?_eq_none_iff.mp hd
    exact List.getElem?_eq_none (by rwa [fleetWalk_length])
  | some deadline =>
    cases deadline with
    | none => exact fleetWalk_unobserved hd
    | some d =>
      simp only [Option.map_some, Option.bind_some, stampOf]
      cases hrun : runOf (fleetCohorts deadlines window) d.toInt with
      | none => exact fleetWalk_single hd hrun
      | some n => exact fleetWalk_stamped hwindow hd hrun

theorem candidate_eq (observed : ℕ) (first : Int64 × ℕ) (rest : List (Int64 × ℕ)) :
    described observed ((first :: rest).map deadlineOf) =
      some (candidate observed first.1 (first :: rest)) := by
  have hlast : (List.map deadlineOf (first :: rest)).getLast? =
      ((first :: rest).getLast?.map Prod.fst).map Int64.toInt := by
    rw [List.getLast?_map, Option.map_map]
    rfl
  unfold described candidate
  rw [hlast, List.getLast?_cons]
  simp [deadlineOf]

theorem fleetWalk_condition :
    (fleetWalk edge window deadlines).condition =
      ((fleetCohorts deadlines window).find? fun group =>
        group.head?.any fun anchor => decide (anchor ≤ edge.toInt)).bind
          (described deadlines.reduceOption.length) := by
  have hobserved : (observedDeadlines deadlines).length = deadlines.reduceOption.length := by
    have h := congrArg List.length (@observed_keys deadlines)
    simpa [deadlineKeys] using h
  have hreach : ((fun group : List ℤ => group.head?.any fun anchor => decide (anchor ≤ edge.toInt)) ∘
      List.map deadlineOf) = fun g => g.head?.any fun first => decide (first.1 ≤ edge) := by
    funext g
    cases g with
    | nil => rfl
    | cons first rest => simp [deadlineOf, Int64.le_iff_toInt_le]
  rw [fleetWalk, foldl_condition, ← map_cohorts_rowGroups, List.find?_map, hreach, hobserved,
    Option.none_or, Option.bind_map]
  congr 1
  funext g
  cases g with
  | nil => rfl
  | cons first rest => exact (candidate_eq _ first rest).symm

end Walk

/-- The walk refines the groups: a row's stamp is the number of its deadline's group, and the
condition is of the first group that the horizon reaches. -/
theorem expiryCohorts_eq (deadlines : List (Option Int64)) (windowSecs horizonSecs : UInt64)
    (nowSecs : Int64) :
    expiryCohorts deadlines windowSecs horizonSecs nowSecs =
      (deadlines.map fun deadline =>
        deadline.bind (stampOf (fleetCohorts deadlines (saturating windowSecs.toNat).toInt)),
      ((fleetCohorts deadlines (saturating windowSecs.toNat).toInt).find? fun group =>
        group.head?.any fun anchor =>
          decide (anchor ≤ (horizonEdge nowSecs horizonSecs).toInt)).bind
            (described deadlines.reduceOption.length)) := by
  have hwindow := saturating_natCast_nonneg windowSecs.toNat
  have hwalk : expiryCohorts deadlines windowSecs horizonSecs nowSecs =
      ((fleetWalk (horizonEdge nowSecs horizonSecs) (saturating windowSecs.toNat).toInt
        deadlines).assignment,
      (fleetWalk (horizonEdge nowSecs horizonSecs) (saturating windowSecs.toNat).toInt
        deadlines).condition) := by
    rw [expiryCohorts, walkCohorts_eq hwindow]
    rfl
  rw [hwalk, fleetWalk_assignment hwindow, fleetWalk_condition]

end Fleet

end Sessiometer.Status
