import Sessiometer.Pacing.Episodes
import Sessiometer.Daemon.State

/-! # The systemic refresh detector

A refresh mechanism that is down for the whole fleet is reported once, when enough sweeps in a row
have failed or when the startup preflight could not resolve it, and its recovery once. -/

namespace Sessiometer

open Effects Pacing

inductive SweepHealth where
  | noSignal
  | allError
  | working
deriving DecidableEq

/-- A sweep without a cycle says nothing; a cycle that is no error says that the mechanism works. -/
def SweepHealth.classify (outcomes : List RefreshEventOutcome) : SweepHealth :=
  let (sawCycle, everyError) := outcomes.foldl
    (fun (seen : Bool × Bool) outcome => (true, if outcome ≠ .error then false else seen.2))
    (false, true)
  match sawCycle, everyError with
  | false, _ => .noSignal
  | true, true => .allError
  | true, false => .working

theorem foldl_seen (outcomes : List RefreshEventOutcome) (cycle every : Bool) :
    outcomes.foldl (fun (seen : Bool × Bool) outcome =>
      (true, if outcome ≠ .error then false else seen.2)) (cycle, every) =
      (cycle || !outcomes.isEmpty, every && outcomes.all (· = .error)) := by
  induction outcomes generalizing cycle every with
  | nil => simp
  | cons outcome outcomes ih =>
    rw [List.foldl_cons, ih]
    by_cases herror : outcome = .error
    · simp [herror]
    · simp [herror]

theorem classify_eq (outcomes : List RefreshEventOutcome) : SweepHealth.classify outcomes =
    if outcomes = [] then .noSignal
    else if ∀ outcome ∈ outcomes, outcome = .error then .allError
    else .working := by
  unfold SweepHealth.classify
  rw [foldl_seen]
  cases outcomes with
  | nil => rfl
  | cons outcome outcomes =>
    by_cases hall : ∀ o ∈ outcome :: outcomes, o = .error
    · rw [if_neg (List.cons_ne_nil _ _), if_pos hall]
      simp [List.all_eq_true.mpr (fun o ho => decide_eq_true (hall o ho))]
    · rw [if_neg (List.cons_ne_nil _ _), if_neg hall]
      have hsome : (outcome :: outcomes).all (· = .error) = false := by
        rw [Bool.eq_false_iff]
        intro hs
        exact hall (fun o ho => of_decide_eq_true (List.all_eq_true.mp hs o ho))
      simp [hsome]

inductive PreflightHealth where
  | resolved
  | unresolved
deriving DecidableEq

inductive SystemicRefreshSource where
  | sweep
  | preflight
deriving DecidableEq

structure SystemicRefreshHealth where
  consecutiveErrorSweeps : ℕ := 0
  active : Option SystemicRefreshSource := none
deriving DecidableEq

namespace SystemicRefreshHealth

def note (s : SystemicRefreshHealth) (health : SweepHealth) (threshold : UInt32) :
    SystemicRefreshHealth × Option Event :=
  let threshold := max threshold.toNat 1
  match health with
  | .noSignal => (s, none)
  | .allError =>
    let climbed := { s with
      consecutiveErrorSweeps := saturatingAdd32 s.consecutiveErrorSweeps 1 }
    if climbed.active.isNone ∧ threshold ≤ climbed.consecutiveErrorSweeps then
      ({ climbed with active := some .sweep },
        some (.refreshSystemicFailure climbed.consecutiveErrorSweeps))
    else (climbed, none)
  | .working =>
    ({ s with consecutiveErrorSweeps := 0, active := none },
      if s.active.isSome then some .refreshSystemicRecovered else none)

def notePreflight (s : SystemicRefreshHealth) (health : PreflightHealth) :
    SystemicRefreshHealth × Option Event :=
  match health with
  | .resolved => (s, none)
  | .unresolved =>
    if s.active.isSome then (s, none)
    else ({ s with
      active := some .preflight
      consecutiveErrorSweeps := max s.consecutiveErrorSweeps 1 }, some .refreshPreflightUnresolved)

def status (s : SystemicRefreshHealth) : Option ℕ := s.active.map (fun _ => s.consecutiveErrorSweeps)

def source (s : SystemicRefreshHealth) : Option SystemicRefreshSource := s.active

end SystemicRefreshHealth

/-- What the detector is fed: sweeps, and preflight notes. -/
inductive SystemicNote where
  | sweep (health : SweepHealth)
  | preflight (health : PreflightHealth)
deriving DecidableEq

namespace SystemicRefreshHealth

def fold (threshold : UInt32) (s : SystemicRefreshHealth) :
    SystemicNote → SystemicRefreshHealth × Option Event
  | .sweep health => s.note health threshold
  | .preflight health => s.notePreflight health

/-- The detector after the notes, from a healthy start. -/
def after (threshold : UInt32) (notes : List SystemicNote) : SystemicRefreshHealth :=
  notes.foldl (fun s n => (s.fold threshold n).1) {}

/-- The events of the notes, in order. -/
def emitted (threshold : UInt32) (s : SystemicRefreshHealth) : List SystemicNote → List Event
  | [] => []
  | n :: notes => (s.fold threshold n).2.toList ++ emitted threshold (s.fold threshold n).1 notes

theorem after_snoc (threshold : UInt32) (notes : List SystemicNote) (n : SystemicNote) :
    after threshold (notes ++ [n]) = ((after threshold notes).fold threshold n).1 :=
  List.foldl_concat _ _ _ _

end SystemicRefreshHealth

/-! ## The reference -/

/-- The sweeps that have failed since one last worked. -/
def errorsSinceWorking (notes : List SystemicNote) : ℕ :=
  notes.foldl (fun k n => match n with
    | .sweep .allError => k + 1
    | .sweep .working => 0
    | _ => k) 0

/-- A preflight has failed since a sweep last worked. -/
def unresolvedSinceWorking (notes : List SystemicNote) : Bool :=
  notes.foldl (fun b n => match n with
    | .preflight .unresolved => true
    | .sweep .working => false
    | _ => b) false

/-- The mechanism is down after these notes: enough sweeps have failed, or a preflight has. -/
def SystemicDown (threshold : UInt32) (notes : List SystemicNote) : Prop :=
  max threshold.toNat 1 ≤ errorsSinceWorking notes ∨ unresolvedSinceWorking notes = true

/-- An opening edge when the mechanism goes down, a closing one when a sweep works again. -/
def Event.systemicEdge : Event → List Edge
  | .refreshSystemicFailure _ => [.opening]
  | .refreshPreflightUnresolved => [.opening]
  | .refreshSystemicRecovered => [.closing]
  | _ => []

section Detector

variable {threshold : UInt32} {notes : List SystemicNote} {s : SystemicRefreshHealth}

@[simp] theorem errorsSinceWorking_snoc (n : SystemicNote) :
    errorsSinceWorking (notes ++ [n]) = match n with
      | .sweep .allError => errorsSinceWorking notes + 1
      | .sweep .working => 0
      | _ => errorsSinceWorking notes :=
  List.foldl_concat _ _ _ _

@[simp] theorem unresolvedSinceWorking_snoc (n : SystemicNote) :
    unresolvedSinceWorking (notes ++ [n]) = match n with
      | .preflight .unresolved => true
      | .sweep .working => false
      | _ => unresolvedSinceWorking notes :=
  List.foldl_concat _ _ _ _

theorem threshold_le_u32Max : max threshold.toNat 1 ≤ u32Max := by
  have h := threshold.toNat_lt
  unfold u32Max
  omega

/-- The detector agrees with the reference. -/
structure Agrees (threshold : UInt32) (notes : List SystemicNote) (s : SystemicRefreshHealth) :
    Prop where
  active : s.active.isSome = true ↔ SystemicDown threshold notes
  healthy : s.active = none → s.consecutiveErrorSweeps = errorsSinceWorking notes
  counted : s.active.isSome = true → 1 ≤ s.consecutiveErrorSweeps

theorem agrees_nil : Agrees threshold [] {} where
  active := by
    constructor
    · intro h
      cases h
    · rintro (h | h)
      · have hpos : 1 ≤ max threshold.toNat 1 := le_max_right _ _
        have hzero : errorsSinceWorking [] = 0 := rfl
        omega
      · cases h
  healthy := fun _ => rfl
  counted := fun h => by cases h

theorem Agrees.active_none_iff (h : Agrees threshold notes s) : s.active = none ↔
    errorsSinceWorking notes < max threshold.toNat 1 ∧ unresolvedSinceWorking notes = false := by
  have hdown := h.active
  unfold SystemicDown at hdown
  rw [← Option.not_isSome_iff_eq_none, hdown, not_or, not_le, Bool.not_eq_true]

theorem Agrees.snoc (h : Agrees threshold notes s) (n : SystemicNote) :
    Agrees threshold (notes ++ [n]) (s.fold threshold n).1 := by
  have hpos : 1 ≤ max threshold.toNat 1 := le_max_right _ _
  have hmax : max threshold.toNat 1 ≤ u32Max := threshold_le_u32Max
  cases n with
  | sweep health =>
    cases health with
    | noSignal =>
      refine ⟨?_, ?_, h.counted⟩
      · simpa [SystemicDown, SystemicRefreshHealth.fold, SystemicRefreshHealth.note] using h.active
      · simpa [SystemicRefreshHealth.fold, SystemicRefreshHealth.note] using h.healthy
    | working =>
      refine ⟨?_, fun _ => ?_, fun hs => by cases hs⟩
      · simp [SystemicRefreshHealth.fold, SystemicRefreshHealth.note, SystemicDown]
      · simp [SystemicRefreshHealth.fold, SystemicRefreshHealth.note]
    | allError =>
      by_cases hactive : s.active = none
      · have hquiet := h.active_none_iff.mp hactive
        have hcount := h.healthy hactive
        have hclimbed : saturatingAdd32 s.consecutiveErrorSweeps 1 = errorsSinceWorking notes + 1 := by
          unfold saturatingAdd32
          omega
        by_cases hreached : max threshold.toNat 1 ≤ errorsSinceWorking notes + 1
        · simp only [SystemicRefreshHealth.fold, SystemicRefreshHealth.note, hclimbed, hactive]
          rw [if_pos ⟨rfl, hreached⟩]
          refine ⟨?_, fun hs => (by cases hs), fun _ => Nat.le_add_left 1 _⟩
          simpa [SystemicDown] using Or.inl hreached
        · simp only [SystemicRefreshHealth.fold, SystemicRefreshHealth.note, hclimbed, hactive]
          rw [if_neg (fun hr => hreached hr.2)]
          refine ⟨?_, fun _ => ?_, fun hs => by simp at hs⟩
          · simpa [SystemicDown, hquiet.2] using hreached
          · simp
      · have hsome : s.active.isSome = true := Option.isSome_iff_ne_none.mpr hactive
        have hdown := h.active.mp hsome
        have hone := h.counted hsome
        simp only [SystemicRefreshHealth.fold, SystemicRefreshHealth.note]
        rw [if_neg (fun hr => by simp [hactive] at hr)]
        refine ⟨?_, fun hs => absurd hs hactive, fun _ => ?_⟩
        · simp only [SystemicDown, errorsSinceWorking_snoc, unresolvedSinceWorking_snoc, hsome,
            true_iff]
          exact hdown.imp (fun hle => by omega) id
        · unfold saturatingAdd32 u32Max
          dsimp only
          omega
  | preflight health =>
    cases health with
    | resolved =>
      refine ⟨?_, ?_, h.counted⟩
      · simpa [SystemicDown, SystemicRefreshHealth.fold, SystemicRefreshHealth.notePreflight]
          using h.active
      · simpa [SystemicRefreshHealth.fold, SystemicRefreshHealth.notePreflight] using h.healthy
    | unresolved =>
      by_cases hactive : s.active = none
      · simp only [SystemicRefreshHealth.fold, SystemicRefreshHealth.notePreflight, hactive]
        refine ⟨?_, fun hs => (by cases hs), fun _ => le_max_right _ _⟩
        simp [SystemicDown]
      · have hsome : s.active.isSome = true := Option.isSome_iff_ne_none.mpr hactive
        simp only [SystemicRefreshHealth.fold, SystemicRefreshHealth.notePreflight]
        rw [if_pos hsome]
        refine ⟨?_, fun hs => absurd hs hactive, h.counted⟩
        simp [SystemicDown, hsome]

theorem agrees_after (threshold : UInt32) (notes : List SystemicNote) :
    Agrees threshold notes (.after threshold notes) := by
  induction notes using List.reverseRecOn with
  | nil => exact agrees_nil
  | append_singleton notes n ih =>
    rw [SystemicRefreshHealth.after_snoc]
    exact ih.snoc n

/-- The event that a note calls for: the one that ends the way to the threshold, the preflight that
finds the mechanism down first, the sweep that works again. -/
def systemicEvent (threshold : UInt32) (notes : List SystemicNote) : SystemicNote → Option Event
  | .sweep .allError =>
    if errorsSinceWorking notes + 1 = max threshold.toNat 1 ∧ unresolvedSinceWorking notes = false then
      some (.refreshSystemicFailure (max threshold.toNat 1))
    else none
  | .sweep .working =>
    if max threshold.toNat 1 ≤ errorsSinceWorking notes ∨ unresolvedSinceWorking notes = true then
      some .refreshSystemicRecovered
    else none
  | .preflight .unresolved =>
    if errorsSinceWorking notes < max threshold.toNat 1 ∧ unresolvedSinceWorking notes = false then
      some .refreshPreflightUnresolved
    else none
  | _ => none

theorem Agrees.event (h : Agrees threshold notes s) (n : SystemicNote) :
    (s.fold threshold n).2 = systemicEvent threshold notes n := by
  have hmax : max threshold.toNat 1 ≤ u32Max := threshold_le_u32Max
  cases n with
  | sweep health =>
    cases health with
    | noSignal => rfl
    | working =>
      simp only [SystemicRefreshHealth.fold, SystemicRefreshHealth.note, systemicEvent]
      exact if_congr h.active rfl rfl
    | allError =>
      simp only [SystemicRefreshHealth.fold, SystemicRefreshHealth.note, systemicEvent]
      by_cases hactive : s.active = none
      · have hquiet := h.active_none_iff.mp hactive
        have hcount := h.healthy hactive
        have hclimbed : saturatingAdd32 s.consecutiveErrorSweeps 1 = errorsSinceWorking notes + 1 := by
          unfold saturatingAdd32
          omega
        by_cases hreached : max threshold.toNat 1 ≤ errorsSinceWorking notes + 1
        · have heq : errorsSinceWorking notes + 1 = max threshold.toNat 1 := by omega
          rw [hclimbed, if_pos ⟨Option.isNone_iff_eq_none.mpr hactive, hreached⟩,
            if_pos ⟨heq, hquiet.2⟩, heq]
        · rw [hclimbed, if_neg (fun hr => hreached hr.2), if_neg (fun hr => hreached hr.1.ge)]
      · rw [if_neg (fun hr => by simp [hactive] at hr), if_neg]
        rintro ⟨heq, hunresolved⟩
        exact hactive (h.active_none_iff.mpr ⟨by omega, hunresolved⟩)
  | preflight health =>
    cases health with
    | resolved => rfl
    | unresolved =>
      simp only [SystemicRefreshHealth.fold, SystemicRefreshHealth.notePreflight, systemicEvent]
      by_cases hactive : s.active = none
      · have hquiet := h.active_none_iff.mp hactive
        rw [if_neg (by simp [hactive]), if_pos hquiet]
      · rw [if_pos (Option.isSome_iff_ne_none.mpr hactive), if_neg]
        exact fun hquiet => hactive (h.active_none_iff.mpr hquiet)

/-- A note opens an episode if none is open, or closes the open one. -/
theorem brackets_fold (s : SystemicRefreshHealth) (n : SystemicNote) :
    Brackets s.active.isSome ((s.fold threshold n).2.toList.flatMap Event.systemicEdge)
      (s.fold threshold n).1.active.isSome := by
  cases n with
  | sweep health =>
    cases health with
    | noSignal => exact .nil _
    | working =>
      simp only [SystemicRefreshHealth.fold, SystemicRefreshHealth.note]
      cases s.active with
      | none => exact .nil _
      | some source => exact brackets_closing
    | allError =>
      simp only [SystemicRefreshHealth.fold, SystemicRefreshHealth.note]
      split
      · next hr =>
        rw [Option.isNone_iff_eq_none.mp hr.1]
        exact brackets_opening
      · exact .nil _
  | preflight health =>
    cases health with
    | resolved => exact .nil _
    | unresolved =>
      simp only [SystemicRefreshHealth.fold, SystemicRefreshHealth.notePreflight]
      split
      · exact .nil _
      · next hactive =>
        rw [Option.isSome_eq_false_iff.mp (Bool.eq_false_iff.mpr hactive) |> Option.isNone_iff_eq_none.mp]
        exact brackets_opening

theorem brackets_emitted (notes : List SystemicNote) (s : SystemicRefreshHealth) :
    Brackets s.active.isSome ((s.emitted threshold notes).flatMap Event.systemicEdge)
      (notes.foldl (fun s n => (s.fold threshold n).1) s).active.isSome := by
  induction notes generalizing s with
  | nil => exact .nil _
  | cons n notes ih =>
    unfold SystemicRefreshHealth.emitted
    rw [List.flatMap_append]
    exact (brackets_fold s n).append (ih _)

theorem status_isSome (s : SystemicRefreshHealth) : s.status.isSome = s.active.isSome :=
  Option.isSome_map

/-- The detector's events bracket its episodes; each of them is the one that the history calls for,
and the status tells of an open episode, with a count of one at least. -/
theorem systemic_detector (threshold : UInt32) (notes : List SystemicNote) :
    Brackets false ((SystemicRefreshHealth.emitted threshold {} notes).flatMap Event.systemicEdge)
        (SystemicRefreshHealth.after threshold notes).status.isSome ∧
      (∀ n, ((SystemicRefreshHealth.after threshold notes).fold threshold n).2 =
        systemicEvent threshold notes n) ∧
      (SystemicRefreshHealth.after threshold notes).fold threshold (.sweep .noSignal) =
        (SystemicRefreshHealth.after threshold notes, none) ∧
      ((SystemicRefreshHealth.after threshold notes).status.isSome = true ↔
        SystemicDown threshold notes) ∧
      ∀ count, (SystemicRefreshHealth.after threshold notes).status = some count → 1 ≤ count := by
  have hagrees := agrees_after threshold notes
  refine ⟨?_, hagrees.event, rfl, ?_, fun count hcount => ?_⟩
  · rw [status_isSome]
    exact brackets_emitted notes {}
  · rw [status_isSome]
    exact hagrees.active
  · obtain ⟨source, hactive, rfl⟩ := Option.map_eq_some_iff.mp hcount
    exact hagrees.counted (by rw [hactive]; rfl)

end Detector

end Sessiometer
