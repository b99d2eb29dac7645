import Mathlib.Algebra.Order.Ring.Unbundled.Rat
import Mathlib.Data.List.Induction
import Mathlib.Order.Lattice
import Sessiometer.Daemon.Decision

/-! # The high-water mark

Readings fall into runs, cut from the first one on: a run goes on while the readings are stamped near its first
stamp. The mark is the first stamp and the highest session of the run that the last reading is in. -/

namespace Sessiometer

/-! ## Runs -/

/-- Two stamps that name one window. -/
def Near (window stamp : Int) : Prop := (window - stamp).natAbs ≤ sessionWindowMatchSecs

instance (window stamp : Int) : Decidable (Near window stamp) := inferInstanceAs (Decidable (_ ≤ _))

def firstStamp (run : List Usage) : Option Int := run.head?.bind (·.sessionResetsAt)

/-- A reading whose stamp names the window of a run. -/
def Inside (run : List Usage) (usage : Usage) : Prop :=
  ∃ w, firstStamp run = some w ∧ ∃ stamp, usage.sessionResetsAt = some stamp ∧ Near w stamp

/-- A run all of whose readings have a session and a stamp near the first one. -/
def InRun (run : List Usage) : Prop := ∀ usage ∈ run, Inside run usage ∧ usage.session ≠ none

/-- A reading that has a stamp and a session. -/
def Dated (usage : Usage) : Prop := usage.sessionResetsAt ≠ none ∧ usage.session ≠ none

instance (usage : Usage) : Decidable (Dated usage) := inferInstanceAs (Decidable (_ ∧ _))

instance (run : List Usage) (usage : Usage) : Decidable (Inside run usage) :=
  decidable_of_iff ((firstStamp run).any fun w => usage.sessionResetsAt.any fun stamp => decide (Near w stamp)) (by
    simp [Inside, Option.any_eq_true])

/-- The run that the last reading is in, every run before it cut off. -/
def currentRun (readings : List Usage) : List Usage :=
  readings.foldl (fun run usage => if Dated usage then if Inside run usage then run ++ [usage] else [usage] else []) []

def markOf (readings : List Usage) : Option SessionHighWater := readings.foldl SessionHighWater.fold none

section Runs

variable {readings run : List Usage} {usage : Usage}

theorem currentRun_dated (h : Dated usage) (hin : Inside (currentRun readings) usage) :
    currentRun (readings ++ [usage]) = currentRun readings ++ [usage] := by
  unfold currentRun at hin ⊢
  rw [List.foldl_append, List.foldl_cons, List.foldl_nil, if_pos h, if_pos hin]

theorem currentRun_opened (h : Dated usage) (hin : ¬ Inside (currentRun readings) usage) :
    currentRun (readings ++ [usage]) = [usage] := by
  unfold currentRun at hin ⊢
  rw [List.foldl_append, List.foldl_cons, List.foldl_nil, if_pos h, if_neg hin]

theorem currentRun_released (h : ¬ Dated usage) : currentRun (readings ++ [usage]) = [] := by
  unfold currentRun
  rw [List.foldl_append, List.foldl_cons, List.foldl_nil, if_neg h]

theorem markOf_snoc : markOf (readings ++ [usage]) = SessionHighWater.fold (markOf readings) usage := by
  unfold markOf
  rw [List.foldl_append, List.foldl_cons, List.foldl_nil]

theorem firstStamp_snoc {w : Int} (h : firstStamp run = some w) : firstStamp (run ++ [usage]) = some w := by
  cases run with
  | nil => simp [firstStamp] at h
  | cons first rest => exact h

theorem Inside.snoc {last : Usage} (h : Inside run usage) : Inside (run ++ [last]) usage := by
  obtain ⟨w, hw, hstamp⟩ := h
  exact ⟨w, firstStamp_snoc hw, hstamp⟩

theorem near_self (w : Int) : Near w w := by
  unfold Near
  simp

theorem inside_single {w : Int} (h : usage.sessionResetsAt = some w) : Inside [usage] usage :=
  ⟨w, by simp [firstStamp, h], w, h, near_self w⟩

/-- How the readings before a run end: in no run, or in one with another window. -/
theorem currentRun_cut (readings : List Usage) : ∃ before, readings = before ++ currentRun readings ∧
    ∀ usage, (currentRun readings).head? = some usage → ¬ Inside (currentRun before) usage := by
  induction readings using List.reverseRecOn with
  | nil => exact ⟨[], rfl, by simp [currentRun]⟩
  | append_singleton readings usage ih =>
    obtain ⟨before, hbefore, hcut⟩ := ih
    by_cases hdated : Dated usage
    · by_cases hin : Inside (currentRun readings) usage
      · refine ⟨before, ?_, ?_⟩
        · rw [currentRun_dated hdated hin, ← List.append_assoc, ← hbefore]
        · rw [currentRun_dated hdated hin]
          intro first hfirst
          apply hcut
          cases hrun : currentRun readings with
          | nil =>
            rw [hrun] at hin
            obtain ⟨w, hw, -⟩ := hin
            simp [firstStamp] at hw
          | cons c rest =>
            rw [hrun] at hfirst
            exact hfirst
      · refine ⟨readings, ?_, ?_⟩
        · rw [currentRun_opened hdated hin]
        · rw [currentRun_opened hdated hin]
          intro first hfirst
          have hsame : usage = first := by simpa using hfirst
          rw [← hsame]
          exact hin
    · refine ⟨readings ++ [usage], ?_, ?_⟩
      · rw [currentRun_released hdated, List.append_nil]
      · rw [currentRun_released hdated]
        simp

theorem currentRun_inRun (readings : List Usage) : InRun (currentRun readings) := by
  induction readings using List.reverseRecOn with
  | nil => simp [currentRun, InRun]
  | append_singleton readings usage ih =>
    by_cases hdated : Dated usage
    · by_cases hin : Inside (currentRun readings) usage
      · rw [currentRun_dated hdated hin]
        intro u hu
        rw [List.mem_append, List.mem_singleton] at hu
        rcases hu with hu | rfl
        · exact ⟨(ih u hu).1.snoc, (ih u hu).2⟩
        · exact ⟨hin.snoc, hdated.2⟩
      · rw [currentRun_opened hdated hin]
        intro u hu
        rw [List.mem_singleton] at hu
        subst hu
        obtain ⟨w, hw⟩ := Option.ne_none_iff_exists'.mp hdated.1
        exact ⟨inside_single hw, hdated.2⟩
    · rw [currentRun_released hdated]
      simp [InRun]

theorem currentRun_eq_nil :
    currentRun readings = [] ↔ ∀ usage, readings.getLast? = some usage → ¬ Dated usage := by
  cases readings using List.reverseRecOn with
  | nil => simp [currentRun]
  | append_singleton readings usage =>
    rw [List.getLast?_concat]
    by_cases hdated : Dated usage
    · by_cases hin : Inside (currentRun readings) usage
      · rw [currentRun_dated hdated hin]
        simp [hdated]
      · rw [currentRun_opened hdated hin]
        simp [hdated]
    · rw [currentRun_released hdated]
      simp [hdated]

end Runs

/-! ## The mark of a run -/

/-- The mark that a run leaves. -/
structure Watermark (run : List Usage) (mark : SessionHighWater) : Prop where
  window : firstStamp run = some mark.window
  session : ∃ usage ∈ run, usage.session = some mark.session
  highest : ∀ usage ∈ run, ∀ s, usage.session = some s → s ≤ mark.session

section Watermark

variable {readings run : List Usage} {usage : Usage} {mark : SessionHighWater}

theorem matchesWindow_iff {stamp : Int} : mark.matchesWindow stamp = true ↔ Near mark.window stamp := by
  unfold SessionHighWater.matchesWindow Near
  rw [decide_eq_true_iff]

theorem Watermark.inside (h : Watermark run mark) :
    Inside run usage ↔ ∃ stamp, usage.sessionResetsAt = some stamp ∧ Near mark.window stamp := by
  unfold Inside
  simp [h.window]

theorem fold_released (h : ¬ Dated usage) : SessionHighWater.fold (markOf readings) usage = none := by
  unfold SessionHighWater.fold
  cases hstamp : usage.sessionResetsAt with
  | none => rfl
  | some w =>
    cases hsession : usage.session with
    | none => rfl
    | some s => exact absurd ⟨by simp [hstamp], by simp [hsession]⟩ h

theorem marks_opened {w : Int} {s : ℚ} (hw : usage.sessionResetsAt = some w) (hs : usage.session = some s) :
    Watermark [usage] ⟨w, s⟩ := by
  constructor
  · simp [firstStamp, hw]
  · exact ⟨usage, by simp, hs⟩
  · intro u hu s' hs'
    rw [List.mem_singleton] at hu
    rw [hu, hs] at hs'
    exact (Option.some.inj hs').symm.le

theorem Watermark.raised {s : ℚ} (h : Watermark run mark) (hs : usage.session = some s) :
    Watermark (run ++ [usage]) ⟨mark.window, max mark.session s⟩ := by
  constructor
  · exact firstStamp_snoc h.window
  · obtain ⟨u, hu, hsu⟩ := h.session
    by_cases hle : mark.session ≤ s
    · refine ⟨usage, by simp, ?_⟩
      rw [max_eq_right hle]
      exact hs
    · refine ⟨u, by simp [hu], ?_⟩
      rw [max_eq_left (le_of_not_ge hle)]
      exact hsu
  · intro u hu s' hs'
    rw [List.mem_append, List.mem_singleton] at hu
    rcases hu with hu | rfl
    · exact le_max_of_le_left (h.highest u hu s' hs')
    · rw [hs] at hs'
      rw [← Option.some.inj hs']
      exact le_max_right _ _

/-- The mark after the readings is that of their current run. -/
theorem markOf_currentRun (readings : List Usage) : (markOf readings = none ↔ currentRun readings = []) ∧
    ∀ mark, markOf readings = some mark → Watermark (currentRun readings) mark := by
  induction readings using List.reverseRecOn with
  | nil => simp [markOf, currentRun]
  | append_singleton readings usage ih =>
    obtain ⟨hnone, hmarks⟩ := ih
    rw [markOf_snoc]
    by_cases hdated : Dated usage
    · obtain ⟨w, hw⟩ := Option.ne_none_iff_exists'.mp hdated.1
      obtain ⟨s, hs⟩ := Option.ne_none_iff_exists'.mp hdated.2
      unfold SessionHighWater.fold
      rw [hw, hs]
      cases hmark : markOf readings with
      | none =>
        have hin : ¬ Inside (currentRun readings) usage := by
          rw [hnone.mp hmark]
          simp [Inside, firstStamp]
        rw [currentRun_opened hdated hin]
        dsimp only
        refine ⟨by simp, ?_⟩
        rintro mark ⟨⟩
        exact marks_opened hw hs
      | some prev =>
        have hprev := hmarks prev hmark
        dsimp only
        by_cases hnear : Near prev.window w
        · have hin : Inside (currentRun readings) usage := hprev.inside.mpr ⟨w, hw, hnear⟩
          rw [currentRun_dated hdated hin, if_pos (matchesWindow_iff.mpr hnear)]
          refine ⟨by simp, ?_⟩
          rintro mark ⟨⟩
          exact hprev.raised hs
        · have hin : ¬ Inside (currentRun readings) usage := by
            rw [hprev.inside, hw]
            simpa using hnear
          have hmiss : ¬ prev.matchesWindow w = true := fun hm => hnear (matchesWindow_iff.mp hm)
          rw [currentRun_opened hdated hin, if_neg hmiss]
          refine ⟨by simp, ?_⟩
          rintro mark ⟨⟩
          exact marks_opened hw hs
    · rw [currentRun_released hdated, fold_released hdated]
      simp

end Watermark

/-! ## Plausible readings -/

section Plausible

variable {readings run : List Usage} {usage : Usage} {mark : SessionHighWater} {held : Option SessionHighWater}

theorem appliesTo_inside (h : Watermark run mark) (hin : Inside run usage) : mark.appliesTo usage = some mark.session := by
  obtain ⟨stamp, hstamp, hnear⟩ := h.inside.mp hin
  unfold SessionHighWater.appliesTo
  rw [hstamp]
  exact if_pos (matchesWindow_iff.mpr hnear)

theorem appliesTo_outside (h : Watermark run mark) (hout : ¬ Inside run usage) : mark.appliesTo usage = none := by
  rw [h.inside] at hout
  unfold SessionHighWater.appliesTo
  cases hstamp : usage.sessionResetsAt with
  | none => rfl
  | some stamp =>
    apply if_neg
    intro hmatches
    exact hout ⟨stamp, hstamp, matchesWindow_iff.mp hmatches⟩

theorem plausibleSession_inside (h : Watermark run mark) (hin : Inside run usage) :
    plausibleSession (some mark) usage = { usage with session := usage.session.map (max mark.session) } := by
  unfold plausibleSession
  rw [Option.bind_some, appliesTo_inside h hin]
  cases hsession : usage.session with
  | none =>
    have hsame : { usage with session := none } = usage := by rw [← hsession]
    exact hsame.symm
  | some s =>
    dsimp only
    by_cases hlt : s < mark.session
    · rw [if_pos hlt, Option.map_some, max_eq_left hlt.le]
    · rw [if_neg hlt, Option.map_some, max_eq_right (not_lt.mp hlt), ← hsession]

theorem plausibleSession_outside (h : Watermark run mark) (hout : ¬ Inside run usage) :
    plausibleSession (some mark) usage = usage := by
  unfold plausibleSession
  rw [Option.bind_some, appliesTo_outside h hout]

theorem plausibleSession_idempotent :
    plausibleSession held (plausibleSession held usage) = plausibleSession held usage := by
  cases held with
  | none => rfl
  | some m =>
    by_cases hin : ∃ highWater, m.appliesTo usage = some highWater
    · obtain ⟨highWater, happlies⟩ := hin
      unfold plausibleSession
      simp only [Option.bind_some, happlies]
      cases hsession : usage.session with
      | none => simp [happlies, hsession]
      | some s =>
        dsimp only
        by_cases hlt : s < highWater
        · have hraised : m.appliesTo { usage with session := some highWater } = some highWater := happlies
          simp [hlt, hraised]
        · simp [hlt, happlies, hsession]
    · have hnone : m.appliesTo usage = none := by
        cases happlies : m.appliesTo usage with
        | none => rfl
        | some highWater => exact absurd ⟨highWater, happlies⟩ hin
      simp [plausibleSession, hnone]

theorem isStaleLow_iff : isStaleLow held usage = true ↔ plausibleSession held usage ≠ usage := by
  unfold isStaleLow plausibleSession
  cases held.bind (·.appliesTo usage) with
  | none => simp
  | some highWater =>
    cases hsession : usage.session with
    | none => simp
    | some s =>
      simp only [Option.any_some, decide_eq_true_eq]
      by_cases hlt : s < highWater
      · rw [if_pos hlt]
        simp only [hlt, true_iff]
        intro hsame
        have hraised : some highWater = usage.session := congrArg Usage.session hsame
        rw [hsession] at hraised
        exact absurd (Option.some.inj hraised) hlt.ne'
      · simp [hlt]

theorem plausibleSession_weekly : { plausibleSession held usage with session := usage.session } = usage := by
  unfold plausibleSession
  split
  · split
    · rfl
    · rfl
  · rfl

end Plausible

/-! ## What the mark is -/

/-- The mark after any readings is the first stamp and the highest session of their current run, and a reading is
raised to it exactly inside that run. -/
theorem mark_spec (readings : List Usage) :
    ((∃ before, readings = before ++ currentRun readings ∧
        ∀ usage, (currentRun readings).head? = some usage → ¬ Inside (currentRun before) usage) ∧
      InRun (currentRun readings) ∧
      (currentRun readings = [] ↔ ∀ usage, readings.getLast? = some usage → ¬ Dated usage)) ∧
    (markOf readings = none ↔ currentRun readings = []) ∧
    (∀ mark, markOf readings = some mark → Watermark (currentRun readings) mark) ∧
    ∀ usage,
      (∀ mark, markOf readings = some mark → Inside (currentRun readings) usage →
        plausibleSession (markOf readings) usage = { usage with session := usage.session.map (max mark.session) }) ∧
      (¬ Inside (currentRun readings) usage → plausibleSession (markOf readings) usage = usage) ∧
      { plausibleSession (markOf readings) usage with session := usage.session } = usage ∧
      plausibleSession (markOf readings) (plausibleSession (markOf readings) usage) =
        plausibleSession (markOf readings) usage ∧
      (isStaleLow (markOf readings) usage = true ↔ plausibleSession (markOf readings) usage ≠ usage) := by
  obtain ⟨hnone, hmarks⟩ := markOf_currentRun readings
  refine ⟨⟨currentRun_cut readings, currentRun_inRun readings, currentRun_eq_nil⟩, hnone, hmarks, ?_⟩
  intro usage
  refine ⟨?_, ?_, plausibleSession_weekly, plausibleSession_idempotent, isStaleLow_iff⟩
  · intro mark hmark hin
    rw [hmark]
    exact plausibleSession_inside (hmarks mark hmark) hin
  · intro hout
    cases hmark : markOf readings with
    | none => rfl
    | some mark => exact plausibleSession_outside (hmarks mark hmark) hout

/-- The longest end of the readings that is a run by itself. -/
structure LongestRun (readings run : List Usage) : Prop where
  ending : run <:+ readings
  inRun : InRun run
  longest : ∀ run', run' <:+ readings → InRun run' → run'.length ≤ run.length

def readingAt (stamp : Int) (session : ℚ) : Usage where
  session := some session
  weekly := none
  weeklyResetsAt := none
  sessionResetsAt := some stamp

/-- Three readings, each near the one before it, the third not near the first. -/
def drifting : List Usage := [readingAt 0 (1 / 10), readingAt 50 (9 / 10), readingAt 100 (2 / 10)]

theorem drifting_run : LongestRun drifting (drifting.drop 1) := by
  constructor
  · exact List.drop_suffix 1 drifting
  · unfold InRun
    decide +kernel
  · intro run' hending hinRun
    by_contra hlonger
    have hlength : drifting.length ≤ run'.length := by
      have hshort : (drifting.drop 1).length = 2 := rfl
      have hfull : drifting.length = 3 := rfl
      omega
    have hall : run' = drifting := hending.eq_of_length_le hlength
    rw [hall] at hinRun
    have hlast := (hinRun (readingAt 100 (2 / 10)) (by simp [drifting])).1
    revert hlast
    decide +kernel

theorem drifting_marks : Watermark (drifting.drop 1) ⟨50, 9 / 10⟩ := by
  constructor
  · rfl
  · exact ⟨readingAt 50 (9 / 10), by simp [drifting], rfl⟩
  · intro usage husage s hs
    simp only [drifting, List.drop_succ_cons, List.drop_zero, List.mem_cons, List.not_mem_nil, or_false] at husage
    rcases husage with rfl | rfl
    · rw [← Option.some.inj hs]
    · rw [← Option.some.inj hs]
      norm_num

/-- The last two readings are the longest run by itself, and the mark is not theirs. -/
theorem cut_from_first :
    ¬ ∀ readings run mark, LongestRun readings run → Watermark run mark → markOf readings = some mark := by
  intro h
  have hmark := h drifting (drifting.drop 1) ⟨50, 9 / 10⟩ drifting_run drifting_marks
  revert hmark
  decide +kernel

end Sessiometer
