import Sessiometer.Reliability.Events

/-! # Capacity holds

Which session swaps the pass counts as the end of a hold of the exhausted fleet: those onto the spare that
the last hold has named, as long as nothing between has ended it. A later start of the view loses holds
whose naming line it cuts off, and makes none. -/

namespace Sessiometer.Reliability

open Framing Log

variable [FloatRead]

/-- The lines that name a hold or end one. -/
def isHoldEdge (n : Text × ℕ) : Bool :=
  decide (eventKind n.1 = some .swap ∨ eventKind n.1 = some .allExhausted ∨
    eventKind n.1 = some .allExhaustedCleared)

/-- The last line that has named or ended a hold. -/
def lastHoldEdge (before : List (Text × ℕ)) : Option (Text × ℕ) := (before.filter isHoldEdge).getLast?

/-- The spare that the line says the fleet waits for. -/
def namedHold (n : Text × ℕ) : Option Text :=
  if eventKind n.1 = some .allExhausted then fieldOf n.1 "hold" else none

/-- The swap is onto the spare that the last hold before it has named. -/
def heldAfter (before : List (Text × ℕ)) (line : Text) : Bool :=
  ((lastHoldEdge before).bind namedHold).any fun hold => decide (fieldOf line "to" = some hold)

variable {before view : List (Text × ℕ)} {n : Text × ℕ} {s : Scan}

omit [FloatRead] in
theorem lastHoldEdge_append : lastHoldEdge (before ++ [n]) =
    if isHoldEdge n then some n else lastHoldEdge before := by
  unfold lastHoldEdge
  rw [List.filter_append]
  by_cases h : isHoldEdge n = true
  · simp [h]
  · simp [h]

theorem seenLine_hold : (s.seenLine n).exhaustedHold =
    if isHoldEdge n then namedHold n else s.exhaustedHold := by
  unfold Scan.seenLine isHoldEdge namedHold
  cases h : eventKind n.1 with
  | none => simp
  | some kind => cases kind <;> rfl

/-- The hold that is carried is the one that the last of these lines names. -/
theorem scanned_hold (before : List (Text × ℕ)) :
    (before.foldl Scan.seenLine {}).exhaustedHold = (lastHoldEdge before).bind namedHold := by
  induction before using List.reverseRecOn with
  | nil => rfl
  | append_singleton before n ih =>
    rw [List.foldl_append, List.foldl_cons, List.foldl_nil, seenLine_hold, lastHoldEdge_append, ih]
    by_cases h : isHoldEdge n = true
    · rw [if_pos h, if_pos h]
      rfl
    · rw [if_neg h, if_neg h]

/-! ## The swaps that are counted -/

section Collect

omit [FloatRead]

variable {σ α β : Type}

/-- What each element gives after those before it. -/
def collectAfter (f : List α → α → Option β) (before : List α) : List α → List β
  | [] => []
  | a :: rest => (f before a).toList ++ collectAfter f (before ++ [a]) rest

/-- What each step appends, as it depends on the steps before it, is there at the end. -/
theorem foldl_collectAfter {step : σ → α → σ} {init : σ} (π : σ → List β) (f : List α → α → Option β)
    (h : ∀ before a, π (step (before.foldl step init) a) =
      π (before.foldl step init) ++ (f before a).toList) (before rest : List α) :
    π (rest.foldl step (before.foldl step init)) =
      π (before.foldl step init) ++ collectAfter f before rest := by
  induction rest generalizing before with
  | nil => simp [collectAfter]
  | cons a rest ih =>
    have hnext := ih (before ++ [a])
    rw [List.foldl_append, List.foldl_cons, List.foldl_nil, h] at hnext
    rw [List.foldl_cons, hnext, List.append_assoc]
    rfl

end Collect

/-- What the session swaps are counted in: those free of a hold, those held, and the anchors. -/
def Inputs.overshoots (inputs : Inputs) : List ℕ × List ℕ × List SwapOut :=
  (inputs.swapOutPcts, inputs.swapOutHeldPcts, inputs.sessionSwaps)

namespace Inputs

omit [FloatRead]

variable (inputs : Inputs) (line : Text) (seq : ℕ) (held : Bool) (key : String)

theorem recordReactivationEdge_overshoots :
    (inputs.recordReactivationEdge line key).overshoots = inputs.overshoots := by
  unfold recordReactivationEdge
  split <;> rfl

theorem blindEnter_overshoots : (inputs.blindEnter line seq).overshoots = inputs.overshoots := by
  unfold blindEnter
  split <;> rfl

theorem blindExit_overshoots : (inputs.blindExit line seq).overshoots = inputs.overshoots := by
  unfold blindExit
  split <;> rfl

theorem observationGapEnter_overshoots :
    (inputs.observationGapEnter line seq).overshoots = inputs.overshoots := by
  unfold observationGapEnter
  split <;> rfl

theorem observationGapExit_overshoots :
    (inputs.observationGapExit line seq).overshoots = inputs.overshoots := by
  unfold observationGapExit
  split <;> rfl

theorem nearLimitWindow_overshoots : (inputs.nearLimitWindow line).overshoots = inputs.overshoots := by
  unfold nearLimitWindow
  split <;> rfl

theorem usageBackoff_overshoots : (inputs.usageBackoff line).overshoots = inputs.overshoots := by
  unfold usageBackoff
  simp only
  split
  · rfl
  split <;> rfl

theorem refreshLoss_overshoots (lose : RefreshTokenLossByMechanism → RefreshTokenLossByMechanism) :
    (inputs.refreshLoss line lose).overshoots = inputs.overshoots := by
  unfold refreshLoss
  split <;> rfl

end Inputs

theorem Inputs.recordBlindProjection_overshoots (inputs : Inputs) (line : Text) :
    (inputs.recordBlindProjection line).overshoots = inputs.overshoots := by
  unfold recordBlindProjection
  simp only
  split <;> rfl

/-- The reading of a session swap. -/
def sessionPct (n : Text × ℕ) : Option ℕ :=
  if eventKind n.1 = some .swap ∧ fieldOf n.1 "reason" = some "session".toList then
    readU8 n.1 "session_pct"
  else none

/-- The anchor of a session swap, with its class. -/
def sessionAnchor (held : Bool) (n : Text × ℕ) : Option SwapOut :=
  (sessionPct n).bind fun pct => Inputs.anchor n.1 held (fieldOf n.1 "from") (some pct)

omit [FloatRead] in
theorem swap_overshoots {inputs : Inputs} {held : Bool} (h : eventKind n.1 = some .swap) :
    (inputs.swap n.1 held).overshoots =
      (inputs.swapOutPcts ++ (if held then none else sessionPct n).toList,
        inputs.swapOutHeldPcts ++ (if held then sessionPct n else none).toList,
        inputs.sessionSwaps ++ (sessionAnchor held n).toList) := by
  have hother : ∀ reason : String, fieldOf n.1 "reason" = some reason.toList →
      reason.toList ≠ "session".toList → sessionPct n = none := by
    intro reason hreason hne
    unfold sessionPct
    rw [if_neg]
    rintro ⟨-, hsession⟩
    rw [hreason] at hsession
    exact hne (Option.some.inj hsession)
  have hnone : sessionPct n = none → inputs.overshoots =
      (inputs.swapOutPcts ++ (if held then none else sessionPct n).toList,
        inputs.swapOutHeldPcts ++ (if held then sessionPct n else none).toList,
        inputs.sessionSwaps ++ (sessionAnchor held n).toList) := by
    intro hpct
    simp [sessionAnchor, hpct, Inputs.overshoots]
  unfold Inputs.swap
  simp only
  split
  · rename_i hreason
    exact hnone (hother _ hreason (by decide))
  split
  · rename_i hreason
    exact hnone (hother _ hreason (by decide))
  split
  · rename_i hreason
    rcases hreason with hreason | hreason
    · exact hnone (hother _ hreason (by decide))
    · exact hnone (hother _ hreason (by decide))
  split
  · rename_i hsession
    have hpct : sessionPct n = readU8 n.1 "session_pct" := if_pos ⟨h, hsession⟩
    unfold Inputs.sessionSwap sessionAnchor
    rw [hpct]
    cases readU8 n.1 "session_pct" with
    | none => simp [Inputs.overshoots]
    | some pct => cases held <;> simp [Inputs.overshoots]
  · rename_i hsession
    apply hnone
    unfold sessionPct
    exact if_neg fun h => hsession h.2

/-- What a line adds to the session swaps, as the hold stands before it. -/
theorem seenLine_overshoots (s : Scan) (n : Text × ℕ) : (s.seenLine n).inputs.overshoots =
    (s.inputs.swapOutPcts ++ (if s.heldByExhaustion n.1 then none else sessionPct n).toList,
      s.inputs.swapOutHeldPcts ++ (if s.heldByExhaustion n.1 then sessionPct n else none).toList,
      s.inputs.sessionSwaps ++ (sessionAnchor (s.heldByExhaustion n.1) n).toList) := by
  have hother : eventKind n.1 ≠ some .swap → s.inputs.overshoots =
      (s.inputs.swapOutPcts ++ (if s.heldByExhaustion n.1 then none else sessionPct n).toList,
        s.inputs.swapOutHeldPcts ++ (if s.heldByExhaustion n.1 then sessionPct n else none).toList,
        s.inputs.sessionSwaps ++ (sessionAnchor (s.heldByExhaustion n.1) n).toList) := by
    intro hne
    have hpct : sessionPct n = none := if_neg fun h => hne h.1
    simp [sessionAnchor, hpct, Inputs.overshoots]
  unfold Scan.seenLine
  cases h : eventKind n.1 with
  | none => exact hother (by simp [h])
  | some kind =>
    cases kind with
    | swap =>
      change (((s.inputs.seen n.1).recordReactivationEdge n.1 "to").swap n.1
        (s.heldByExhaustion n.1)).overshoots = _
      rw [swap_overshoots h]
      have hedge := (s.inputs.seen n.1).recordReactivationEdge_overshoots n.1 "to"
      simp only [Inputs.overshoots, Prod.mk.injEq] at hedge
      rw [hedge.1, hedge.2.1, hedge.2.2]
      rfl
    | blindWindow =>
      exact ((Inputs.nearLimitWindow_overshoots _ _).trans
        (Inputs.recordBlindProjection_overshoots _ _)).trans (hother (by simp [h]))
    | blindEnter => exact (Inputs.blindEnter_overshoots _ _ _).trans (hother (by simp [h]))
    | blindExit => exact (Inputs.blindExit_overshoots _ _ _).trans (hother (by simp [h]))
    | observationGapEnter =>
      exact (Inputs.observationGapEnter_overshoots _ _ _).trans (hother (by simp [h]))
    | observationGapExit =>
      exact (Inputs.observationGapExit_overshoots _ _ _).trans (hother (by simp [h]))
    | usageBackoff => exact (Inputs.usageBackoff_overshoots _ _).trans (hother (by simp [h]))
    | emergencySwap | restash | canonicalRecovered =>
      exact (Inputs.recordReactivationEdge_overshoots _ _ _).trans (hother (by simp [h]))
    | refresh | pollRefresh | keepWarm =>
      exact (Inputs.refreshLoss_overshoots _ _ _).trans (hother (by simp [h]))
    | usageBackoffCleared | allExhausted | allExhaustedCleared | usageVelocity
    | credentialUnrecoverable => exact hother (by simp [h])

/-- The session swaps of a log, each counted as held or as free by the last hold before it in view. -/
theorem capacity_holds (text : Text) (cutoff : Option ℤ) :
    (parseEvents text cutoff).swapOutPcts = collectAfter (fun before n =>
      if heldAfter before n.1 then none else sessionPct n) [] (viewed text cutoff) ∧
    (parseEvents text cutoff).swapOutHeldPcts = collectAfter (fun before n =>
      if heldAfter before n.1 then sessionPct n else none) [] (viewed text cutoff) ∧
    (parseEvents text cutoff).sessionSwaps = collectAfter (fun before n =>
      sessionAnchor (heldAfter before n.1) n) [] (viewed text cutoff) := by
  have hheld : ∀ (before : List (Text × ℕ)) (n : Text × ℕ),
      (before.foldl Scan.seenLine {}).heldByExhaustion n.1 = heldAfter before n.1 := by
    intro before n
    unfold Scan.heldByExhaustion heldAfter
    rw [scanned_hold]
  have hstep : ∀ (before : List (Text × ℕ)) (n : Text × ℕ),
      ((before.foldl Scan.seenLine {}).seenLine n).inputs.overshoots = _ := fun before n =>
    seenLine_overshoots (before.foldl Scan.seenLine {}) n
  simp only [hheld, Inputs.overshoots, Prod.mk.injEq] at hstep
  unfold parseEvents
  rw [scan_eq]
  refine ⟨?_, ?_, ?_⟩
  · exact foldl_collectAfter (fun s : Scan => s.inputs.swapOutPcts) _ (fun before n => (hstep before n).1)
      [] _
  · exact foldl_collectAfter (fun s : Scan => s.inputs.swapOutHeldPcts) _
      (fun before n => (hstep before n).2.1) [] _
  · exact foldl_collectAfter (fun s : Scan => s.inputs.sessionSwaps) _
      (fun before n => (hstep before n).2.2) [] _

/-! ## A later start of the view -/

omit [FloatRead]

/-- The lines tell their times in order. -/
def Timely (view : List (Text × ℕ)) : Prop :=
  view.Pairwise fun m n => ∀ t ∈ ownTime m.1, ∀ u ∈ ownTime n.1, t ≤ u

/-- The line is in view from the cutoff on. -/
def shown (c : ℤ) (n : Text × ℕ) : Bool := inView (some c) n.1

theorem inView_mono {c c' : ℤ} {line : Text} (hle : c ≤ c') (h : inView (some c') line = true) :
    inView (some c) line = true := by
  unfold inView at h ⊢
  simp only [Option.all_some] at h ⊢
  cases ht : ownTime line with
  | none =>
    rw [ht] at h
    cases h
  | some t =>
    rw [ht] at h
    simp only [Option.any_some, decide_eq_true_eq] at h ⊢
    omega

/-- The later view is the earlier one from the later cutoff on. -/
theorem viewed_later (text : Text) {c c' : ℤ} (hle : c ≤ c') : viewed text (some c') =
    (viewed text (some c)).filter (shown c') := by
  unfold viewed
  rw [List.filter_filter]
  apply List.filter_congr
  intro n _
  unfold shown
  cases h : inView (some c') n.1 with
  | false => simp
  | true => simp [inView_mono hle h]

/-- The naming line, if it is still in view, still is the last; if it is not, no line before it is. -/
theorem lastHoldEdge_later {c : ℤ} (c' : ℤ) (hin : ∀ m ∈ before, shown c m = true)
    (htimely : Timely before) :
    lastHoldEdge (before.filter (shown c')) = (lastHoldEdge before).filter (shown c') := by
  induction before using List.reverseRecOn with
  | nil => rfl
  | append_singleton before n ih =>
    have hbefore := ih (fun m hm => hin m (List.mem_append_left _ hm))
      (List.pairwise_append.mp htimely).1
    rw [List.filter_append, lastHoldEdge_append]
    by_cases hlast : shown c' n = true
    · rw [List.filter_cons_of_pos hlast, List.filter_nil, lastHoldEdge_append]
      by_cases hedge : isHoldEdge n = true
      · rw [if_pos hedge, if_pos hedge, Option.filter_some, if_pos hlast]
      · rw [if_neg hedge, if_neg hedge, hbefore]
    · -- every line before it is out of view as well
      have hout : before.filter (shown c') = [] := by
        rw [List.filter_eq_nil_iff]
        intro m hm hview
        have hmn := (List.pairwise_append.mp htimely).2.2 m hm n (List.mem_singleton_self n)
        have hn := hin n (by simp)
        unfold shown inView at hview hlast hn
        simp only [Option.all_some] at hview hlast hn
        cases ht : ownTime m.1 with
        | none =>
          rw [ht] at hview
          cases hview
        | some t =>
          cases hu : ownTime n.1 with
          | none =>
            rw [hu] at hn
            cases hn
          | some u =>
            have := hmn t ht u hu
            rw [ht] at hview
            rw [hu] at hlast
            simp only [Option.any_some, decide_eq_true_eq] at hview hlast
            omega
      rw [hout, List.nil_append, List.filter_cons_of_neg hlast, List.filter_nil]
      by_cases hedge : isHoldEdge n = true
      · rw [if_pos hedge, Option.filter_some, if_neg hlast]
        rfl
      · rw [if_neg hedge, ← hbefore, hout]

/-- A swap that a later view still shows is held in it just when it is held in the earlier view by a
line that the later one shows too. -/
theorem held_later {text : Text} {c c' : ℤ} {post : List (Text × ℕ)} (hle : c ≤ c')
    (hview : viewed text (some c) = before ++ n :: post) (htimely : Timely (viewed text (some c)))
    (hn : shown c' n = true) : ∃ before' post',
      viewed text (some c') = before' ++ n :: post' ∧
      (heldAfter before' n.1 = true ↔ heldAfter before n.1 = true ∧
        ∀ edge ∈ lastHoldEdge before, shown c' edge = true) := by
  refine ⟨before.filter (shown c'), post.filter (shown c'), ?_, ?_⟩
  · rw [viewed_later text hle, hview, List.filter_append, List.filter_cons_of_pos hn]
  · have hin : ∀ m ∈ before, shown c m = true := by
      intro m hm
      have hmem : m ∈ viewed text (some c) := hview ▸ List.mem_append_left _ hm
      exact (List.mem_filter.mp hmem).2
    rw [hview] at htimely
    have hlast := lastHoldEdge_later c' hin (List.pairwise_append.mp htimely).1
    unfold heldAfter
    rw [hlast]
    cases hedge : lastHoldEdge before with
    | none => simp
    | some edge =>
      by_cases hshown : shown c' edge = true
      · simp [hshown, Option.filter_some]
      · simp [hshown, Option.filter_some]

def holdLine : Text := "ts=1970-01-01T00:05:00Z event=all_exhausted hold=B".toList

def reliefLine : Text := "ts=1970-01-01T00:10:00Z event=swap to=B".toList

theorem viewed_relief : viewed (holdLine ++ '\n' :: reliefLine) (some 0) =
    [(holdLine, 0)] ++ (reliefLine, 1) :: [] := by
  decide +kernel

/-- The relief is in view, the line that names its hold is not. -/
theorem held_later_relief : ∃ before' post',
    viewed (holdLine ++ '\n' :: reliefLine) (some 600) = before' ++ (reliefLine, 1) :: post' ∧
    (heldAfter before' reliefLine = true ↔ heldAfter [(holdLine, 0)] reliefLine = true ∧
      ∀ edge ∈ lastHoldEdge [(holdLine, 0)], shown 600 edge = true) := by
  apply held_later (by decide : (0 : ℤ) ≤ 600) viewed_relief
  · rw [viewed_relief]
    unfold Timely
    decide +kernel
  · decide +kernel

end Sessiometer.Reliability
