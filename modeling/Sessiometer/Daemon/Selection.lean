import Sessiometer.Daemon.Decision

/-! # Target selection -/

namespace Sessiometer

inductive NextSwapReason where
  | soonestReset (resetsAt : Int)
  | onlyCandidate
  | rosterOrder
deriving DecidableEq

/-- `SplitMix64::next_u64` on a fresh generator. -/
def splitMix64 (seed : UInt64) : UInt64 :=
  let state := seed + 0x9E3779B97F4A7C15
  let z := (state ^^^ (state >>> 30)) * 0xBF58476D1CE4E5B9
  let z := (z ^^^ (z >>> 27)) * 0x94D049BB133111EB
  z ^^^ (z >>> 31)

def selectionTiebreakKey (seed : UInt64) (index : ℕ) : UInt64 :=
  splitMix64 (seed + UInt64.ofNat index * 0x9E3779B97F4A7C15)

/-- The enhanced tie-break: the accounts' retained velocities, and the daemon's seed. -/
structure SelectionTiebreak where
  accounts : ℕ → AccountRuntime
  seed : Option UInt64

/-- No velocity for a reading without a session window, nor for a sustained rate of zero. -/
def observedClimb (usage : Usage) (accounts : ℕ → AccountRuntime) (i : ℕ) : Option ℚ :=
  if usage.session.isSome then
    ((accounts i).sustainedSessionVelocity.map (·.rate)).filter (fun rate => decide (0 < rate))
  else none

def climbOrdering : Option ℚ → Option ℚ → Ordering
  | none, none => .eq
  | none, some _ => .lt
  | some _, none => .gt
  | some a, some b => compare a b

def resetOrdering : Option Int → Option Int → Ordering
  | none, none => .eq
  | some _, none => .lt
  | none, some _ => .gt
  | some a, some b => compare a b

/-- Soonest known weekly reset first; then, under a seed, the gentler climb and the seeded key;
then the roster order. -/
def targetOrdering (sel : SelectionTiebreak) (a b : ℕ × Usage) : Ordering :=
  (resetOrdering a.2.weeklyResetsAt b.2.weeklyResetsAt).then
    ((match sel.seed with
      | some seed =>
        (climbOrdering (observedClimb a.2 sel.accounts a.1)
          (observedClimb b.2 sel.accounts b.1)).then
          (compare (selectionTiebreakKey seed a.1) (selectionTiebreakKey seed b.1))
      | none => .eq).then (compare a.1 b.1))

/-- `min_by`: the first of the least elements. -/
def minBy {α : Type} (ord : α → α → Ordering) : List α → Option α
  | [] => none
  | a :: rest => some (rest.foldl (fun best b => if ord b best = .lt then b else best) a)

/-- One candidate of the selection passes all of its gates. -/
def isViable (active : ℕ) (enabled : ℕ → Bool) (floor sessionCeiling : Option ℚ)
    (weeklyCeiling : ℚ) (i : ℕ) (usage : Usage) : Bool :=
  i != active && enabled i && isBelow usage.weekly (some weeklyCeiling) &&
    isBelow usage.session sessionCeiling && isBelow usage.session floor

def viableTargets (n active : ℕ) (readings : ℕ → Option Usage) (enabled : ℕ → Bool)
    (floor sessionCeiling : Option ℚ) (weeklyCeiling : ℚ) : List (ℕ × Usage) :=
  (List.range n).filterMap (fun i =>
    match readings i with
    | some usage =>
      if isViable active enabled floor sessionCeiling weeklyCeiling i usage then some (i, usage)
      else none
    | none => none)

/-- `n` is the length of the roster; no session ceiling stands for an infinite one. -/
def pickTargetWithReasonRanked (n active : ℕ) (readings : ℕ → Option Usage) (enabled : ℕ → Bool)
    (floor sessionCeiling : Option ℚ) (weeklyCeiling : ℚ) (sel : SelectionTiebreak) :
    Option (ℕ × NextSwapReason) :=
  let viable := viableTargets n active readings enabled floor sessionCeiling weeklyCeiling
  match minBy (targetOrdering sel) viable with
  | none => none
  | some (i, usage) =>
    some (i,
      if viable.length < 2 then .onlyCandidate
      else match usage.weeklyResetsAt with
        | some resetsAt => .soonestReset resetsAt
        | none => .rosterOrder)

def pickTargetRanked (n active : ℕ) (readings : ℕ → Option Usage) (enabled : ℕ → Bool)
    (floor sessionCeiling : Option ℚ) (weeklyCeiling : ℚ) (sel : SelectionTiebreak) : Option ℕ :=
  (pickTargetWithReasonRanked n active readings enabled floor sessionCeiling weeklyCeiling
    sel).map (·.1)

/-- The selection without the enhanced tie-break. -/
def pickTarget (n active : ℕ) (readings : ℕ → Option Usage) (enabled : ℕ → Bool)
    (floor sessionCeiling : Option ℚ) (weeklyCeiling : ℚ) : Option ℕ :=
  pickTargetRanked n active readings enabled floor sessionCeiling weeklyCeiling ⟨fun _ => {}, none⟩

/-! ## The relief hint -/

/-- When a blocked spare comes back: once every window that blocks it has reset. -/
def spareRelief (usage : Usage) (sessionBlocked weeklyBlocked : Bool) :
    Option (Int × SwapReason) :=
  match sessionBlocked, weeklyBlocked with
  | true, true =>
    match usage.sessionResetsAt, usage.weeklyResetsAt with
    | some s, some w => some (if s ≤ w then (w, .weekly) else (s, .session))
    | _, _ => none
  | true, false => usage.sessionResetsAt.map (·, .session)
  | false, true => usage.weeklyResetsAt.map (·, .weekly)
  | false, false => none

/-- `session_block_line` or `weekly_block_line` reached; no line is never reached. -/
def blockedAt (x : Option ℚ) (line : Option ℚ) : Bool := line.any (fun l => atLeast x l)

structure ReliefScan where
  relief : Option (ℕ × Int × SwapReason) := none
  firstBlocked : Option (ℕ × SwapReason) := none

def ReliefScan.visit (scan : ReliefScan) (i : ℕ) (usage : Usage)
    (sessionBlocked weeklyBlocked : Bool) : ReliefScan where
  relief :=
    match spareRelief usage sessionBlocked weeklyBlocked with
    | some (at', cause) =>
      match scan.relief with
      | some (j, best, c) => if at' < best then some (i, at', cause) else some (j, best, c)
      | none => some (i, at', cause)
    | none => scan.relief
  firstBlocked :=
    match scan.firstBlocked with
    | some b => some b
    | none => some (i, if weeklyBlocked then .weekly else .session)

def allExhaustedRelief (n active : ℕ) (readings : ℕ → Option Usage) (enabled : ℕ → Bool)
    (sessionBlockLine : Option ℚ) (weeklyBlockLine : ℚ) : SwapReason × ℕ × Option Int :=
  let scan := (List.range n).foldl (fun (scan : ReliefScan) i =>
    if i = active ∨ enabled i = false then scan
    else match readings i with
      | none => scan
      | some usage =>
        let sessionBlocked := blockedAt usage.session sessionBlockLine
        let weeklyBlocked := atLeast usage.weekly weeklyBlockLine
        if sessionBlocked || weeklyBlocked then scan.visit i usage sessionBlocked weeklyBlocked
        else scan) {}
  match scan.relief, scan.firstBlocked with
  | some (i, at', cause), _ => (cause, i, some at')
  | none, some (i, cause) => (cause, i, none)
  | none, none => (.weekly, active, none)

/-! ## What selection guarantees -/

theorem minBy_mem {α : Type} {ord : α → α → Ordering} {l : List α} {a : α}
    (h : minBy ord l = some a) : a ∈ l := by
  cases l with
  | nil => simp [minBy] at h
  | cons b rest =>
    have key : ∀ (rest : List α) (best : α),
        rest.foldl (fun best c => if ord c best = .lt then c else best) best ∈ best :: rest := by
      intro rest
      induction rest with
      | nil => simp
      | cons c rest ih =>
        intro best
        rw [List.foldl_cons]
        have hm := ih (if ord c best = .lt then c else best)
        rcases List.mem_cons.mp hm with hm | hm
        · rw [hm]
          split <;> simp
        · exact List.mem_cons_of_mem _ (List.mem_cons_of_mem _ hm)
    simp only [minBy, Option.some.injEq] at h
    rw [← h]
    exact key rest b

theorem mem_viableTargets {n active : ℕ} {readings : ℕ → Option Usage} {enabled : ℕ → Bool}
    {floor sessionCeiling : Option ℚ} {weeklyCeiling : ℚ} {i : ℕ} {usage : Usage} :
    (i, usage) ∈ viableTargets n active readings enabled floor sessionCeiling weeklyCeiling ↔
      i < n ∧ readings i = some usage ∧
        isViable active enabled floor sessionCeiling weeklyCeiling i usage = true := by
  unfold viableTargets
  rw [List.mem_filterMap]
  constructor
  · rintro ⟨j, hj, hs⟩
    cases hr : readings j with
    | none => simp [hr] at hs
    | some u =>
      simp only [hr] at hs
      split at hs
      · next hv =>
        cases hs
        exact ⟨List.mem_range.mp hj, hr, hv⟩
      · cases hs
  · rintro ⟨hi, hr, hv⟩
    exact ⟨i, List.mem_range.mpr hi, by simp [hr, hv]⟩

/-- A picked target passed every gate on the reading it was picked by. -/
theorem pickTarget_viable {n active : ℕ} {readings : ℕ → Option Usage} {enabled : ℕ → Bool}
    {floor sessionCeiling : Option ℚ} {weeklyCeiling : ℚ} {sel : SelectionTiebreak} {i : ℕ}
    {reason : NextSwapReason}
    (h : pickTargetWithReasonRanked n active readings enabled floor sessionCeiling weeklyCeiling
      sel = some (i, reason)) :
    ∃ usage, i < n ∧ readings i = some usage ∧
      isViable active enabled floor sessionCeiling weeklyCeiling i usage = true := by
  unfold pickTargetWithReasonRanked at h
  simp only at h
  split at h
  · cases h
  · next j usage hm =>
    cases h
    exact ⟨usage, mem_viableTargets.mp (minBy_mem hm)⟩

/-- The reason names the only candidate exactly when there was one. -/
theorem pickTarget_onlyCandidate_iff {n active : ℕ} {readings : ℕ → Option Usage}
    {enabled : ℕ → Bool} {floor sessionCeiling : Option ℚ} {weeklyCeiling : ℚ}
    {sel : SelectionTiebreak} {i : ℕ} {reason : NextSwapReason}
    (h : pickTargetWithReasonRanked n active readings enabled floor sessionCeiling weeklyCeiling
      sel = some (i, reason)) :
    reason = .onlyCandidate ↔
      (viableTargets n active readings enabled floor sessionCeiling weeklyCeiling).length < 2 := by
  unfold pickTargetWithReasonRanked at h
  simp only at h
  split at h
  · cases h
  · next j usage hm =>
    cases h
    constructor
    · intro hr
      by_contra hl
      rw [if_neg hl] at hr
      split at hr <;> cases hr
    · intro hl
      rw [if_pos hl]

end Sessiometer
