import Sessiometer.Daemon.Ranking

/-! # The relief hint

When no target is viable, every spare that was read is blocked; relief is the soonest of the latest resets that
block one of them. -/

namespace Sessiometer

/-- The lower of two lines, where no line stands for an infinite one. -/
def lowerLine : Option ℚ → Option ℚ → Option ℚ
  | some a, some b => some (min a b)
  | some a, none => some a
  | none, line => line

/-- The lines under which the spares are judged, and the roster that they are the spares of. -/
structure Relieving where
  n : ℕ
  active : ℕ
  readings : ℕ → Option Usage
  enabled : ℕ → Bool
  sessionBlockLine : Option ℚ
  weeklyBlockLine : ℚ

namespace Relieving

variable (r : Relieving)

def hint : SwapReason × ℕ × Option Int :=
  allExhaustedRelief r.n r.active r.readings r.enabled r.sessionBlockLine r.weeklyBlockLine

def SessionBlocked (usage : Usage) : Prop := blockedAt usage.session r.sessionBlockLine = true

def WeeklyBlocked (usage : Usage) : Prop := atLeast usage.weekly r.weeklyBlockLine = true

/-- A spare that was read, and is at a line on one of its axes. -/
def Blocked (i : ℕ) (usage : Usage) : Prop :=
  i < r.n ∧ i ≠ r.active ∧ r.enabled i = true ∧ r.readings i = some usage ∧
    (r.SessionBlocked usage ∨ r.WeeklyBlocked usage)

/-- A blocked spare all of whose blocking resets are known, the latest of them, and its axis. -/
structure Returns (i : ℕ) (at' : Int) (cause : SwapReason) : Prop where
  blocked : ∃ usage, r.Blocked i usage ∧
    (r.SessionBlocked usage → ∃ s, usage.sessionResetsAt = some s ∧ s ≤ at') ∧
    (r.WeeklyBlocked usage → ∃ w, usage.weeklyResetsAt = some w ∧ w ≤ at') ∧
    (cause = .weekly ∧ r.WeeklyBlocked usage ∧ usage.weeklyResetsAt = some at' ∨
      cause = .session ∧ r.SessionBlocked usage ∧ usage.sessionResetsAt = some at' ∧
        ¬ (r.WeeklyBlocked usage ∧ usage.weeklyResetsAt = some at'))

/-- A spare as the scan sees it. -/
def visit (scan : ReliefScan) (i : ℕ) : ReliefScan :=
  if i = r.active ∨ r.enabled i = false then scan
  else match r.readings i with
    | none => scan
    | some usage =>
      if blockedAt usage.session r.sessionBlockLine || atLeast usage.weekly r.weeklyBlockLine then
        scan.visit i usage (blockedAt usage.session r.sessionBlockLine) (atLeast usage.weekly r.weeklyBlockLine)
      else scan

def scan (m : ℕ) : ReliefScan := (List.range m).foldl r.visit {}

end Relieving

/-- What a finished scan answers. -/
def ReliefScan.answer (scan : ReliefScan) (active : ℕ) : SwapReason × ℕ × Option Int :=
  match scan.relief, scan.firstBlocked with
  | some (i, at', cause), _ => (cause, i, some at')
  | none, some (i, cause) => (cause, i, none)
  | none, none => (.weekly, active, none)

/-- The spares of a selection, under its own lines: the session line is the lower of the ceiling and the floor. -/
def Ballot.relieving (b : Ballot) : Relieving where
  n := b.n
  active := b.active
  readings := b.readings
  enabled := b.enabled
  sessionBlockLine := lowerLine b.sessionCeiling b.floor
  weeklyBlockLine := b.weeklyCeiling

/-- The daemon holds under the boundary of the lines it selects by. -/
theorem lowerLine_boundary (sessionCeiling targetMax weeklyCeiling : ℚ) :
    lowerLine (some sessionCeiling) (some targetMax) =
      some (viabilityBoundary sessionCeiling targetMax weeklyCeiling).session := rfl

section Spares

variable {r : Relieving} {i j : ℕ} {usage : Usage} {at' : Int} {cause : SwapReason}

theorem spareRelief_iff {sessionBlocked weeklyBlocked : Bool} (h : sessionBlocked = true ∨ weeklyBlocked = true) :
    spareRelief usage sessionBlocked weeklyBlocked = some (at', cause) ↔
      (sessionBlocked = true → ∃ s, usage.sessionResetsAt = some s ∧ s ≤ at') ∧
      (weeklyBlocked = true → ∃ w, usage.weeklyResetsAt = some w ∧ w ≤ at') ∧
      (cause = .weekly ∧ weeklyBlocked = true ∧ usage.weeklyResetsAt = some at' ∨
        cause = .session ∧ sessionBlocked = true ∧ usage.sessionResetsAt = some at' ∧
          ¬ (weeklyBlocked = true ∧ usage.weeklyResetsAt = some at')) := by
  unfold spareRelief
  cases sessionBlocked with
  | false =>
    have hweekly : weeklyBlocked = true := by simpa using h
    subst hweekly
    cases usage.weeklyResetsAt with
    | none => simp
    | some w => grind
  | true =>
    cases weeklyBlocked with
    | false =>
      cases usage.sessionResetsAt with
      | none => simp
      | some s => grind
    | true =>
      cases usage.sessionResetsAt with
      | none => simp
      | some s =>
        cases usage.weeklyResetsAt with
        | none => simp
        | some w =>
          by_cases hle : s ≤ w
          · grind
          · grind

theorem scan_succ (m : ℕ) : r.scan (m + 1) = r.visit (r.scan m) m := by
  unfold Relieving.scan
  rw [List.range_succ, List.foldl_append, List.foldl_cons, List.foldl_nil]

theorem visit_blocked (h : r.Blocked i usage) (scan : ReliefScan) : r.visit scan i =
    scan.visit i usage (blockedAt usage.session r.sessionBlockLine) (atLeast usage.weekly r.weeklyBlockLine) := by
  obtain ⟨-, hactive, henabled, hr, hblocked⟩ := h
  have hlisted : ¬ (i = r.active ∨ r.enabled i = false) := by simp [hactive, henabled]
  unfold Relieving.visit
  rw [if_neg hlisted, hr]
  dsimp only
  rw [if_pos (by rw [Bool.or_eq_true]; exact hblocked)]

theorem visit_unblocked (hi : i < r.n) (h : ∀ usage, ¬ r.Blocked i usage) (scan : ReliefScan) :
    r.visit scan i = scan := by
  unfold Relieving.visit
  by_cases hlisted : i = r.active ∨ r.enabled i = false
  · rw [if_pos hlisted]
  · rw [if_neg hlisted]
    push Not at hlisted
    cases hr : r.readings i with
    | none => rfl
    | some usage =>
      have hfree := h usage
      dsimp only
      apply if_neg
      intro hblocked
      rw [Bool.or_eq_true] at hblocked
      exact hfree ⟨hi, hlisted.1, by simpa using hlisted.2, hr, hblocked⟩

/-- The soonest return before a place, and the first spare that has it. -/
structure Soonest (r : Relieving) (m : ℕ) (relief : Option (ℕ × Int × SwapReason)) : Prop where
  found : ∀ i at' cause, relief = some (i, at', cause) → i < m ∧ r.Returns i at' cause ∧
    ∀ j at'' cause', j < m → r.Returns j at'' cause' → at' < at'' ∨ at' = at'' ∧ i ≤ j
  missing : relief = none → ∀ j at'' cause', j < m → ¬ r.Returns j at'' cause'

/-- The first blocked spare before a place. -/
structure First (r : Relieving) (m : ℕ) (first : Option (ℕ × SwapReason)) : Prop where
  found : ∀ i cause, first = some (i, cause) → i < m ∧
    (∃ usage, r.Blocked i usage ∧ (cause = .weekly ∧ r.WeeklyBlocked usage ∨
      cause = .session ∧ ¬ r.WeeklyBlocked usage)) ∧ ∀ j usage, j < i → ¬ r.Blocked j usage
  missing : first = none → ∀ j usage, j < m → ¬ r.Blocked j usage

section Steps

variable {m : ℕ} {relief : Option (ℕ × Int × SwapReason)} {first : Option (ℕ × SwapReason)}

theorem Soonest.skip (h : Soonest r m relief) (hnone : ∀ at'' cause', ¬ r.Returns m at'' cause') :
    Soonest r (m + 1) relief := by
  constructor
  · intro i at' cause hrelief
    obtain ⟨hi, hreturns, hleast⟩ := h.found i at' cause hrelief
    refine ⟨by omega, hreturns, ?_⟩
    intro j at'' cause' hj hj'
    by_cases hjm : j = m
    · rw [hjm] at hj'
      exact absurd hj' (hnone _ _)
    · exact hleast j at'' cause' (by omega) hj'
  · intro hrelief j at'' cause' hj hj'
    by_cases hjm : j = m
    · rw [hjm] at hj'
      exact hnone _ _ hj'
    · exact h.missing hrelief j at'' cause' (by omega) hj'

theorem First.skip (h : First r m first) (hnone : ∀ usage, ¬ r.Blocked m usage) : First r (m + 1) first := by
  constructor
  · intro i cause hfirst
    obtain ⟨hi, hrest⟩ := h.found i cause hfirst
    exact ⟨by omega, hrest⟩
  · intro hfirst j usage hj hj'
    by_cases hjm : j = m
    · rw [hjm] at hj'
      exact hnone usage hj'
    · exact h.missing hfirst j usage (by omega) hj'

end Steps

theorem Relieving.Returns.unique {at'' : Int} {cause' : SwapReason} (h : r.Returns i at' cause)
    (h' : r.Returns i at'' cause') : at'' = at' ∧ cause' = cause := by
  obtain ⟨usage, hblocked, hs⟩ := h
  obtain ⟨usage', hblocked', hs'⟩ := h'
  obtain rfl : usage = usage' := Option.some.inj (hblocked.2.2.2.1.symm.trans hblocked'.2.2.2.1)
  have hspare := (spareRelief_iff hblocked.2.2.2.2).mpr hs
  have hspare' := (spareRelief_iff hblocked.2.2.2.2).mpr hs'
  have hpair := Option.some.inj (hspare.symm.trans hspare')
  exact ⟨(Prod.mk.inj hpair).1.symm, (Prod.mk.inj hpair).2.symm⟩

theorem returns_iff (h : r.Blocked i usage) : r.Returns i at' cause ↔
    spareRelief usage (blockedAt usage.session r.sessionBlockLine) (atLeast usage.weekly r.weeklyBlockLine) =
      some (at', cause) := by
  rw [spareRelief_iff h.2.2.2.2]
  constructor
  · rintro ⟨usage', h', hs⟩
    obtain rfl : usage = usage' := Option.some.inj (h.2.2.2.1.symm.trans h'.2.2.2.1)
    exact hs
  · intro hs
    exact ⟨usage, h, hs⟩

section Steps

variable {m : ℕ} {relief : Option (ℕ × Int × SwapReason)} {first : Option (ℕ × SwapReason)}

theorem Soonest.fresh (h : Soonest r m none) (hm : r.Returns m at' cause) :
    Soonest r (m + 1) (some (m, at', cause)) := by
  constructor
  · rintro i at₁ cause₁ ⟨⟩
    refine ⟨by omega, hm, ?_⟩
    intro j at'' cause' hj hj'
    by_cases hjm : j = m
    · rw [hjm] at hj'
      exact .inr ⟨(hm.unique hj').1.symm, by omega⟩
    · exact absurd hj' (h.missing rfl j at'' cause' (by omega))
  · intro himpossible
    cases himpossible

theorem Soonest.sooner {best : Int} {c : SwapReason} (h : Soonest r m (some (i, best, c)))
    (hm : r.Returns m at' cause) (hlt : at' < best) : Soonest r (m + 1) (some (m, at', cause)) := by
  obtain ⟨-, -, hleast⟩ := h.found i best c rfl
  constructor
  · rintro i₁ at₁ cause₁ ⟨⟩
    refine ⟨by omega, hm, ?_⟩
    intro j at'' cause' hj hj'
    by_cases hjm : j = m
    · rw [hjm] at hj'
      exact .inr ⟨(hm.unique hj').1.symm, by omega⟩
    · have hbest := hleast j at'' cause' (by omega) hj'
      left
      omega
  · intro himpossible
    cases himpossible

theorem Soonest.later {best : Int} {c : SwapReason} (h : Soonest r m (some (i, best, c)))
    (hm : r.Returns m at' cause) (hle : ¬ at' < best) : Soonest r (m + 1) (some (i, best, c)) := by
  obtain ⟨hi, hreturns, hleast⟩ := h.found i best c rfl
  constructor
  · rintro i₁ at₁ cause₁ ⟨⟩
    refine ⟨by omega, hreturns, ?_⟩
    intro j at'' cause' hj hj'
    by_cases hjm : j = m
    · rw [hjm] at hj' ⊢
      have hsame := (hm.unique hj').1
      omega
    · exact hleast j at'' cause' (by omega) hj'
  · intro himpossible
    cases himpossible

theorem First.fresh (h : First r m none) (hm : r.Blocked m usage) :
    First r (m + 1) (some (m, if atLeast usage.weekly r.weeklyBlockLine then .weekly else .session)) := by
  constructor
  · rintro i cause ⟨⟩
    refine ⟨by omega, ⟨usage, hm, ?_⟩, fun j usage' hj => h.missing rfl j usage' (by omega)⟩
    by_cases hweekly : atLeast usage.weekly r.weeklyBlockLine = true
    · rw [if_pos hweekly]
      exact .inl ⟨rfl, hweekly⟩
    · rw [if_neg hweekly]
      exact .inr ⟨rfl, hweekly⟩
  · intro himpossible
    cases himpossible

theorem First.kept (h : First r m (some (i, cause))) : First r (m + 1) (some (i, cause)) := by
  obtain ⟨hi, hrest⟩ := h.found i cause rfl
  constructor
  · rintro i₁ cause₁ ⟨⟩
    exact ⟨by omega, hrest⟩
  · intro himpossible
    cases himpossible

end Steps

/-- What the scan knows of the spares before a place. -/
theorem scanned (m : ℕ) (hm : m ≤ r.n) : Soonest r m (r.scan m).relief ∧ First r m (r.scan m).firstBlocked := by
  induction m with
  | zero =>
    refine ⟨⟨?_, fun _ j _ _ hj => absurd hj (Nat.not_lt_zero j)⟩,
      ⟨?_, fun _ j _ hj => absurd hj (Nat.not_lt_zero j)⟩⟩
    · intro i at' cause h
      cases h
    · intro i cause h
      cases h
  | succ m ih =>
    obtain ⟨hsoonest, hfirst⟩ := ih (by omega)
    rw [scan_succ]
    by_cases hblocked : ∃ usage, r.Blocked m usage
    · obtain ⟨usage, hblocked⟩ := hblocked
      have hreturns : ∀ at'' cause', r.Returns m at'' cause' ↔ _ := fun _ _ => returns_iff hblocked
      rw [visit_blocked hblocked]
      constructor
      · unfold ReliefScan.visit
        dsimp only
        cases hspare : spareRelief usage (blockedAt usage.session r.sessionBlockLine)
            (atLeast usage.weekly r.weeklyBlockLine) with
        | none =>
          apply hsoonest.skip
          intro at'' cause' hm'
          rw [hreturns, hspare] at hm'
          cases hm'
        | some p =>
          obtain ⟨at', cause⟩ := p
          have hm' := (hreturns at' cause).mpr hspare
          dsimp only
          cases hrelief : (r.scan m).relief with
          | none =>
            rw [hrelief] at hsoonest
            exact hsoonest.fresh hm'
          | some q =>
            obtain ⟨i, best, c⟩ := q
            rw [hrelief] at hsoonest
            dsimp only
            by_cases hlt : at' < best
            · rw [if_pos hlt]
              exact hsoonest.sooner hm' hlt
            · rw [if_neg hlt]
              exact hsoonest.later hm' hlt
      · unfold ReliefScan.visit
        dsimp only
        cases hscan : (r.scan m).firstBlocked with
        | none =>
          rw [hscan] at hfirst
          exact hfirst.fresh hblocked
        | some p =>
          rw [hscan] at hfirst
          exact hfirst.kept
    · push Not at hblocked
      rw [visit_unblocked (by omega) hblocked]
      refine ⟨hsoonest.skip ?_, hfirst.skip hblocked⟩
      rintro at'' cause' ⟨usage, h, -⟩
      exact hblocked usage h

end Spares

section Hint

variable {r : Relieving} {i : ℕ} {at' : Int} {cause : SwapReason}

theorem hint_eq : r.hint = (r.scan r.n).answer r.active := rfl

theorem hint_relief (h : (r.scan r.n).relief = some (i, at', cause)) : r.hint = (cause, i, some at') := by
  rw [hint_eq]
  unfold ReliefScan.answer
  rw [h]

theorem hint_firstBlocked (hrelief : (r.scan r.n).relief = none) (h : (r.scan r.n).firstBlocked = some (i, cause)) :
    r.hint = (cause, i, none) := by
  rw [hint_eq]
  unfold ReliefScan.answer
  rw [hrelief, h]

theorem hint_none (hrelief : (r.scan r.n).relief = none) (h : (r.scan r.n).firstBlocked = none) :
    r.hint = (.weekly, r.active, none) := by
  rw [hint_eq]
  unfold ReliefScan.answer
  rw [hrelief, h]

theorem scan_soonest : Soonest r r.n (r.scan r.n).relief := (scanned r.n le_rfl).1

theorem scan_first : First r r.n (r.scan r.n).firstBlocked := (scanned r.n le_rfl).2

theorem Relieving.Returns.lt (h : r.Returns i at' cause) : i < r.n := by
  obtain ⟨usage, hblocked, -⟩ := h
  exact hblocked.1

/-- With a known return the hint is the soonest one. -/
theorem hint_of_returns (h : r.Returns i at' cause) : ∃ j at'' cause', r.hint = (cause', j, some at'') ∧
    r.Returns j at'' cause' ∧ ∀ k at₃ cause₃, r.Returns k at₃ cause₃ → at'' < at₃ ∨ at'' = at₃ ∧ j ≤ k := by
  cases hrelief : (r.scan r.n).relief with
  | none => exact absurd h (scan_soonest.missing hrelief i at' cause h.lt)
  | some p =>
    obtain ⟨j, at'', cause'⟩ := p
    obtain ⟨-, hreturns, hleast⟩ := scan_soonest.found j at'' cause' hrelief
    exact ⟨j, at'', cause', hint_relief hrelief, hreturns, fun k at₃ cause₃ hk => hleast k at₃ cause₃ hk.lt hk⟩

theorem relief_none (h : ∀ i at' cause, ¬ r.Returns i at' cause) : (r.scan r.n).relief = none := by
  cases hrelief : (r.scan r.n).relief with
  | none => rfl
  | some p =>
    obtain ⟨j, at'', cause'⟩ := p
    exact absurd (scan_soonest.found j at'' cause' hrelief).2.1 (h j at'' cause')

/-- Without a known return the hint is the first blocked spare. -/
theorem hint_of_blocked {usage : Usage} (hnone : ∀ i at' cause, ¬ r.Returns i at' cause) (h : r.Blocked i usage) :
    ∃ j usage' cause, r.hint = (cause, j, none) ∧ r.Blocked j usage' ∧ (∀ k usage'', r.Blocked k usage'' → j ≤ k) ∧
      (cause = .weekly ∧ r.WeeklyBlocked usage' ∨ cause = .session ∧ ¬ r.WeeklyBlocked usage') := by
  cases hfirst : (r.scan r.n).firstBlocked with
  | none => exact absurd h (scan_first.missing hfirst i usage h.1)
  | some p =>
    obtain ⟨j, cause'⟩ := p
    obtain ⟨-, ⟨usage', hblocked, hcause⟩, hleast⟩ := scan_first.found j cause' hfirst
    refine ⟨j, usage', cause', hint_firstBlocked (relief_none hnone) hfirst, hblocked, ?_, hcause⟩
    intro k usage'' hk
    by_contra hlt
    exact hleast k usage'' (by omega) hk

theorem hint_of_unblocked (h : ∀ i usage, ¬ r.Blocked i usage) : r.hint = (.weekly, r.active, none) := by
  apply hint_none
  · apply relief_none
    rintro i at' cause ⟨usage, hblocked, -⟩
    exact h i usage hblocked
  · cases hfirst : (r.scan r.n).firstBlocked with
    | none => rfl
    | some p =>
      obtain ⟨j, cause'⟩ := p
      obtain ⟨-, ⟨usage', hblocked, -⟩, -⟩ := scan_first.found j cause' hfirst
      exact absurd hblocked (h j usage')

/-- Any blocked spare keeps the hint on a spare. -/
theorem hint_blocked {usage : Usage} (h : r.Blocked i usage) : ∃ usage', r.Blocked r.hint.2.1 usage' := by
  by_cases hreturns : ∃ i at' cause, r.Returns i at' cause
  · obtain ⟨j, at', cause, hj⟩ := hreturns
    obtain ⟨k, at'', cause', hhint, ⟨usage', hblocked, -⟩, -⟩ := hint_of_returns hj
    rw [hhint]
    exact ⟨usage', hblocked⟩
  · push Not at hreturns
    obtain ⟨k, usage', cause, hhint, hblocked, -⟩ := hint_of_blocked hreturns h
    rw [hhint]
    exact ⟨usage', hblocked⟩

end Hint

theorem blockedAt_iff {x line : Option ℚ} : blockedAt x line = true ↔ ∃ v l, x = some v ∧ line = some l ∧ l ≤ v := by
  unfold blockedAt atLeast
  cases x with
  | none => simp
  | some v =>
    cases line with
    | none => simp
    | some l => simp

theorem lowerLine_le {line line' : Option ℚ} {l : ℚ} (h : line = some l ∨ line' = some l) :
    ∃ m, lowerLine line line' = some m ∧ (∀ a, line = some a → m ≤ a) ∧ ∀ a, line' = some a → m ≤ a := by
  cases line with
  | none =>
    cases line' with
    | none => simp at h
    | some b => exact ⟨b, rfl, by simp, by simp⟩
  | some a =>
    cases line' with
    | none => exact ⟨a, rfl, by simp, by simp⟩
    | some b => exact ⟨min a b, rfl, by simp, by simp⟩

/-- A spare that was read is viable or blocked, under one pair of lines. -/
theorem blocked_of_not_viable {b : Ballot} {i : ℕ} {usage : Usage} (hi : i < b.n) (hspare : i ≠ b.active)
    (hon : b.enabled i = true) (hread : b.readings i = some usage) (h : ¬ b.Viable i usage) :
    b.relieving.Blocked i usage := by
  refine ⟨hi, hspare, hon, hread, ?_⟩
  unfold Relieving.SessionBlocked Relieving.WeeklyBlocked Ballot.relieving
  rw [blockedAt_iff]
  by_contra hfree
  push Not at hfree
  obtain ⟨hfreeSession, hfreeWeekly⟩ := hfree
  apply h
  refine ⟨hi, hread, hspare, hon, ?_, ?_⟩
  · intro w hw
    by_contra hle
    apply hfreeWeekly
    unfold atLeast
    rw [hw]
    simpa using hle
  · intro s hs
    have hbelow := fun l hl => hfreeSession s l hs hl
    constructor
    · intro c hc
      obtain ⟨l, hl, hle, -⟩ := lowerLine_le (.inl hc)
      exact lt_of_lt_of_le (hbelow l hl) (hle c hc)
    · intro f hf
      obtain ⟨l, hl, -, hle⟩ := lowerLine_le (.inr hf)
      exact lt_of_lt_of_le (hbelow l hl) (hle f hf)

/-- Without a viable target every spare that was read is blocked, under the lines of the selection; the hint is the
soonest return and the first spare that has it, else the first blocked spare, else the active account. -/
theorem relief_minmax (b : Ballot) :
    (b.pick = none → ∀ i usage, i < b.n → i ≠ b.active → b.enabled i = true → b.readings i = some usage →
      b.relieving.Blocked i usage) ∧
    (∀ i at' cause, b.relieving.Returns i at' cause → ∃ j at'' cause', b.relieving.hint = (cause', j, some at'') ∧
      b.relieving.Returns j at'' cause' ∧
      ∀ k at₃ cause₃, b.relieving.Returns k at₃ cause₃ → at'' < at₃ ∨ at'' = at₃ ∧ j ≤ k) ∧
    ((∀ i at' cause, ¬ b.relieving.Returns i at' cause) → ∀ i usage, b.relieving.Blocked i usage →
      ∃ j usage' cause, b.relieving.hint = (cause, j, none) ∧ b.relieving.Blocked j usage' ∧
        (∀ k usage'', b.relieving.Blocked k usage'' → j ≤ k) ∧
        (cause = .weekly ∧ b.relieving.WeeklyBlocked usage' ∨ cause = .session ∧ ¬ b.relieving.WeeklyBlocked usage')) ∧
    ((∀ i usage, ¬ b.relieving.Blocked i usage) → b.relieving.hint = (.weekly, b.active, none)) ∧
    ∀ i usage, b.relieving.Blocked i usage → b.relieving.hint.2.1 ≠ b.active ∧ b.enabled b.relieving.hint.2.1 = true := by
  refine ⟨?_, fun _ _ _ => hint_of_returns, fun hnone _ _ => hint_of_blocked hnone, hint_of_unblocked, ?_⟩
  · intro hpick i usage hi hspare hon hread
    have hnot := pick_eq_none.mp hpick i usage
    exact blocked_of_not_viable hi hspare hon hread hnot
  · intro i usage hblocked
    obtain ⟨usage', -, hspare, hon, -⟩ := hint_blocked hblocked
    exact ⟨hspare, hon⟩

end Sessiometer
