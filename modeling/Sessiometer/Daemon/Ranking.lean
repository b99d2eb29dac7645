import Mathlib.Data.List.MinMax
import Mathlib.Data.List.Nodup
import Mathlib.Data.Prod.Lex
import Mathlib.Data.Int.ConditionallyCompleteOrder
import Mathlib.Algebra.Order.Ring.Unbundled.Rat
import Sessiometer.Daemon.Selection

/-! # The order of the targets

The selection is an argmin: every candidate has a rank in a linear order, and the least rank wins. -/

namespace Sessiometer

/-! ## The rank -/

/-- Known weekly resets before unknown ones, sooner ones first; then, under a seed, the gentler climb and the
seeded key; then the roster. -/
abbrev Rank := WithTop ℤ ×ₗ WithBot ℚ ×ₗ ℕ ×ₗ ℕ

def resetRank (resetsAt : Option Int) : WithTop ℤ := resetsAt.elim ⊤ fun r => (r : WithTop ℤ)

def climbRank (climb : Option ℚ) : WithBot ℚ := climb.elim ⊥ fun rate => (rate : WithBot ℚ)

def SelectionTiebreak.climb (sel : SelectionTiebreak) (c : ℕ × Usage) : Option ℚ :=
  sel.seed.bind fun _ => observedClimb c.2 sel.accounts c.1

def SelectionTiebreak.key (sel : SelectionTiebreak) (i : ℕ) : ℕ :=
  sel.seed.elim 0 fun seed => (selectionTiebreakKey seed i).toNat

def rank (sel : SelectionTiebreak) (c : ℕ × Usage) : Rank :=
  toLex (resetRank c.2.weeklyResetsAt, toLex (climbRank (sel.climb c), toLex (sel.key c.1, c.1)))

section Orders

variable {sel : SelectionTiebreak} {a b : ℕ × Usage}

theorem compare_eq_lt_iff {α : Type} [LinearOrder α] {x y : α} : compare x y = .lt ↔ x < y := compare_lt_iff_lt

theorem resetOrdering_spec (x y : Option Int) :
    (resetOrdering x y = .lt ↔ resetRank x < resetRank y) ∧ (resetOrdering x y = .eq ↔ resetRank x = resetRank y) := by
  cases x with
  | none =>
    cases y with
    | none => simp [resetOrdering, resetRank]
    | some r => simp [resetOrdering, resetRank]
  | some r =>
    cases y with
    | none => simp [resetOrdering, resetRank]
    | some r' =>
      simp only [resetOrdering, resetRank, Option.elim_some, WithTop.coe_lt_coe, WithTop.coe_inj]
      exact ⟨compare_lt_iff_lt, compare_eq_iff_eq⟩

theorem climbOrdering_spec (x y : Option ℚ) :
    (climbOrdering x y = .lt ↔ climbRank x < climbRank y) ∧ (climbOrdering x y = .eq ↔ climbRank x = climbRank y) := by
  cases x with
  | none =>
    cases y with
    | none => simp [climbOrdering, climbRank]
    | some r => simp [climbOrdering, climbRank]
  | some r =>
    cases y with
    | none => simp [climbOrdering, climbRank]
    | some r' =>
      simp only [climbOrdering, climbRank, Option.elim_some, WithBot.coe_lt_coe, WithBot.coe_inj]
      exact ⟨compare_lt_iff_lt, compare_eq_iff_eq⟩

theorem keyOrdering_spec (x y : UInt64) :
    (compare x y = .lt ↔ x.toNat < y.toNat) ∧ (compare x y = .eq ↔ x.toNat = y.toNat) := by
  rw [← UInt64.lt_iff_toNat_lt, UInt64.toNat_inj]
  change (compareOfLessAndEq x y = .lt ↔ _) ∧ (compareOfLessAndEq x y = .eq ↔ _)
  unfold compareOfLessAndEq
  by_cases hlt : x < y
  · have hne : x ≠ y := by
      rintro rfl
      exact UInt64.lt_irrefl _ hlt
    simp [hlt, hne]
  · by_cases heq : x = y
    · simp [heq]
    · simp [hlt, heq]

theorem lexOrdering_lt (x y : Option Int) (c c' : Option ℚ) (k k' : UInt64) (i j : ℕ) :
    (resetOrdering x y).then (((climbOrdering c c').then (compare k k')).then (compare i j)) = .lt ↔
      (toLex (resetRank x, toLex (climbRank c, toLex (k.toNat, i))) : Rank) <
        toLex (resetRank y, toLex (climbRank c', toLex (k'.toNat, j))) := by
  have hindex : compare i j = .lt ↔ i < j := compare_lt_iff_lt
  obtain ⟨hreset, hreset'⟩ := resetOrdering_spec x y
  obtain ⟨hclimb, hclimb'⟩ := climbOrdering_spec c c'
  obtain ⟨hkey, hkey'⟩ := keyOrdering_spec k k'
  rw [Prod.Lex.toLex_lt_toLex, Prod.Lex.toLex_lt_toLex, Prod.Lex.toLex_lt_toLex, Ordering.then_eq_lt, hreset, hreset',
    Ordering.then_eq_lt, hindex, Ordering.then_eq_lt, Ordering.then_eq_eq, hclimb, hclimb', hkey, hkey', or_assoc,
    and_assoc, ← and_or_left]

theorem key_seeded {seed : UInt64} (h : sel.seed = some seed) (i : ℕ) :
    sel.key i = (selectionTiebreakKey seed i).toNat := by
  unfold SelectionTiebreak.key
  rw [h, Option.elim_some]

theorem climb_seeded {seed : UInt64} (h : sel.seed = some seed) (c : ℕ × Usage) :
    sel.climb c = observedClimb c.2 sel.accounts c.1 := by
  unfold SelectionTiebreak.climb
  rw [h, Option.bind_some]

/-- The comparison of the selection is the order of the ranks. -/
theorem targetOrdering_lt : targetOrdering sel a b = .lt ↔ rank sel a < rank sel b := by
  cases hseed : sel.seed with
  | none =>
    have hzero := lexOrdering_lt a.2.weeklyResetsAt b.2.weeklyResetsAt none none 0 0 a.1 b.1
    unfold targetOrdering rank SelectionTiebreak.climb SelectionTiebreak.key
    rw [hseed]
    exact hzero
  | some seed =>
    have hseeded := lexOrdering_lt a.2.weeklyResetsAt b.2.weeklyResetsAt (observedClimb a.2 sel.accounts a.1)
      (observedClimb b.2 sel.accounts b.1) (selectionTiebreakKey seed a.1) (selectionTiebreakKey seed b.1) a.1 b.1
    unfold targetOrdering rank
    rw [hseed, key_seeded hseed, key_seeded hseed, climb_seeded hseed, climb_seeded hseed]
    exact hseeded

theorem rank_inj_index (h : rank sel a = rank sel b) : a.1 = b.1 := by
  have hlex := congrArg ofLex h
  simp only [rank, ofLex_toLex, Prod.mk.injEq, toLex_inj] at hlex
  exact hlex.2.2.2

end Orders

/-- The least element in the order of a comparison is the argmin of what it compares. -/
theorem minBy_eq_argmin {α β : Type} [LinearOrder β] {ord : α → α → Ordering} {f : α → β}
    (h : ∀ a b, ord a b = .lt ↔ f a < f b) (l : List α) : minBy ord l = l.argmin f := by
  cases l with
  | nil => rfl
  | cons a rest =>
    have hfold : ∀ (rest : List α) (best : α),
        rest.foldl (List.argAux fun b c => f b < f c) (some best) =
          some (rest.foldl (fun best b => if ord b best = .lt then b else best) best) := by
      intro rest
      induction rest with
      | nil => simp
      | cons b rest ih =>
        intro best
        have hstep : List.argAux (fun b c => f b < f c) (some best) b =
            some (if ord b best = .lt then b else best) := by
          simp only [List.argAux, h]
          split <;> rfl
        rw [List.foldl_cons, List.foldl_cons, hstep, ih]
    have hfirst := hfold rest a
    simp only [minBy, List.argmin, List.foldl_cons]
    exact hfirst.symm

/-! ## The selection -/

/-- What a target is selected from. -/
structure Ballot where
  n : ℕ
  active : ℕ
  readings : ℕ → Option Usage
  enabled : ℕ → Bool
  floor : Option ℚ
  sessionCeiling : Option ℚ
  weeklyCeiling : ℚ
  sel : SelectionTiebreak

namespace Ballot

variable (b : Ballot)

def pick : Option (ℕ × NextSwapReason) :=
  pickTargetWithReasonRanked b.n b.active b.readings b.enabled b.floor b.sessionCeiling b.weeklyCeiling b.sel

/-- An account of the roster that is enabled, not active, and read under every line that applies. -/
def Viable (i : ℕ) (usage : Usage) : Prop :=
  i < b.n ∧ b.readings i = some usage ∧ i ≠ b.active ∧ b.enabled i = true ∧
    (∀ w, usage.weekly = some w → w < b.weeklyCeiling) ∧
    (∀ s, usage.session = some s → (∀ c, b.sessionCeiling = some c → s < c) ∧ ∀ f, b.floor = some f → s < f)

def viable : List (ℕ × Usage) :=
  viableTargets b.n b.active b.readings b.enabled b.floor b.sessionCeiling b.weeklyCeiling

end Ballot

section Picks

variable {b : Ballot} {i j : ℕ} {usage : Usage} {why : NextSwapReason}

theorem isBelow_iff {x line : Option ℚ} : isBelow x line = true ↔ ∀ v, x = some v → ∀ l, line = some l → v < l := by
  unfold isBelow
  cases x with
  | none => simp
  | some v =>
    cases line with
    | none => simp
    | some l => simp

theorem mem_viable : (i, usage) ∈ b.viable ↔ b.Viable i usage := by
  unfold Ballot.viable Ballot.Viable
  rw [mem_viableTargets]
  simp only [isViable, Bool.and_eq_true, bne_iff_ne, isBelow_iff]
  constructor
  · rintro ⟨hi, hr, ⟨⟨⟨hactive, henabled⟩, hweekly⟩, hsession⟩, hfloor⟩
    exact ⟨hi, hr, hactive, henabled, fun w hw => hweekly w hw _ rfl, fun s hs => ⟨hsession s hs, hfloor s hs⟩⟩
  · rintro ⟨hi, hr, hactive, henabled, hweekly, hsession⟩
    refine ⟨hi, hr, ⟨⟨⟨hactive, henabled⟩, ?_⟩, fun s hs => (hsession s hs).1⟩, fun s hs => (hsession s hs).2⟩
    rintro w hw l ⟨⟩
    exact hweekly w hw

theorem Ballot.Viable.usage_eq {usage' : Usage} (h : b.Viable i usage) (h' : b.Viable i usage') :
    usage' = usage := Option.some.inj (h'.2.1.symm.trans h.2.1)

theorem viable_nodup : b.viable.Nodup := by
  unfold Ballot.viable viableTargets
  apply List.Nodup.filterMap _ List.nodup_range
  intro i i' c hi hi'
  have hindex : c.1 = i := by
    split at hi
    · split at hi
      · rw [← Option.some.inj hi]
      · cases hi
    · cases hi
  have hindex' : c.1 = i' := by
    split at hi'
    · split at hi'
      · rw [← Option.some.inj hi']
      · cases hi'
    · cases hi'
  exact hindex.symm.trans hindex'

theorem viable_length : b.viable.length < 2 ↔ ∀ i j u v, b.Viable i u → b.Viable j v → j = i := by
  constructor
  · intro hlength i j u v hu hv
    have hi := mem_viable.mpr hu
    have hj := mem_viable.mpr hv
    obtain ⟨c, hc⟩ := List.length_eq_one_iff.mp (by
      have hpos := List.length_pos_of_mem hi
      omega : b.viable.length = 1)
    rw [hc, List.mem_singleton] at hi hj
    rw [← hi] at hj
    exact congrArg Prod.fst hj
  · intro hsame
    have hnodup := viable_nodup (b := b)
    by_contra hlength
    match hviable : b.viable with
    | [] => simp [hviable] at hlength
    | [c] => simp [hviable] at hlength
    | c :: c' :: rest =>
      have hc : b.Viable c.1 c.2 := mem_viable.mp (by rw [hviable]; exact List.mem_cons_self)
      have hc' : b.Viable c'.1 c'.2 := mem_viable.mp (by rw [hviable]; simp)
      have hindex := hsame _ _ _ _ hc hc'
      have hpair : c' = c := by
        apply Prod.ext hindex
        rw [hindex] at hc'
        exact hc.usage_eq hc'
      rw [hviable, hpair, List.nodup_cons] at hnodup
      exact hnodup.1 List.mem_cons_self

/-- The reason of a pick. -/
def Ballot.reason (b : Ballot) (usage : Usage) : NextSwapReason :=
  if b.viable.length < 2 then .onlyCandidate
  else match usage.weeklyResetsAt with
    | some resetsAt => .soonestReset resetsAt
    | none => .rosterOrder

theorem pick_eq : b.pick = (b.viable.argmin (rank b.sel)).map fun c => (c.1, b.reason c.2) := by
  have hlt : ∀ c c', targetOrdering b.sel c c' = .lt ↔ rank b.sel c < rank b.sel c' :=
    fun _ _ => targetOrdering_lt
  have hmin := minBy_eq_argmin hlt b.viable
  rw [← hmin]
  unfold Ballot.pick pickTargetWithReasonRanked Ballot.reason
  have hviable : viableTargets b.n b.active b.readings b.enabled b.floor b.sessionCeiling b.weeklyCeiling =
      b.viable := rfl
  dsimp only
  rw [hviable]
  cases minBy (targetOrdering b.sel) b.viable with
  | none => rfl
  | some c => rfl

theorem pick_eq_none : b.pick = none ↔ ∀ i u, ¬ b.Viable i u := by
  rw [pick_eq, Option.map_eq_none_iff, List.argmin_eq_none, List.eq_nil_iff_forall_not_mem]
  constructor
  · intro h i u hviable
    exact h (i, u) (mem_viable.mpr hviable)
  · rintro h ⟨i, u⟩ hmem
    exact h i u (mem_viable.mp hmem)

/-- A pick is the viable account of the least rank. -/
theorem pick_eq_some : b.pick = some (i, why) ↔
    ∃ u, b.Viable i u ∧ (∀ j v, b.Viable j v → rank b.sel (i, u) ≤ rank b.sel (j, v)) ∧ why = b.reason u := by
  rw [pick_eq, Option.map_eq_some_iff]
  constructor
  · rintro ⟨⟨i', u⟩, hmin, hpair⟩
    obtain ⟨rfl, rfl⟩ := Prod.mk.inj hpair
    exact ⟨u, mem_viable.mp (List.argmin_mem hmin),
      fun j v hv => List.le_of_mem_argmin (mem_viable.mpr hv) hmin, rfl⟩
  · rintro ⟨u, hviable, hleast, rfl⟩
    cases hmin : b.viable.argmin (rank b.sel) with
    | none =>
      rw [List.argmin_eq_none] at hmin
      have hmem := mem_viable.mpr hviable
      rw [hmin] at hmem
      cases hmem
    | some c =>
      obtain ⟨j, v⟩ := c
      have hv := mem_viable.mp (List.argmin_mem hmin)
      have hle := List.le_of_mem_argmin (mem_viable.mpr hviable) hmin
      have hindex : j = i := rank_inj_index (le_antisymm hle (hleast j v hv))
      subst hindex
      rw [hviable.usage_eq hv]
      exact ⟨(j, u), rfl, rfl⟩

theorem reason_onlyCandidate (h : b.Viable i usage) :
    b.reason usage = .onlyCandidate ↔ ∀ j v, b.Viable j v → j = i := by
  have honly : b.viable.length < 2 ↔ ∀ j v, b.Viable j v → j = i := by
    rw [viable_length]
    constructor
    · intro hsame j v hv
      exact hsame i j usage v h hv
    · intro hsame k j u v hu hv
      rw [hsame j v hv, hsame k u hu]
  rw [← honly]
  unfold Ballot.reason
  by_cases hlength : b.viable.length < 2
  · simp [hlength]
  · rw [if_neg hlength]
    cases usage.weeklyResetsAt with
    | none => simp [hlength]
    | some r => simp [hlength]

theorem resetRank_eq_top {x : Option Int} : resetRank x = ⊤ ↔ x = none := by
  cases x with
  | none => simp [resetRank]
  | some r => simp [resetRank]

/-- The head of a rank is no later than that of a higher one. -/
theorem resetRank_le {sel : SelectionTiebreak} {c c' : ℕ × Usage} (h : rank sel c ≤ rank sel c') :
    resetRank c.2.weeklyResetsAt ≤ resetRank c'.2.weeklyResetsAt := by
  unfold rank at h
  rw [Prod.Lex.toLex_le_toLex] at h
  rcases h with h | h
  · exact h.le
  · exact h.1.le

theorem reason_rosterOrder (h : b.Viable i usage)
    (hleast : ∀ j v, b.Viable j v → rank b.sel (i, usage) ≤ rank b.sel (j, v)) :
    b.reason usage = .rosterOrder ↔
      (∃ j v, b.Viable j v ∧ j ≠ i) ∧ ∀ j v, b.Viable j v → v.weeklyResetsAt = none := by
  have hknown : usage.weeklyResetsAt = none ↔ ∀ j v, b.Viable j v → v.weeklyResetsAt = none := by
    constructor
    · intro hnone j v hv
      have hle := resetRank_le (hleast j v hv)
      rw [resetRank_eq_top.mpr hnone, top_le_iff] at hle
      exact resetRank_eq_top.mp hle
    · intro hall
      exact hall i usage h
  have honly := reason_onlyCandidate h
  by_cases hlength : b.viable.length < 2
  · have hreason : b.reason usage = .onlyCandidate := if_pos hlength
    have hsame := honly.mp hreason
    rw [hreason]
    constructor
    · intro himpossible
      cases himpossible
    · rintro ⟨⟨j, v, hv, hne⟩, -⟩
      exact absurd (hsame j v hv) hne
  · have hother : ∃ j v, b.Viable j v ∧ j ≠ i := by
      by_contra hnone
      push Not at hnone
      have hreason := honly.mpr hnone
      unfold Ballot.reason at hreason
      rw [if_neg hlength] at hreason
      cases hr : usage.weeklyResetsAt with
      | none => simp [hr] at hreason
      | some r => simp [hr] at hreason
    rw [← hknown]
    unfold Ballot.reason
    rw [if_neg hlength]
    cases hr : usage.weeklyResetsAt with
    | none => exact ⟨fun _ => ⟨hother, rfl⟩, fun _ => rfl⟩
    | some r => simp

/-- The reason is that of the reset alone. -/
theorem reason_congr {b' : Ballot} (hviable : ∀ j v, b'.Viable j v ↔ b.Viable j v) {usage' : Usage}
    (hreset : usage'.weeklyResetsAt = usage.weeklyResetsAt) : b'.reason usage' = b.reason usage := by
  have hlength : b'.viable.length < 2 ↔ b.viable.length < 2 := by
    rw [viable_length, viable_length]
    simp only [hviable]
  unfold Ballot.reason
  simp only [hlength, hreset]

end Picks

/-! ## What the selection depends on -/

namespace Ballot

/-- The same selection under another seed. -/
def reseeded (b : Ballot) (seed : Option UInt64) : Ballot := { b with sel := ⟨b.sel.accounts, seed⟩ }

/-- Other readings, another mask, other velocities, of the same roster under the same lines. -/
def altered (b : Ballot) (readings : ℕ → Option Usage) (enabled : ℕ → Bool) (accounts : ℕ → AccountRuntime) :
    Ballot :=
  { b with readings := readings, enabled := enabled, sel := ⟨accounts, b.sel.seed⟩ }

/-- An account is the same in both selections. -/
def Same (b b' : Ballot) (i : ℕ) : Prop :=
  b'.readings i = b.readings i ∧ b'.enabled i = b.enabled i ∧
    (b'.sel.accounts i).sustainedSessionVelocity = (b.sel.accounts i).sustainedSessionVelocity

/-- The place in the roster of what stands at a place once another account has left it. -/
def skip (k i : ℕ) : ℕ := if i < k then i else i + 1

/-- The roster without one of its accounts, none of which is the active one. -/
def remove (b : Ballot) (k : ℕ) : Ballot where
  n := b.n - 1
  active := if b.active < k then b.active else b.active - 1
  readings i := b.readings (skip k i)
  enabled i := b.enabled (skip k i)
  floor := b.floor
  sessionCeiling := b.sessionCeiling
  weeklyCeiling := b.weeklyCeiling
  sel := ⟨fun i => b.sel.accounts (skip k i), b.sel.seed⟩

end Ballot

section Dependence

variable {b : Ballot} {i j k : ℕ} {u v : Usage} {why : NextSwapReason}
  {readings : ℕ → Option Usage} {enabled : ℕ → Bool} {accounts : ℕ → AccountRuntime}

theorem viable_same (h : b.Same (b.altered readings enabled accounts) i) :
    (b.altered readings enabled accounts).Viable i u ↔ b.Viable i u := by
  obtain ⟨hr, he, -⟩ := h
  unfold Ballot.Viable
  rw [hr, he]
  exact Iff.rfl

theorem rank_same (h : b.Same (b.altered readings enabled accounts) i) :
    rank (b.altered readings enabled accounts).sel (i, u) = rank b.sel (i, u) := by
  obtain ⟨-, -, hv⟩ := h
  have hclimb : observedClimb u (b.altered readings enabled accounts).sel.accounts i =
      observedClimb u b.sel.accounts i := by
    unfold observedClimb
    rw [hv]
  unfold rank SelectionTiebreak.climb
  rw [hclimb]
  rfl

theorem exists_pick (h : b.Viable i u) : ∃ j v, b.pick = some (j, b.reason v) ∧ b.Viable j v ∧
    ∀ k w, b.Viable k w → rank b.sel (j, v) ≤ rank b.sel (k, w) := by
  cases hpick : b.pick with
  | none => exact absurd h (pick_eq_none.mp hpick i u)
  | some p =>
    obtain ⟨j, why⟩ := p
    obtain ⟨v, hv, hleast, hwhy⟩ := pick_eq_some.mp hpick
    exact ⟨j, v, by rw [hwhy], hv, hleast⟩

theorem reason_of_two (hu : b.Viable i u) (hv : b.Viable j v) (hne : j ≠ i) (w : Usage) :
    b.reason w = match w.weeklyResetsAt with
      | some resetsAt => .soonestReset resetsAt
      | none => .rosterOrder := by
  have hlength : ¬ b.viable.length < 2 := fun h => hne (viable_length.mp h i j u v hu hv)
  unfold Ballot.reason
  rw [if_neg hlength]

theorem resetRank_inj {x y : Option Int} (h : resetRank x = resetRank y) : x = y := by
  cases x with
  | none => exact (resetRank_eq_top.mp h.symm).symm
  | some r =>
    cases y with
    | none => simp [resetRank] at h
    | some r' => simpa [resetRank] using h

/-- The seed decides neither whether there is a target nor what the reason is. -/
theorem pick_reseeded (seed : Option UInt64) :
    (b.reseeded seed).pick.map Prod.snd = b.pick.map Prod.snd := by
  have hviable : ∀ j v, (b.reseeded seed).Viable j v ↔ b.Viable j v := fun _ _ => Iff.rfl
  cases hpick : b.pick with
  | none =>
    have hnone : (b.reseeded seed).pick = none :=
      pick_eq_none.mpr (fun i u hv => pick_eq_none.mp hpick i u ((hviable i u).mp hv))
    rw [hnone]
  | some p =>
    obtain ⟨i, why⟩ := p
    obtain ⟨u, hu, hleast, rfl⟩ := pick_eq_some.mp hpick
    obtain ⟨j, v, hj, hv, hleast'⟩ := exists_pick ((hviable i u).mpr hu)
    have hreset : v.weeklyResetsAt = u.weeklyResetsAt :=
      resetRank_inj (le_antisymm (resetRank_le (hleast' i u hu)) (resetRank_le (hleast j v hv)))
    rw [hj, Option.map_some, Option.map_some, reason_congr hviable hreset]

/-- What decides before the key and the roster do. -/
def SelectionTiebreak.head (sel : SelectionTiebreak) (c : ℕ × Usage) : WithTop ℤ ×ₗ WithBot ℚ :=
  toLex (resetRank c.2.weeklyResetsAt, climbRank (sel.climb c))

theorem rank_le_iff {sel : SelectionTiebreak} {c c' : ℕ × Usage} : rank sel c ≤ rank sel c' ↔
    sel.head c < sel.head c' ∨ sel.head c = sel.head c' ∧
      (sel.key c.1 < sel.key c'.1 ∨ sel.key c.1 = sel.key c'.1 ∧ c.1 ≤ c'.1) := by
  unfold rank SelectionTiebreak.head
  rw [Prod.Lex.toLex_le_toLex, Prod.Lex.toLex_le_toLex, Prod.Lex.toLex_le_toLex, Prod.Lex.toLex_lt_toLex, toLex_inj,
    Prod.mk.injEq, or_assoc, and_assoc, ← and_or_left]

theorem viable_remove (hk : k < b.n) (hactive : b.active ≠ k) :
    (b.remove k).Viable i u ↔ b.Viable (Ballot.skip k i) u := by
  have hn : i < b.n - 1 ↔ Ballot.skip k i < b.n := by
    unfold Ballot.skip
    split <;> omega
  have hi : i ≠ (if b.active < k then b.active else b.active - 1) ↔ Ballot.skip k i ≠ b.active := by
    unfold Ballot.skip
    split <;> split <;> omega
  unfold Ballot.Viable Ballot.remove
  dsimp only
  rw [hn, hi]

theorem skip_inj (h : Ballot.skip k i = Ballot.skip k j) : i = j := by
  unfold Ballot.skip at h
  split at h <;> split at h <;> omega

theorem skip_le (h : Ballot.skip k i ≤ Ballot.skip k j) : i ≤ j := by
  unfold Ballot.skip at h
  split at h <;> split at h <;> omega

theorem head_remove : (b.remove k).sel.head (i, u) = b.sel.head (Ballot.skip k i, u) := rfl

theorem key_unseeded {sel : SelectionTiebreak} (h : sel.seed = none) (i : ℕ) : sel.key i = 0 := by
  unfold SelectionTiebreak.key
  rw [h, Option.elim_none]

/-- An account that leaves the roster leaves the winner, unless the seeded keys decide. -/
theorem pick_remove (hk : k < b.n) (hactive : b.active ≠ k) (hpick : b.pick = some (Ballot.skip k i, why))
    (hclear : b.sel.seed = none ∨ ∀ u, b.Viable (Ballot.skip k i) u → ∀ j v, b.Viable j v → j ≠ Ballot.skip k i →
      b.sel.head (j, v) ≠ b.sel.head (Ballot.skip k i, u)) :
    (b.remove k).pick.map Prod.fst = some i := by
  obtain ⟨u, hu, hleast, -⟩ := pick_eq_some.mp hpick
  obtain ⟨j, v, hj, hv, hleast'⟩ := exists_pick ((viable_remove hk hactive).mpr hu)
  have hle := hleast' i u ((viable_remove hk hactive).mpr hu)
  have hv' := (viable_remove hk hactive).mp hv
  have hge := hleast _ v hv'
  rw [rank_le_iff, head_remove, head_remove] at hle
  rw [rank_le_iff] at hge
  have hhead : b.sel.head (Ballot.skip k j, v) = b.sel.head (Ballot.skip k i, u) := by
    rcases hle with hlt | ⟨heq, -⟩
    · rcases hge with hgt | ⟨heq, -⟩
      · exact absurd hlt hgt.asymm
      · exact heq.symm
    · exact heq
  rw [hj, Option.map_some]
  by_contra hne
  have hindex : j ≠ i := fun h => hne (congrArg some h)
  rcases hclear with hseed | hclear
  · have hkeys : ∀ c, (b.remove k).sel.key c = 0 := key_unseeded hseed
    rw [hkeys, hkeys] at hle
    rw [key_unseeded hseed, key_unseeded hseed] at hge
    have hji : j ≤ i := by
      rcases hle with hlt | ⟨-, hlt | ⟨-, hle⟩⟩
      · exact absurd hhead hlt.ne
      · exact absurd hlt (lt_irrefl 0)
      · exact hle
    have hij : i ≤ j := by
      rcases hge with hlt | ⟨-, hlt | ⟨-, hle⟩⟩
      · exact absurd hhead.symm hlt.ne
      · exact absurd hlt (lt_irrefl 0)
      · exact skip_le hle
    exact hindex (le_antisymm hji hij)
  · exact hclear u hu _ v hv' (fun h => hindex (skip_inj h)) hhead

/-- No alteration of other accounts makes a third one the winner. -/
theorem pick_altered (hpick : b.pick = some (i, why))
    (hsame : b.Same (b.altered readings enabled accounts) i) :
    ∃ j why', (b.altered readings enabled accounts).pick = some (j, why') ∧
      (j ≠ i → ¬ b.Same (b.altered readings enabled accounts) j) ∧
      (j = i → (∃ k v, b.Viable k v ∧ k ≠ i) →
        (∃ k v, (b.altered readings enabled accounts).Viable k v ∧ k ≠ i) → why' = why) := by
  obtain ⟨u, hu, hleast, rfl⟩ := pick_eq_some.mp hpick
  have hu' := (viable_same hsame).mpr hu
  obtain ⟨j, v, hj, hv, hleast'⟩ := exists_pick hu'
  refine ⟨j, _, hj, fun hne hsame' => hne ?_, ?_⟩
  · have hle := hleast' i u hu'
    rw [rank_same hsame', rank_same hsame] at hle
    exact rank_inj_index (le_antisymm hle (hleast j v ((viable_same hsame').mp hv)))
  · rintro rfl ⟨k, w, hw, hk⟩ ⟨k', w', hw', hk'⟩
    rw [hu'.usage_eq hv, reason_of_two hu hw hk, reason_of_two hu' hw' hk']

end Dependence

/-- The selection is the argmin of the rank over the viable accounts; what it says does not depend on the seed,
and who it names does not depend on the others, as long as none of them comes to be the one it names. -/
theorem selection_least (b : Ballot) :
    (b.pick = none ↔ ∀ i u, ¬ b.Viable i u) ∧
      (∀ i why, b.pick = some (i, why) → ∃ u, b.Viable i u ∧
        (∀ j v, b.Viable j v → rank b.sel (i, u) ≤ rank b.sel (j, v)) ∧
        (why = .onlyCandidate ↔ ∀ j v, b.Viable j v → j = i) ∧
        (why = .rosterOrder ↔ (∃ j v, b.Viable j v ∧ j ≠ i) ∧ ∀ j v, b.Viable j v → v.weeklyResetsAt = none)) ∧
      (∀ seed, (b.reseeded seed).pick.map Prod.snd = b.pick.map Prod.snd) ∧
      (∀ i why readings enabled accounts, b.pick = some (i, why) →
        b.Same (b.altered readings enabled accounts) i →
        ∃ j why', (b.altered readings enabled accounts).pick = some (j, why') ∧
          (j ≠ i → ¬ b.Same (b.altered readings enabled accounts) j) ∧
          (j = i → (∃ k v, b.Viable k v ∧ k ≠ i) →
            (∃ k v, (b.altered readings enabled accounts).Viable k v ∧ k ≠ i) → why' = why)) ∧
      ∀ k i why, k < b.n → b.active ≠ k → b.pick = some (Ballot.skip k i, why) →
        (b.sel.seed = none ∨ ∀ u, b.Viable (Ballot.skip k i) u → ∀ j v, b.Viable j v → j ≠ Ballot.skip k i →
          b.sel.head (j, v) ≠ b.sel.head (Ballot.skip k i, u)) →
        (b.remove k).pick.map Prod.fst = some i := by
  refine ⟨pick_eq_none, ?_, pick_reseeded, fun _ _ _ _ _ hpick hsame => pick_altered hpick hsame,
    fun _ _ _ hk hactive hpick hclear => pick_remove hk hactive hpick hclear⟩
  intro i why hpick
  obtain ⟨u, hu, hleast, rfl⟩ := pick_eq_some.mp hpick
  exact ⟨u, hu, hleast, reason_onlyCandidate hu, reason_rosterOrder hu hleast⟩


/-- Four accounts of which nothing is known, the first one active. -/
def tiedBallot : Ballot where
  n := 4
  active := 0
  readings _ := some ⟨none, none, none, none⟩
  enabled _ := true
  floor := none
  sessionCeiling := none
  weeklyCeiling := 1
  sel := ⟨fun _ => {}, some 1⟩

/-- A loser whose reset becomes the soonest wins; and an account that leaves the roster gives those after it other
keys, and the tie another winner. -/
theorem loser_decides :
    (¬ ∀ (b : Ballot) i why readings enabled accounts, b.pick = some (i, why) →
      b.Same (b.altered readings enabled accounts) i →
      (b.altered readings enabled accounts).pick.map Prod.fst = some i) ∧
    ¬ ∀ (b : Ballot) k i why, k < b.n → b.active ≠ k → b.pick = some (Ballot.skip k i, why) →
      (b.remove k).pick.map Prod.fst = some i := by
  have hpick : tiedBallot.pick = some (3, .rosterOrder) := by decide +kernel
  constructor
  · intro h
    have haltered := h tiedBallot 3 _ (fun i => if i = 1 then some ⟨none, none, some 0, none⟩ else
      some ⟨none, none, none, none⟩) (fun _ => true) (fun _ => {}) hpick ⟨rfl, rfl, rfl⟩
    revert haltered
    decide +kernel
  · intro h
    have hremoved := h tiedBallot 1 2 _ (by decide) (by decide) hpick
    revert hremoved
    decide +kernel

end Sessiometer
