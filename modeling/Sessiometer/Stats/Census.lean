import Sessiometer.Stats.Reordered

/-! # The censuses, instant by instant

At an instant an account's reading is the latest one of the period, for as long as it can be trusted.
The censuses count the maximal runs of instants at which all the accounts' readings are high, or blocked,
and the instants at which all of them are known. -/

namespace Sessiometer.Stats

open Ledger Spans

/-! ## What is known at an instant -/

/-- The latest reading of an account; of those of one second the last one. -/
def latestReading (samples : List Sample) (period : Period) (acct : String) (t : ℤ) : Option Sample :=
  latest Sample.ts t (entries Sample.acct acct (inPeriod samples period))

/-- A reading can be trusted for the staleness bound, and up to the reset that it is anchored to. -/
def trusted (staleAfter : ℤ) (s : Sample) (anchor : Option ℤ) (t : ℤ) : Bool :=
  decide (t < s.ts + max staleAfter 0) || anchor.any fun at' => decide (t < at')

def isHigh (params : AggregateParams) (s : Sample) : Bool := atLeast s.session params.highThreshold

/-- Only a high reading is anchored, and a reading without a session window tells nothing. -/
def sessionKnownAt (samples : List Sample) (period : Period) (params : AggregateParams) (acct : String)
    (t : ℤ) : Bool :=
  period.contains t && (latestReading samples period acct t).any fun s =>
    s.session.isSome &&
      trusted params.staleAfterSecs s (if isHigh params s then s.sessionResetsAt else none) t

def highAt (samples : List Sample) (period : Period) (params : AggregateParams) (acct : String)
    (t : ℤ) : Bool :=
  period.contains t && (latestReading samples period acct t).any fun s =>
    isHigh params s && trusted params.staleAfterSecs s s.sessionResetsAt t

def sessionBlocks (boundary : ViabilityBoundary) (s : Sample) : Bool :=
  atLeast s.session boundary.session

def weeklyBlocks (boundary : ViabilityBoundary) (s : Sample) : Bool := atLeast s.weekly boundary.weekly

/-- The resets of the axes that block a reading. -/
def blockingResets (boundary : ViabilityBoundary) (s : Sample) : List (Option ℤ) :=
  (if sessionBlocks boundary s then [s.sessionResetsAt] else []) ++
    if weeklyBlocks boundary s then [s.weeklyResetsAt] else []

/-- The last of them, if all are known. -/
def relief (boundary : ViabilityBoundary) (s : Sample) : Option ℤ :=
  if (blockingResets boundary s).all Option.isSome then
    ((blockingResets boundary s).filterMap id).max?
  else none

/-- A blocked reading waits on the week, but for one whose session's reset is known to be the later.
-/
def waitsOnWeek (boundary : ViabilityBoundary) (s : Sample) : Bool :=
  weeklyBlocks boundary s && !(sessionBlocks boundary s && s.sessionResetsAt.any fun session =>
    s.weeklyResetsAt.any fun weekly => decide (weekly < session))

def knownAt (samples : List Sample) (period : Period) (staleAfter : ℤ) (boundary : ViabilityBoundary)
    (acct : String) (t : ℤ) : Bool :=
  period.contains t && (latestReading samples period acct t).any fun s =>
    trusted staleAfter s (relief boundary s) t

def blockedAt (samples : List Sample) (period : Period) (staleAfter : ℤ) (boundary : ViabilityBoundary)
    (acct : String) (t : ℤ) : Bool :=
  period.contains t && (latestReading samples period acct t).any fun s =>
    (sessionBlocks boundary s || weeklyBlocks boundary s) && trusted staleAfter s (relief boundary s) t

def waitsOnWeekAt (samples : List Sample) (period : Period) (boundary : ViabilityBoundary)
    (acct : String) (t : ℤ) : Bool :=
  (latestReading samples period acct t).any (waitsOnWeek boundary)

/-- The instants of the period at which it is so of all the accounts. -/
def jointly (period : Period) (census : List String) (p : String → ℤ → Bool) : Finset ℤ :=
  (between period.start period.stop).filter fun t => (census.all fun acct => p acct t) = true

/-- The number of maximal runs. -/
def runs (instants : Finset ℤ) : ℕ := (instants.filter fun t => t - 1 ∉ instants).card

/-- The number of runs in which one of the accounts that end first waits on the week. -/
def weeklyRuns (instants : Finset ℤ) (census : List String) (blocked waits : String → ℤ → Bool) : ℕ :=
  (instants.filter fun t => t + 1 ∉ instants ∧
    (census.any fun acct => !blocked acct (t + 1) && waits acct t) = true).card

/-! ## One account -/

section Windows

variable {τ : Type} {reading : Sample → Option (Reading τ)} {period : Period} {g : List Sample}
  {s : Sample} {t : ℤ} {samples : List Sample} {acct : String}

/-- What the latest sample tells. -/
def told (reading : Sample → Option (Reading τ)) (g : List Sample) (t : ℤ) : Option (Reading τ) :=
  (latest Sample.ts t g).bind reading

theorem windowsOf_cons {rest : List Sample} : windowsOf reading period (s :: rest) =
    match reading s with
    | none => windowsOf reading period rest
    | some r =>
      let hi := max (min (min (nextTs period rest) r.horizon) period.stop) s.ts
      (match r.held with
        | none => (windowsOf reading period rest).1
        | some tag => ⟨s.ts, hi, tag⟩ :: (windowsOf reading period rest).1,
       ⟨s.ts, hi, ()⟩ :: (windowsOf reading period rest).2) := rfl

theorem windowsOf_bare {rest : List Sample} (h : (reading s).bind Reading.held = none) :
    (windowsOf reading period (s :: rest)).1 = (windowsOf reading period rest).1 := by
  rw [windowsOf_cons]
  cases hr : reading s with
  | none => rfl
  | some r =>
    have hheld : r.held = none := by simpa [hr] using h
    simp [hheld]

theorem windowsOf_held {rest : List Sample} {r : Reading τ} {tag : τ} (hr : reading s = some r)
    (hheld : r.held = some tag) : (windowsOf reading period (s :: rest)).1 =
      ⟨s.ts, max (min (min (nextTs period rest) r.horizon) period.stop) s.ts, tag⟩ ::
        (windowsOf reading period rest).1 := by
  rw [windowsOf_cons, hr]
  simp [hheld]

/-- The same with every reading held. -/
def allHeld (reading : Sample → Option (Reading τ)) (s : Sample) : Option (Reading Unit) :=
  (reading s).map fun r => { horizon := r.horizon, held := some () }

theorem windowsOf_snd : (windowsOf reading period g).2 = (windowsOf (allHeld reading) period g).1 := by
  induction g with
  | nil => rfl
  | cons s rest ih =>
    rw [windowsOf_cons, windowsOf_cons]
    cases hr : reading s with
    | none => simpa [allHeld, hr] using ih
    | some r => simp [allHeld, hr, ih]

theorem lt_nextTs {rest : List Sample} : t < nextTs period rest ∧ t < period.stop ↔
    (¬∃ u ∈ rest.head?, u.ts ≤ t) ∧ t < period.stop := by
  unfold nextTs
  cases rest with
  | nil => simp
  | cons u rest => simp

/-- A held stretch covers the instants at which the latest sample is held and can be trusted. -/
theorem covers_windowsOf (hg : g.Pairwise fun s u => s.ts ≤ u.ts) :
    Covers (windowsOf reading period g).1 t ↔
      ∃ r, told reading g t = some r ∧ r.held.isSome ∧ t < r.horizon ∧ t < period.stop := by
  induction g with
  | nil => simp [windowsOf, covers_nil, told, latest]
  | cons s rest ih =>
    have hrest := (List.pairwise_cons.mp hg).2
    have hnone : (¬∃ u ∈ rest.head?, u.ts ≤ t) → latest Sample.ts t rest = none := by
      intro hlater
      refine latest_of_gt fun u hu => ?_
      cases rest with
      | nil => simp at hu
      | cons v rest =>
        have hv : t < v.ts := by simpa using hlater
        obtain rfl | hu := List.mem_cons.mp hu
        · exact hv
        · exact hv.trans_le ((List.pairwise_cons.mp hrest).1 u hu)
    have htold : told reading (s :: rest) t =
        if (∃ u ∈ rest.head?, u.ts ≤ t) then told reading rest t
        else if s.ts ≤ t then reading s else none := by
      unfold told
      rw [latest_cons_of_sorted hg]
      by_cases hnext : ∃ u ∈ rest.head?, u.ts ≤ t
      · rw [if_pos hnext, if_pos hnext]
      · rw [if_neg hnext, if_neg hnext]
        by_cases hs : s.ts ≤ t
        · simp [hs]
        · simp [hs]
    have hlast : (¬∃ u ∈ rest.head?, u.ts ≤ t) → ¬Covers (windowsOf reading period rest).1 t := by
      intro hlater hcovers
      obtain ⟨r, hr, -⟩ := (ih hrest).mp hcovers
      simp [told, hnone hlater] at hr
    have hwindow : ∀ r : Reading τ, ∀ tag : τ, Span.Contains
        ⟨s.ts, max (min (min (nextTs period rest) r.horizon) period.stop) s.ts, tag⟩ t ↔
          (¬∃ u ∈ rest.head?, u.ts ≤ t) ∧ s.ts ≤ t ∧ t < r.horizon ∧ t < period.stop := by
      intro r tag
      have hlt : t < nextTs period rest ∧ t < period.stop ↔
          (¬∃ u ∈ rest.head?, u.ts ≤ t) ∧ t < period.stop := lt_nextTs
      unfold Span.Contains
      simp only [lt_max_iff, lt_min_iff]
      constructor
      · rintro ⟨hlo, (⟨⟨hnext, hhorizon⟩, hstop⟩ | habs)⟩
        · exact ⟨(hlt.mp ⟨hnext, hstop⟩).1, hlo, hhorizon, hstop⟩
        · omega
      · rintro ⟨hnext, hlo, hhorizon, hstop⟩
        exact ⟨hlo, Or.inl ⟨⟨(hlt.mpr ⟨hnext, hstop⟩).1, hhorizon⟩, hstop⟩⟩
    rw [htold]
    cases hbare : (reading s).bind Reading.held with
    | none =>
      rw [windowsOf_bare hbare]
      by_cases hnext : ∃ u ∈ rest.head?, u.ts ≤ t
      · rw [if_pos hnext]
        exact ih hrest
      · rw [if_neg hnext]
        simp only [hlast hnext, false_iff]
        rintro ⟨r, hr, hheld, -⟩
        by_cases hs : s.ts ≤ t
        · rw [if_pos hs] at hr
          have : r.held = none := by simpa [hr] using hbare
          simp [this] at hheld
        · simp [hs] at hr
    | some tag =>
      obtain ⟨r, hr, hheld⟩ := Option.bind_eq_some_iff.mp hbare
      rw [windowsOf_held hr hheld, covers_cons, hwindow r tag]
      by_cases hnext : ∃ u ∈ rest.head?, u.ts ≤ t
      · rw [if_pos hnext, ih hrest, or_iff_right fun h => h.1 hnext]
      · rw [if_neg hnext, or_iff_left (hlast hnext), and_iff_right hnext]
        by_cases hs : s.ts ≤ t
        · simp [hs, hr, hheld]
        · simp [hs]

/-- A stretch that is not empty has the tag of what holds just before its end. -/
theorem tag_windowsOf (hg : g.Pairwise fun s u => s.ts ≤ u.ts) {w : Span τ}
    (hw : w ∈ (windowsOf reading period g).1) (hne : w.lo < w.hi) :
    ∃ r, told reading g (w.hi - 1) = some r ∧ r.held = some w.tag := by
  induction g with
  | nil => simp [windowsOf] at hw
  | cons s rest ih =>
    have hrest := (List.pairwise_cons.mp hg).2
    have hlater : w ∈ (windowsOf reading period rest).1 →
        ∃ r, told reading (s :: rest) (w.hi - 1) = some r ∧ r.held = some w.tag := by
      intro hw
      obtain ⟨r, hr, htag⟩ := ih hrest hw
      refine ⟨r, ?_, htag⟩
      obtain ⟨u, hu, hru⟩ := Option.bind_eq_some_iff.mp hr
      have hnot : ¬u.ts < s.ts := not_lt.mpr ((List.pairwise_cons.mp hg).1 u (latest_spec hu).1)
      unfold told
      rw [latest_cons, hu]
      simpa [hnot] using hru
    cases hbare : (reading s).bind Reading.held with
    | none =>
      rw [windowsOf_bare hbare] at hw
      exact hlater hw
    | some tag =>
      obtain ⟨r, hr, hheld⟩ := Option.bind_eq_some_iff.mp hbare
      rw [windowsOf_held hr hheld] at hw
      obtain rfl | hw := List.mem_cons.mp hw
      · simp only at hne ⊢
        have hhi : max (min (min (nextTs period rest) r.horizon) period.stop) s.ts - 1 <
            nextTs period rest ∧
              max (min (min (nextTs period rest) r.horizon) period.stop) s.ts - 1 < period.stop := by
          omega
        have hlo : s.ts ≤ max (min (min (nextTs period rest) r.horizon) period.stop) s.ts - 1 := by
          omega
        refine ⟨r, ?_, hheld⟩
        unfold told
        rw [latest_cons_of_sorted hg, if_neg (lt_nextTs.mp hhi).1, if_pos hlo]
        exact hr
      · exact hlater hw

theorem groupOf_byAcct : groupOf (byAcct samples period) acct =
    sortByTs (entries Sample.acct acct (inPeriod samples period)) := by
  unfold groupOf byAcct
  rw [lookup_groups fun _ group => sortByTs group]
  by_cases hmem : acct ∈ (inPeriod samples period).map Sample.acct
  · simp [hmem]
  · rw [if_neg hmem]
    have hempty : entries Sample.acct acct (inPeriod samples period) = [] :=
      not_ne_iff.mp fun hne => hmem (mem_map_iff_entries.mpr hne)
    rw [hempty]
    rfl

theorem told_groupOf : told reading (groupOf (byAcct samples period) acct) t =
    (latestReading samples period acct t).bind reading := by
  unfold told latestReading
  rw [groupOf_byAcct]
  exact congrArg (fun o => Option.bind o reading) latest_sorted

theorem Period.contains_iff : period.contains t = true ↔ period.start ≤ t ∧ t < period.stop := by
  unfold Period.contains
  simp

theorem contains_of_latestReading {s : Sample} (h : latestReading samples period acct t = some s)
    (hstop : t < period.stop) : period.contains t = true := by
  obtain ⟨hs, hle, -⟩ := latest_spec h
  have hin := Period.contains_iff.mp (List.mem_filter.mp (List.mem_filter.mp hs).1).2
  exact Period.contains_iff.mpr ⟨hin.1.trans hle, hstop⟩

theorem pairwise_groupOf : (groupOf (byAcct samples period) acct).Pairwise fun s u => s.ts ≤ u.ts := by
  rw [groupOf_byAcct]
  exact pairwise_sorted

/-- The stretches of an account tile the instants at which what its reading tells is held. -/
theorem tiles_windowsOf {marked : τ → Prop} {tie : τ → τ → τ} {H W : ℤ → Prop}
    (htie : ∀ c d, marked (tie c d) ↔ marked c ∨ marked d)
    (hH : ∀ t, H t ↔ ∃ r, (latestReading samples period acct t).bind reading = some r ∧
      r.held.isSome ∧ t < r.horizon ∧ t < period.stop)
    (hW : ∀ t r tag, (latestReading samples period acct t).bind reading = some r → r.held = some tag →
      (marked tag ↔ W t)) :
    Tiles marked (merge tie (windowsOf reading period (groupOf (byAcct samples period) acct)).1) H
      fun e => W (e - 1) := by
  refine merge_tiles htie (fun w hw hne => ?_) fun t => ?_
  · obtain ⟨r, hr, htag⟩ := tag_windowsOf pairwise_groupOf hw hne
    rw [told_groupOf] at hr
    exact hW _ r _ hr htag
  · rw [covers_windowsOf pairwise_groupOf, hH]
    simp only [told_groupOf]

theorem tiles_known {K : ℤ → Prop}
    (hK : ∀ t, K t ↔ ∃ r, (latestReading samples period acct t).bind reading = some r ∧ t < r.horizon ∧
      t < period.stop) :
    Tiles (fun _ => False)
      (mergeIntervals (windowsOf reading period (groupOf (byAcct samples period) acct)).2) K
        fun _ => False := by
  unfold mergeIntervals
  rw [windowsOf_snd]
  refine tiles_windowsOf (W := fun _ => False) (by simp) (fun t => ?_) (by simp)
  rw [hK]
  cases hs : latestReading samples period acct t with
  | none => simp
  | some s =>
    cases hr : reading s with
    | none => simp [allHeld, hr]
    | some r => simp [allHeld, hr]

end Windows

section Accounts

variable {samples : List Sample} {period : Period} {params : AggregateParams} {acct : String} {t : ℤ}
  {s : Sample} {staleAfter : ℤ} {boundary : ViabilityBoundary}

theorem trusted_iff (anchor : Option ℤ) : trusted staleAfter s anchor t = true ↔
    t < (anchor.map (max (s.ts + max staleAfter 0))).getD (s.ts + max staleAfter 0) := by
  unfold trusted
  cases anchor with
  | none => simp
  | some at' => simp

/-- An account's predicate on its latestReading reading, told of what the reading tells. -/
theorem latestReading_any {τ : Type} {p : Sample → Bool} (reading : Sample → Option (Reading τ))
    (q : Reading τ → Prop) (hp : ∀ s, p s = true ↔ ∃ r, reading s = some r ∧ q r) :
    (period.contains t && (latestReading samples period acct t).any p) = true ↔
      ∃ r, (latestReading samples period acct t).bind reading = some r ∧ q r ∧ t < period.stop := by
  cases hs : latestReading samples period acct t with
  | none => simp
  | some s =>
    simp only [Option.any_some, Bool.and_eq_true, Option.bind_some]
    rw [hp s]
    constructor
    · rintro ⟨hin, r, hr, hq⟩
      exact ⟨r, hr, hq, (Period.contains_iff.mp hin).2⟩
    · rintro ⟨r, hr, hq, hstop⟩
      exact ⟨contains_of_latestReading hs hstop, r, hr, hq⟩

theorem isHigh_iff : isHigh params s = true ↔
    ∃ session, s.session = some session ∧ params.highThreshold ≤ session := by
  unfold isHigh atLeast
  cases s.session with
  | none => simp
  | some session => simp

theorem windowed_high (samples : List Sample) (period : Period) (params : AggregateParams) :
    Windowed (fun _ => False) (fun handle => highWindows (groupOf (byAcct samples period) handle)
      period params.staleAfterSecs params.highThreshold)
      (fun acct t => highAt samples period params acct t = true)
      (fun acct t => sessionKnownAt samples period params acct t = true) fun _ _ => False where
  held acct := by
    refine tiles_windowsOf (W := fun _ => False) (by simp) (fun t => ?_) (by simp)
    refine (latestReading_any (highReading params.staleAfterSecs params.highThreshold)
      (fun r => r.held.isSome ∧ t < r.horizon) fun s => ?_).trans (by simp only [and_assoc])
    rw [Bool.and_eq_true, isHigh_iff, trusted_iff]
    unfold highReading
    cases s.session with
    | none => simp
    | some session =>
      by_cases hhigh : params.highThreshold ≤ session
      · simp [hhigh]
      · simp [hhigh]
  known acct := by
    refine tiles_known fun t => ?_
    refine latestReading_any (highReading params.staleAfterSecs params.highThreshold)
      (fun r => t < r.horizon) fun s => ?_
    rw [Bool.and_eq_true, trusted_iff]
    unfold highReading isHigh atLeast
    cases s.session with
    | none => simp
    | some session =>
      by_cases hhigh : params.highThreshold ≤ session
      · simp [hhigh]
      · simp [hhigh]
  sub acct t h := by
    unfold highAt at h
    unfold sessionKnownAt
    simp only [Bool.and_eq_true] at h ⊢
    refine ⟨h.1, ?_⟩
    cases hs : latestReading samples period acct t with
    | none => simp [hs] at h
    | some s =>
      obtain ⟨-, hany⟩ := h
      simp only [hs, Option.any_some, Bool.and_eq_true] at hany ⊢
      obtain ⟨session, hsession, -⟩ := isHigh_iff.mp hany.1
      simp only [hany.1, if_true]
      exact ⟨by simp [hsession], hany.2⟩

/-- The relief of the code is the last reset of what blocks, and its cause the axis that has it. -/
theorem reliefOf_spec :
    (reliefOf s (sessionBlocks boundary s) (weeklyBlocks boundary s)).map Prod.fst =
      relief boundary s := by
  unfold reliefOf relief blockingResets
  cases sessionBlocks boundary s with
  | true =>
    cases weeklyBlocks boundary s with
    | true =>
      cases s.sessionResetsAt with
      | none => simp
      | some session =>
        cases s.weeklyResetsAt with
        | none => simp
        | some weekly =>
          by_cases hle : session ≤ weekly
          · simp [hle, List.max?]
          · have hge : weekly ≤ session := by omega
            simp [hle, hge, List.max?]
    | false =>
      cases s.sessionResetsAt with
      | none => simp
      | some session => simp [List.max?]
  | false =>
    cases weeklyBlocks boundary s with
    | true =>
      cases s.weeklyResetsAt with
      | none => simp
      | some weekly => simp [List.max?]
    | false => simp

theorem cause_spec (hblocked : (sessionBlocks boundary s || weeklyBlocks boundary s) = true) :
    ((reliefOf s (sessionBlocks boundary s) (weeklyBlocks boundary s)).map Prod.snd).getD
      (if weeklyBlocks boundary s then .weekly else .session) = HoldCause.weekly ↔
        waitsOnWeek boundary s = true := by
  unfold reliefOf waitsOnWeek
  cases hsession : sessionBlocks boundary s with
  | true =>
    cases weeklyBlocks boundary s with
    | true =>
      cases s.sessionResetsAt with
      | none => simp
      | some session =>
        cases s.weeklyResetsAt with
        | none => simp
        | some weekly =>
          by_cases hle : session ≤ weekly
          · simp [hle]
          · simp [hle]
    | false =>
      cases s.sessionResetsAt with
      | none => simp
      | some session => simp
  | false =>
    cases hweekly : weeklyBlocks boundary s with
    | true =>
      cases s.weeklyResetsAt with
      | none => simp
      | some weekly => simp
    | false => simp [hsession, hweekly] at hblocked

theorem horizon_blockedReading {r : Reading HoldCause}
    (hr : blockedReading staleAfter boundary s = some r) :
    trusted staleAfter s (relief boundary s) t = true ↔ t < r.horizon := by
  rw [trusted_iff, ← reliefOf_spec, Option.map_map]
  obtain rfl := Option.some.inj hr
  rfl

theorem held_blockedReading {r : Reading HoldCause}
    (hr : blockedReading staleAfter boundary s = some r) :
    r.held = if (sessionBlocks boundary s || weeklyBlocks boundary s) = true then
      some (((reliefOf s (sessionBlocks boundary s) (weeklyBlocks boundary s)).map Prod.snd).getD
        (if weeklyBlocks boundary s then .weekly else .session)) else none := by
  obtain rfl := Option.some.inj hr
  rfl

theorem tieCause_weekly (c d : HoldCause) : tieCause c d = .weekly ↔ c = .weekly ∨ d = .weekly := by
  unfold tieCause
  by_cases h : c = .weekly ∨ d = .weekly
  · simp [h]
  · simp [h]

theorem windowed_blocked (samples : List Sample) (period : Period) (staleAfter : ℤ)
    (boundary : ViabilityBoundary) :
    Windowed (· = HoldCause.weekly)
      (fun handle => blockedWindows (groupOf (byAcct samples period) handle) period staleAfter boundary)
      (fun acct t => blockedAt samples period staleAfter boundary acct t = true)
      (fun acct t => knownAt samples period staleAfter boundary acct t = true)
      fun acct e => waitsOnWeekAt samples period boundary acct (e - 1) = true where
  held acct := by
    refine tiles_windowsOf (W := fun t => waitsOnWeekAt samples period boundary acct t = true)
      tieCause_weekly (fun t => ?_) fun t r tag hr htag => ?_
    · refine (latestReading_any (blockedReading staleAfter boundary)
        (fun r => r.held.isSome ∧ t < r.horizon) fun s => ?_).trans (by simp only [and_assoc])
      rw [Bool.and_eq_true]
      constructor
      · rintro ⟨hblocked, htrusted⟩
        refine ⟨_, rfl, ?_, (horizon_blockedReading rfl).mp htrusted⟩
        rw [held_blockedReading rfl, if_pos hblocked]
        rfl
      · rintro ⟨r, hr, hheld, hlt⟩
        refine ⟨?_, (horizon_blockedReading hr).mpr hlt⟩
        rw [held_blockedReading hr] at hheld
        by_contra hnot
        simp [hnot] at hheld
    · obtain ⟨s, hs, hr⟩ := Option.bind_eq_some_iff.mp hr
      rw [held_blockedReading hr] at htag
      by_cases hblocked : (sessionBlocks boundary s || weeklyBlocks boundary s) = true
      · rw [if_pos hblocked] at htag
        rw [← Option.some.inj htag, cause_spec hblocked]
        unfold waitsOnWeekAt
        rw [hs]
        rfl
      · simp [hblocked] at htag
  known acct := by
    refine tiles_known fun t => ?_
    refine latestReading_any (blockedReading staleAfter boundary)
      (fun r => t < r.horizon) fun s => ?_
    constructor
    · intro htrusted
      exact ⟨_, rfl, (horizon_blockedReading rfl).mp htrusted⟩
    · rintro ⟨r, hr, hlt⟩
      exact (horizon_blockedReading hr).mpr hlt
  sub acct t h := by
    unfold blockedAt at h
    unfold knownAt
    rw [Bool.and_eq_true] at h ⊢
    refine ⟨h.1, ?_⟩
    cases hs : latestReading samples period acct t with
    | none => simp [hs] at h
    | some s =>
      obtain ⟨-, hany⟩ := h
      simp only [hs, Option.any_some, Bool.and_eq_true] at hany ⊢
      exact hany.2

end Accounts

/-! ## The roster -/

/-- The census of the accounts that run hot. One of no accounts is not taken, and an account that is
in the roster and has no samples leaves nothing to count. -/
structure HighCensusSound (samples : List Sample) (roster : Option (List String)) (period : Period)
    (params : AggregateParams) : Prop where
  untaken : highCensus (byAcct samples period) roster = [] →
    allHigh (byAcct samples period) roster period params = (0, 0, 0)
  pointwise : ∀ census, census = highCensus (byAcct samples period) roster → census ≠ [] →
    ∀ high, high = jointly period census (highAt samples period params) →
      allHigh (byAcct samples period) roster period params =
        (runs high, (high.card : ℤ),
          ((jointly period census (sessionKnownAt samples period params)).card : ℤ))
  bounded : (allHigh (byAcct samples period) roster period params).2.1 ≤
      (allHigh (byAcct samples period) roster period params).2.2 ∧
    (allHigh (byAcct samples period) roster period params).2.2 ≤ period.duration
  absent : ∀ rostered, roster = some rostered →
    ∀ acct ∈ rostered, entries Sample.acct acct (inPeriod samples period) = [] →
      allHigh (byAcct samples period) roster period params = (0, 0, 0)

/-- The census of the accounts that cannot be swapped to. -/
structure HoldCensusSound (samples : List Sample) (roster : Option (List String)) (period : Period)
    (params : AggregateParams) (holds : CapacityHoldCensus) : Prop where
  untaken : params.viability = none ∨ censusSet (byAcct samples period) roster = [] → holds = .none
  pointwise : ∀ boundary, params.viability = some boundary →
    ∀ census, census = censusSet (byAcct samples period) roster → census ≠ [] →
    ∀ blocked, blocked = jointly period census
        (blockedAt samples period params.staleAfterSecs boundary) →
      holds.count = runs blocked ∧ holds.secs = blocked.card ∧
        holds.coveredSecs = (jointly period census
          (knownAt samples period params.staleAfterSecs boundary)).card ∧
        holds.weekly = weeklyRuns blocked census
          (blockedAt samples period params.staleAfterSecs boundary)
          (waitsOnWeekAt samples period boundary)
  split : holds.session + holds.weekly = holds.count
  bounded : holds.secs ≤ holds.coveredSecs ∧ holds.coveredSecs ≤ period.duration
  absent : ∀ rostered, roster = some rostered →
    ∀ acct ∈ rostered, entries Sample.acct acct (inPeriod samples period) = [] → holds = .none

section Roster

variable {τ : Type} {marked : τ → Prop} {samples : List Sample} {roster : Option (List String)}
  {period : Period} {params : AggregateParams} {census : List String} {p q : String → ℤ → Bool}
  {l : List (Span τ)} {Q : ℤ → Prop} {acct : String} {t : ℤ}

theorem mem_jointly : t ∈ jointly period census p ↔
    period.contains t = true ∧ ∀ acct ∈ census, p acct t = true := by
  unfold jointly
  rw [Finset.mem_filter, mem_between, Period.contains_iff, List.all_eq_true]

theorem tiles_jointly (h : Tiles marked l (fun t => ∀ acct ∈ census, p acct t = true) Q)
    (hne : census ≠ []) (hp : ∀ acct t, p acct t = true → period.contains t = true) :
    Tiles marked l (· ∈ jointly period census p) Q := by
  refine h.congr (fun t => ?_) fun _ _ => Iff.rfl
  rw [mem_jointly]
  constructor
  · intro hall
    obtain ⟨acct, hacct⟩ := List.exists_mem_of_ne_nil _ hne
    exact ⟨hp acct t (hall acct hacct), hall⟩
  · exact fun hall => hall.2

theorem card_jointly_le (hpq : ∀ acct t, p acct t = true → q acct t = true) :
    (jointly period census p).card ≤ (jointly period census q).card := by
  refine Finset.card_le_card fun t ht => ?_
  rw [mem_jointly] at ht ⊢
  exact ⟨ht.1, fun acct hacct => hpq acct t (ht.2 acct hacct)⟩

theorem card_jointly_le_duration : ((jointly period census p).card : ℤ) ≤ period.duration := by
  have hle : (jointly period census p).card ≤ (between period.start period.stop).card :=
    Finset.card_filter_le _ _
  rw [card_between] at hle
  unfold Period.duration
  omega

theorem jointly_eq_empty (hacct : acct ∈ census) (hp : ∀ t, p acct t = false) :
    jointly period census p = ∅ := by
  refine Finset.eq_empty_of_forall_notMem fun t ht => ?_
  have := (mem_jointly.mp ht).2 acct hacct
  rw [hp t] at this
  cases this

theorem latestReading_of_entries (h : entries Sample.acct acct (inPeriod samples period) = []) :
    latestReading samples period acct t = none := by
  unfold latestReading
  rw [h]
  rfl

theorem allHigh_eq (hne : highCensus (byAcct samples period) roster ≠ []) :
    allHigh (byAcct samples period) roster period params =
      (runs (jointly period (highCensus (byAcct samples period) roster)
          (highAt samples period params)),
        ((jointly period (highCensus (byAcct samples period) roster)
          (highAt samples period params)).card : ℤ),
        ((jointly period (highCensus (byAcct samples period) roster)
          (sessionKnownAt samples period params)).card : ℤ)) := by
  have hcommon : Common (fun _ => False) (joint (fun _ _ => ()) (fun handle =>
      highWindows (groupOf (byAcct samples period) handle) period params.staleAfterSecs
        params.highThreshold) none (highCensus (byAcct samples period) roster)) _ _ _ _ :=
    (windowed_high samples period params).joint (by simp) hne
  have hheld := tiles_jointly hcommon.held hne fun acct t h =>
    ((Bool.and_eq_true _ _).mp h).1
  have hknown := tiles_jointly hcommon.known hne fun acct t h =>
    ((Bool.and_eq_true _ _).mp h).1
  have hepisodes : Tiles (fun _ : Unit => False) (mergeIntervals _) _ fun _ => False :=
    merge_tiles (by simp) (by simp) hheld.covers
  have hcovered : Tiles (fun _ : Unit => False) (mergeIntervals _) _ fun _ => False :=
    merge_tiles (by simp) (by simp) hknown.covers
  unfold allHigh
  simp only [List.isEmpty_iff, hne, if_false]
  unfold totalSecs
  rw [hepisodes.length_eq, hepisodes.sum_length, hcovered.sum_length]
  rfl

theorem highCensusSound : HighCensusSound samples roster period params where
  untaken h := by
    unfold allHigh
    simp [h]
  pointwise census hcensus hne high hhigh := by
    subst hcensus hhigh
    exact allHigh_eq hne
  bounded := by
    by_cases hne : highCensus (byAcct samples period) roster = []
    · unfold allHigh
      simp [hne, Period.duration]
    · rw [allHigh_eq hne]
      exact ⟨Int.ofNat_le.mpr (card_jointly_le (windowed_high samples period params).sub),
        card_jointly_le_duration⟩
  absent rostered hroster acct hacct hentries := by
    have hmem : acct ∈ highCensus (byAcct samples period) roster := by
      have hlookup : (byAcct samples period).lookup acct = none := by
        unfold byAcct
        rw [lookup_groups fun _ group => sortByTs group, if_neg]
        exact fun hmem => mem_map_iff_entries.mp hmem hentries
      unfold highCensus censusSet
      rw [List.mem_filter, hlookup, hroster]
      exact ⟨hacct, rfl⟩
    rw [allHigh_eq (List.ne_nil_of_mem hmem), jointly_eq_empty hmem, jointly_eq_empty hmem]
    · rfl
    · intro t
      unfold sessionKnownAt
      rw [latestReading_of_entries hentries]
      simp
    · intro t
      unfold highAt
      rw [latestReading_of_entries hentries]
      simp

theorem causeCount_add (episodes : List (Span HoldCause)) :
    causeCount episodes .session + causeCount episodes .weekly = episodes.length := by
  unfold causeCount
  rw [List.length_eq_countP_add_countP fun e => e.tag == HoldCause.session]
  congr 1
  refine List.countP_congr fun e _ => ?_
  cases e.tag with
  | session => simp
  | weekly => simp

variable {boundary : ViabilityBoundary}

theorem capacityHolds_eq (hboundary : params.viability = some boundary)
    (hne : censusSet (byAcct samples period) roster ≠ []) :
    ∃ acc : List (Span HoldCause) × List (Span Unit),
      capacityHolds (byAcct samples period) roster period params =
        ⟨acc.1.length, causeCount acc.1 .session, causeCount acc.1 .weekly, totalSecs acc.1,
          totalSecs acc.2⟩ ∧
      Tiles (· = HoldCause.weekly) acc.1 (· ∈ jointly period (censusSet (byAcct samples period) roster)
        (blockedAt samples period params.staleAfterSecs boundary))
        (fun e => ∃ acct ∈ censusSet (byAcct samples period) roster,
          ¬blockedAt samples period params.staleAfterSecs boundary acct e = true ∧
            waitsOnWeekAt samples period boundary acct (e - 1) = true) ∧
      Tiles (fun _ => False) acc.2 (· ∈ jointly period (censusSet (byAcct samples period) roster)
        (knownAt samples period params.staleAfterSecs boundary)) fun _ => False := by
  have hcommon :=
    (windowed_blocked samples period params.staleAfterSecs boundary).joint tieCause_weekly hne
  refine ⟨_, ?_, tiles_jointly hcommon.held hne fun acct t h => ((Bool.and_eq_true _ _).mp h).1,
    tiles_jointly hcommon.known hne fun acct t h => ((Bool.and_eq_true _ _).mp h).1⟩
  unfold capacityHolds
  simp only [hboundary, List.isEmpty_iff, hne, if_false]

theorem capacityHolds_untaken
    (h : params.viability = none ∨ censusSet (byAcct samples period) roster = []) :
    capacityHolds (byAcct samples period) roster period params = .none := by
  unfold capacityHolds
  obtain h | h := h
  · rw [h]
  · cases params.viability with
    | none => rfl
    | some boundary => simp [h]

theorem holdCensusSound : HoldCensusSound samples roster period params
    (capacityHolds (byAcct samples period) roster period params) where
  untaken := capacityHolds_untaken
  pointwise boundary hboundary census hcensus hne blocked hblocked := by
    subst hcensus hblocked
    obtain ⟨acc, heq, hheld, hknown⟩ := capacityHolds_eq hboundary hne
    rw [heq]
    refine ⟨hheld.length_eq, hheld.sum_length, hknown.sum_length, ?_⟩
    have hcount := hheld.countP_eq (p := fun e => e.tag == HoldCause.weekly) (by simp)
    refine hcount.trans ?_
    unfold weeklyRuns
    congr 1
    refine Finset.filter_congr fun t _ => ?_
    simp
  split := by
    by_cases h : params.viability = none ∨ censusSet (byAcct samples period) roster = []
    · rw [capacityHolds_untaken h]
      rfl
    · rw [not_or] at h
      obtain ⟨boundary, hboundary⟩ := Option.ne_none_iff_exists'.mp h.1
      obtain ⟨acc, heq, -⟩ := capacityHolds_eq hboundary h.2
      rw [heq]
      exact causeCount_add acc.1
  bounded := by
    by_cases h : params.viability = none ∨ censusSet (byAcct samples period) roster = []
    · rw [capacityHolds_untaken h]
      exact ⟨le_rfl, le_max_right _ _⟩
    · rw [not_or] at h
      obtain ⟨boundary, hboundary⟩ := Option.ne_none_iff_exists'.mp h.1
      obtain ⟨acc, heq, hheld, hknown⟩ := capacityHolds_eq hboundary h.2
      rw [heq]
      unfold totalSecs
      simp only
      rw [hheld.sum_length, hknown.sum_length]
      exact ⟨Int.ofNat_le.mpr (card_jointly_le
        (windowed_blocked samples period params.staleAfterSecs boundary).sub), card_jointly_le_duration⟩
  absent rostered hroster acct hacct hentries := by
    by_cases h : params.viability = none
    · exact capacityHolds_untaken (Or.inl h)
    · obtain ⟨boundary, hboundary⟩ := Option.ne_none_iff_exists'.mp h
      have hmem : acct ∈ censusSet (byAcct samples period) roster := by
        unfold censusSet
        rw [hroster]
        exact hacct
      obtain ⟨acc, heq, hheld, hknown⟩ := capacityHolds_eq hboundary (List.ne_nil_of_mem hmem)
      have hnone : ∀ t, latestReading samples period acct t = none :=
        fun t => latestReading_of_entries hentries
      rw [jointly_eq_empty hmem fun t => by simp [blockedAt, hnone]] at hheld
      rw [jointly_eq_empty hmem fun t => by simp [knownAt, hnone]] at hknown
      have hacc : acc.1 = [] := hheld.eq_nil (by simp)
      have hcov : acc.2 = [] := hknown.eq_nil (by simp)
      rw [heq, hacc, hcov]
      rfl

end Roster

/-- Both censuses are told instant by instant. -/
theorem censuses_pointwise (samples : List Sample) (roster : Option (List String)) (period : Period)
    (params : AggregateParams) :
    HighCensusSound samples roster period params ∧
      HoldCensusSound samples roster period params
        (capacityHolds (byAcct samples period) roster period params) :=
  ⟨highCensusSound, holdCensusSound⟩

/-- Of no accounts nothing is unknown, but the census of none is not taken. -/
theorem empty_roster_uncovered :
    (allHigh (byAcct [] fiveMinutes) (some []) fiveMinutes plainParams).2.2 ≠
      (jointly fiveMinutes [] (sessionKnownAt [] fiveMinutes plainParams)).card := by
  have hall : jointly fiveMinutes [] (sessionKnownAt [] fiveMinutes plainParams) =
      between 0 300 := by
    ext t
    rw [mem_jointly, Period.contains_iff, mem_between]
    simp [fiveMinutes]
  rw [hall, card_between]
  simp [allHigh, highCensus, censusSet]

end Sessiometer.Stats
