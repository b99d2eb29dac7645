import Mathlib.Data.Prod.Lex
import Sessiometer.Pairing.Brackets
import Sessiometer.Reliability.Events
import Sessiometer.Store.Ordered
import Sessiometer.Store.Rollup

/-! # Episodes

The two censuses of paired lines: blind episodes, and the gaps before a first sight. The edges of all
accounts are walked in the order of time and line. -/

namespace Sessiometer.Reliability

open Framing Log Pairing

/-! ## The folds -/

def blindStamp : Edge BlindEntry BlindExit → ℤ ×ₗ ℕ
  | .enter e => toLex (e.ts, e.seq)
  | .exit x => toLex (x.ts, x.seq)

def sightStamp : Edge FirstSightEntry FirstSightExit → ℤ ×ₗ ℕ
  | .enter e => toLex (e.ts, e.seq)
  | .exit x => toLex (x.ts, x.seq)

structure BlindEpisodes where
  nEntered : ℕ := 0
  nExited : ℕ := 0
  nSwappedAway : ℕ := 0
  nNeverRecovered : ℕ := 0
  nAnchorLost : ℕ := 0
  nExitWithoutEnter : ℕ := 0
  nMalformed : ℕ := 0
  nearLimitEpisodes : ℕ := 0
  nearLimitObservedSecs : ℕ := 0
  nearLimitCensoredFloorSecs : ℕ := 0
deriving DecidableEq

/-- How long an episode that is still open has lasted at the horizon. -/
def censoredFloor (horizonTs : Option ℤ) (e : BlindEntry) : ℕ :=
  horizonTs.elim 0 fun h => (h - e.ts).toNat

def countExit (out : BlindEpisodes) (x : BlindExit) : BlindEpisodes :=
  { out with
    nSwappedAway := if x.swappedAway then out.nSwappedAway + 1 else out.nSwappedAway
    nearLimitEpisodes := if x.nearLimit then out.nearLimitEpisodes + 1 else out.nearLimitEpisodes
    nearLimitObservedSecs :=
      if x.nearLimit then satAdd out.nearLimitObservedSecs x.durationSecs
      else out.nearLimitObservedSecs }

def countOpen (horizonTs : Option ℤ) (out : BlindEpisodes) (e : BlindEntry) : BlindEpisodes :=
  { out with
    nNeverRecovered := out.nNeverRecovered + 1
    nearLimitEpisodes := if e.nearLimit then out.nearLimitEpisodes + 1 else out.nearLimitEpisodes
    nearLimitCensoredFloorSecs :=
      if e.nearLimit then satAdd out.nearLimitCensoredFloorSecs (censoredFloor horizonTs e)
      else out.nearLimitCensoredFloorSecs }

def blindWalk (entries : List BlindEntry) (exits : List BlindExit) : Walk BlindEntry :=
  walk BlindEntry.acct BlindExit.acct
    (Ledger.sorted blindStamp (entries.map Edge.enter ++ exits.map Edge.exit))

def foldBlindEpisodes (entries : List BlindEntry) (exits : List BlindExit) (horizonTs : Option ℤ)
    (malformed : ℕ) : BlindEpisodes :=
  let out := exits.foldl countExit
    { nEntered := entries.length, nExited := exits.length, nMalformed := malformed }
  let walked := blindWalk entries exits
  walked.pending.foldl (countOpen horizonTs)
    { out with nAnchorLost := walked.lost, nExitWithoutEnter := walked.stray }

structure FirstSight where
  nEntered : ℕ := 0
  nExited : ℕ := 0
  n : ℕ := 0
  nSwappedAway : ℕ := 0
  nNotActive : ℕ := 0
  nNeverRecovered : ℕ := 0
  nAnchorLost : ℕ := 0
  nExitWithoutEnter : ℕ := 0
  nMalformed : ℕ := 0
  breachP50 : Option ℕ := none
  breachP95 : Option ℕ := none
  breachP100 : Option ℕ := none
  entryThresholdSecs : Option ℕ := none
  nEntryThresholds : ℕ := 0
  nOverFailBoundUpper : Option ℕ := none
deriving DecidableEq

/-- Each exit is of one class; that it was not active comes first. -/
def countSight (out : FirstSight × List ℕ) (x : FirstSightExit) : FirstSight × List ℕ :=
  if !x.wasActive then ({ out.1 with nNotActive := out.1.nNotActive + 1 }, out.2)
  else if x.swappedAway then ({ out.1 with nSwappedAway := out.1.nSwappedAway + 1 }, out.2)
  else ({ out.1 with n := out.1.n + 1 }, out.2 ++ [x.elapsedSecs])

/-- A percentile of whole numbers, which is one of them. -/
def wholePercentile (xs : List ℕ) (p : ℚ) : ℕ := (percentile (xs.map Nat.cast) p).floor.toNat

def FirstSight.failBoundSecs (s : FirstSight) : Option ℕ :=
  s.entryThresholdSecs.map fun t => min (2 * t) (2 ^ 64 - 1)

def FirstSight.failZeroIsConclusive (s : FirstSight) : Bool :=
  decide (s.nMalformed = 0 ∧ s.nNeverRecovered = 0 ∧ s.nExitWithoutEnter = 0)

def sightWalk (entries : List FirstSightEntry) (exits : List FirstSightExit) : Walk FirstSightEntry :=
  walk FirstSightEntry.acct FirstSightExit.acct
    (Ledger.sorted sightStamp (entries.map Edge.enter ++ exits.map Edge.exit))

def foldFirstSight (entries : List FirstSightEntry) (exits : List FirstSightExit) (malformed : ℕ) :
    FirstSight :=
  let thresholds := entries.map FirstSightEntry.thresholdSecs
  let counted := exits.foldl countSight
    ({ nEntered := entries.length
       nExited := exits.length
       nMalformed := malformed
       entryThresholdSecs := thresholds.min?
       nEntryThresholds := thresholds.dedup.length }, [])
  let out := counted.1
  let breaches := counted.2
  let pct p := if 0 < out.n then some (wholePercentile breaches p) else none
  let walked := sightWalk entries exits
  { out with
    breachP50 := pct (50 / 100)
    breachP95 := pct (95 / 100)
    breachP100 := pct 1
    nOverFailBoundUpper := out.failBoundSecs.map fun bound =>
      (exits.filter fun x => x.wasActive && !x.swappedAway && decide (bound < x.elapsedSecs)).length
    nAnchorLost := walked.lost
    nExitWithoutEnter := walked.stray
    nNeverRecovered := walked.pending.length }

def Inputs.blindEpisodes (inputs : Inputs) : BlindEpisodes :=
  foldBlindEpisodes inputs.blindEntries inputs.blindExits inputs.horizonTs inputs.blindPairMalformed

def Inputs.firstSight (inputs : Inputs) : FirstSight :=
  foldFirstSight inputs.firstSightEntries inputs.firstSightExits inputs.firstSightMalformed

structure BlindProjectionError where
  nBlindWindows : ℕ
  nProjectable : ℕ
  nReconcilable : ℕ
  nSentinelExcluded : ℕ
  nBelowArmGate : ℕ
  nWithoutVelocity : ℕ
  nMalformed : ℕ
  nWithoutSessionWindow : ℕ
  nSwappedAway : Option ℕ
  nNeverRecovered : Option ℕ
  p50 : Option ℚ
  p95 : Option ℚ
  p100 : Option ℚ
deriving DecidableEq

/-- `f64::round`, to two digits after the point. -/
def roundPp (v : ℚ) : ℚ :=
  (if v < 0 then -((-v * 100 + 1 / 2).floor : ℚ) else ((v * 100 + 1 / 2).floor : ℚ)) / 100

/-- The blind windows beside the episodes; where no line of a pair is in view, its counts are not known. -/
def Inputs.blindProjectionError (inputs : Inputs) : BlindProjectionError :=
  let reconcilable := inputs.blindProjections.filter fun p => decide (0 < p.arrivedPct)
  let errors := reconcilable.map fun p => p.projectedPct - (p.arrivedPct : ℚ)
  let errorPct p := if errors = [] then none else some (roundPp (percentile errors p))
  let episodes := inputs.blindEpisodes
  let pairObserved := 0 < episodes.nEntered ∨ 0 < episodes.nExited
  { nBlindWindows := inputs.blindWindowCensus.total
    nProjectable := inputs.blindProjections.length
    nReconcilable := errors.length
    nSentinelExcluded := inputs.blindProjections.length - errors.length
    nBelowArmGate := inputs.blindWindowCensus.belowArmGate
    nWithoutVelocity := inputs.blindWindowCensus.withoutVelocity
    nMalformed := inputs.blindWindowCensus.malformed
    nWithoutSessionWindow := inputs.blindWindowCensus.withoutSessionWindow
    nSwappedAway := if pairObserved then some episodes.nSwappedAway else none
    nNeverRecovered := if pairObserved then some episodes.nNeverRecovered else none
    p50 := errorPct (50 / 100)
    p95 := errorPct (95 / 100)
    p100 := errorPct 1 }

/-! ## The reference -/

section Reference

variable {E X : Type} (acctE : E → Text) (acctX : X → Text) (stamp : Edge E X → ℤ ×ₗ ℕ)

/-- The accounts that the edges name. -/
def accounts (edges : List (Edge E X)) : List Text := (edges.map (Edge.key acctE acctX)).dedup

/-- What an account's own edges come to, in the order of time and line. -/
def matching (edges : List (Edge E X)) (acct : Text) : Matching E X :=
  bracket (Ledger.sorted stamp (own acctE acctX acct edges))

def matchings (edges : List (Edge E X)) : List (Matching E X) :=
  (accounts acctE acctX edges).map (matching acctE acctX stamp edges)

/-- The edge that a line is, of two kinds. -/
def edgeOf (opening closing : EventKind) (readE : Text → ℕ → Option E) (readX : Text → ℕ → Option X)
    (n : Text × ℕ) : Option (Edge E X) :=
  ((readAs opening readE n).map Edge.enter).or ((readAs closing readX n).map Edge.exit)

end Reference

def blindEdges (view : List (Text × ℕ)) : List (Edge BlindEntry BlindExit) :=
  view.filterMap (edgeOf .blindEnter .blindExit BlindEntry.read BlindExit.read)

def blindMatchings (view : List (Text × ℕ)) : List (Matching BlindEntry BlindExit) :=
  matchings BlindEntry.acct BlindExit.acct blindStamp (blindEdges view)

def sightEdges (view : List (Text × ℕ)) : List (Edge FirstSightEntry FirstSightExit) :=
  view.filterMap
    (edgeOf .observationGapEnter .observationGapExit FirstSightEntry.read FirstSightExit.read)

def sightMatchings (view : List (Text × ℕ)) : List (Matching FirstSightEntry FirstSightExit) :=
  matchings FirstSightEntry.acct FirstSightExit.acct sightStamp (sightEdges view)

def pairedOf {E X : Type} (ms : List (Matching E X)) : ℕ := (ms.map fun m => m.paired.length).sum

def lostOf {E X : Type} (ms : List (Matching E X)) : ℕ := (ms.map fun m => m.lost.length).sum

def strayOf {E X : Type} (ms : List (Matching E X)) : ℕ := (ms.map fun m => m.stray.length).sum

def openOf {E X : Type} (ms : List (Matching E X)) : List E := ms.flatMap fun m => m.pending.toList

/-- The census of blind episodes, from what each account's own lines come to. -/
def BlindEpisodes.reference (view : List (Text × ℕ)) : BlindEpisodes :=
  let closed := exits (blindEdges view)
  let opened := openOf (blindMatchings view)
  let horizonTs := (view.filterMap fun n => ownTime n.1).max?
  { nEntered := (enters (blindEdges view)).length
    nExited := closed.length
    nSwappedAway := closed.countP (·.swappedAway)
    nNeverRecovered := opened.length
    nAnchorLost := lostOf (blindMatchings view)
    nExitWithoutEnter := strayOf (blindMatchings view)
    nMalformed := view.countP fun n =>
      unplaced .blindEnter BlindEntry.read n || unplaced .blindExit BlindExit.read n
    nearLimitEpisodes := closed.countP (·.nearLimit) + opened.countP (·.nearLimit)
    nearLimitObservedSecs :=
      min ((closed.filter (·.nearLimit)).map (·.durationSecs)).sum (2 ^ 64 - 1)
    nearLimitCensoredFloorSecs :=
      min ((opened.filter (·.nearLimit)).map (censoredFloor horizonTs)).sum (2 ^ 64 - 1) }

/-- The exits that are a first sight. -/
def firstSights (closed : List FirstSightExit) : List FirstSightExit :=
  closed.filter fun x => x.wasActive && !x.swappedAway

def FirstSight.reference (view : List (Text × ℕ)) : FirstSight :=
  let closed := exits (sightEdges view)
  let thresholds := (enters (sightEdges view)).map (·.thresholdSecs)
  let breaches := (firstSights closed).map (·.elapsedSecs)
  let pct p := if breaches = [] then none else some (wholePercentile breaches p)
  { nEntered := (enters (sightEdges view)).length
    nExited := closed.length
    n := breaches.length
    nSwappedAway := closed.countP fun x => x.wasActive && x.swappedAway
    nNotActive := closed.countP fun x => !x.wasActive
    nNeverRecovered := (openOf (sightMatchings view)).length
    nAnchorLost := lostOf (sightMatchings view)
    nExitWithoutEnter := strayOf (sightMatchings view)
    nMalformed := view.countP fun n =>
      unplaced .observationGapEnter FirstSightEntry.read n ||
        unplaced .observationGapExit FirstSightExit.read n
    breachP50 := pct (50 / 100)
    breachP95 := pct (95 / 100)
    breachP100 := pct 1
    entryThresholdSecs := thresholds.min?
    nEntryThresholds := thresholds.dedup.length
    nOverFailBoundUpper := thresholds.min?.map fun t =>
      breaches.countP fun elapsed => decide (min (2 * t) (2 ^ 64 - 1) < elapsed) }

/-! ## The walk over all accounts -/

section Walk

variable {E X : Type} {acctE : E → Text} {acctX : X → Text} {stamp : Edge E X → ℤ ×ₗ ℕ}
  {edges timeline : List (Edge E X)}

theorem own_sorted (acctE : E → Text) (acctX : X → Text) (stamp : Edge E X → ℤ ×ₗ ℕ)
    (edges : List (Edge E X)) (acct : Text) : own acctE acctX acct (Ledger.sorted stamp edges) =
    Ledger.sorted stamp (own acctE acctX acct edges) := by
  unfold own
  have hsorted : (Ledger.sorted stamp edges).Pairwise fun x y => stamp x ≤ stamp y :=
    Ledger.pairwise_sorted
  apply Ledger.eq_of_entries (hsorted.filter _) Ledger.pairwise_sorted
  intro k
  rw [Ledger.entries_sorted]
  have hsame : Ledger.entries stamp k (Ledger.sorted stamp edges) = Ledger.entries stamp k edges :=
    Ledger.entries_sorted
  unfold Ledger.entries at hsame ⊢
  rw [List.filter_comm, hsame, List.filter_comm]

theorem mem_accounts (acctE : E → Text) (acctX : X → Text) {edge : Edge E X} (h : edge ∈ Ledger.sorted stamp edges) :
    edge.key acctE acctX ∈ accounts acctE acctX edges := by
  unfold accounts
  rw [List.mem_dedup]
  exact List.mem_map_of_mem (Ledger.sorted_perm.mem_iff.mp h)

/-- The walk over the edges of all accounts counts what each account's own edges come to. -/
theorem walk_sorted (acctE : E → Text) (acctX : X → Text) (stamp : Edge E X → ℤ ×ₗ ℕ)
    (edges : List (Edge E X)) :
    (walk acctE acctX (Ledger.sorted stamp edges)).lost = lostOf (matchings acctE acctX stamp edges) ∧
    (walk acctE acctX (Ledger.sorted stamp edges)).stray = strayOf (matchings acctE acctX stamp edges) ∧
    (walk acctE acctX (Ledger.sorted stamp edges)).pending.Perm
      (openOf (matchings acctE acctX stamp edges)) := by
  have hnodup : (accounts acctE acctX edges).Nodup := List.nodup_dedup _
  have htells := walk_tells hnodup fun edge (hedge : edge ∈ Ledger.sorted stamp edges) =>
    mem_accounts acctE acctX hedge
  have hown : ∀ acct, bracket (own acctE acctX acct (Ledger.sorted stamp edges)) =
      matching acctE acctX stamp edges acct := fun acct => congrArg bracket (own_sorted _ _ _ _ acct)
  refine ⟨?_, ?_, ?_⟩
  · rw [htells.lost]
    unfold lostOf matchings
    rw [List.map_map]
    simp only [hown]
    rfl
  · rw [htells.stray]
    unfold strayOf matchings
    rw [List.map_map]
    simp only [hown]
    rfl
  · refine (htells.pending_perm hnodup fun edge hedge => mem_accounts _ _ hedge).trans ?_
    unfold openOf matchings
    rw [List.flatMap_map]
    simp only [hown]
    exact .refl _

/-- Every entry is paired, superseded or open, and every exit is paired or without an entry. -/
theorem length_matchings (acctE : E → Text) (acctX : X → Text) (stamp : Edge E X → ℤ ×ₗ ℕ)
    (edges : List (Edge E X)) :
    (enters edges).length = pairedOf (matchings acctE acctX stamp edges) +
      lostOf (matchings acctE acctX stamp edges) + (openOf (matchings acctE acctX stamp edges)).length ∧
    (exits edges).length = pairedOf (matchings acctE acctX stamp edges) +
      strayOf (matchings acctE acctX stamp edges) := by
  have hnodup : (accounts acctE acctX edges).Nodup := List.nodup_dedup _
  have hsorted : (Ledger.sorted stamp edges).Perm edges := Ledger.sorted_perm
  have hown : ∀ acct, bracket (own acctE acctX acct (Ledger.sorted stamp edges)) =
      matching acctE acctX stamp edges acct := fun acct => congrArg bracket (own_sorted _ _ _ _ acct)
  have henters := length_enters hnodup fun edge (hedge : edge ∈ Ledger.sorted stamp edges) =>
    mem_accounts acctE acctX hedge
  have hexits := length_exits hnodup fun edge (hedge : edge ∈ Ledger.sorted stamp edges) =>
    mem_accounts acctE acctX hedge
  simp only [hown] at henters hexits
  unfold pairedOf lostOf strayOf openOf matchings
  rw [List.length_flatMap]
  simp only [List.map_map]
  exact ⟨((hsorted.filterMap _).length_eq).symm.trans henters,
    ((hsorted.filterMap _).length_eq).symm.trans hexits⟩

end Walk

/-! ## The timeline -/

section Timeline

variable {E X : Type} {stamp : Edge E X → ℤ ×ₗ ℕ} {opening closing : EventKind}
  {readE : Text → ℕ → Option E} {readX : Text → ℕ → Option X} {view : List (Text × ℕ)}
  {edges edges' : List (Edge E X)} {edge : Edge E X} {n : Text × ℕ}

theorem split_perm (edges : List (Edge E X)) :
    ((enters edges).map Edge.enter ++ (exits edges).map Edge.exit).Perm edges := by
  induction edges with
  | nil => exact .nil
  | cons edge edges ih =>
    cases edge with
    | enter e => exact ih.cons _
    | exit x => exact List.perm_middle.trans (ih.cons _)

theorem edgeOf_opening (hne : opening ≠ closing) {e : E} :
    edgeOf opening closing readE readX n = some (.enter e) ↔ readAs opening readE n = some e := by
  unfold edgeOf readAs
  by_cases h : eventKind n.1 = some opening
  · have hclosing : eventKind n.1 ≠ some closing := by
      rw [h]
      exact fun heq => hne (Option.some.inj heq)
    rw [if_pos h, if_neg hclosing]
    cases readE n.1 n.2 <;> simp
  · rw [if_neg h]
    by_cases h' : eventKind n.1 = some closing
    · rw [if_pos h']
      cases readX n.1 n.2 <;> simp
    · rw [if_neg h']
      simp

theorem edgeOf_closing (hne : opening ≠ closing) {x : X} :
    edgeOf opening closing readE readX n = some (.exit x) ↔ readAs closing readX n = some x := by
  unfold edgeOf readAs
  by_cases h : eventKind n.1 = some opening
  · have hclosing : eventKind n.1 ≠ some closing := by
      rw [h]
      exact fun heq => hne (Option.some.inj heq)
    rw [if_pos h, if_neg hclosing]
    cases readE n.1 n.2 <;> simp
  · rw [if_neg h]
    by_cases h' : eventKind n.1 = some closing
    · rw [if_pos h']
      cases readX n.1 n.2 <;> simp
    · rw [if_neg h']
      simp

theorem enters_edges (hne : opening ≠ closing) (readE : Text → ℕ → Option E)
    (readX : Text → ℕ → Option X) :
    enters (view.filterMap (edgeOf opening closing readE readX)) = view.filterMap (readAs opening readE) := by
  unfold enters
  rw [List.filterMap_filterMap]
  apply List.filterMap_congr
  intro n _
  ext e
  rw [← edgeOf_opening hne]
  cases h : edgeOf opening closing readE readX n with
  | none => simp
  | some edge => cases edge <;> simp

theorem exits_edges (hne : opening ≠ closing) (readE : Text → ℕ → Option E)
    (readX : Text → ℕ → Option X) :
    exits (view.filterMap (edgeOf opening closing readE readX)) = view.filterMap (readAs closing readX) := by
  unfold exits
  rw [List.filterMap_filterMap]
  apply List.filterMap_congr
  intro n _
  ext x
  rw [← edgeOf_closing hne]
  cases h : edgeOf opening closing readE readX n with
  | none => simp
  | some edge => cases edge <;> simp

theorem sorted_of_perm (h : edges.Perm edges')
    (hstamp : ∀ edge ∈ edges, ∀ edge' ∈ edges, stamp edge = stamp edge' → edge = edge') :
    Ledger.sorted stamp edges = Ledger.sorted stamp edges' := by
  apply List.Perm.eq_of_pairwise _ Ledger.pairwise_sorted Ledger.pairwise_sorted
    (Ledger.sorted_perm.trans (h.trans Ledger.sorted_perm.symm))
  intro edge edge' hedge hedge' hle hge
  exact hstamp edge (Ledger.sorted_perm.mem_iff.mp hedge) edge'
    (h.mem_iff.mpr (Ledger.sorted_perm.mem_iff.mp hedge')) (le_antisymm hle hge)

/-- A line bears one edge, with the line's own number. -/
theorem stamp_of_edgeOf (hE : ∀ line seq e, readE line seq = some e → (ofLex (stamp (.enter e))).2 = seq)
    (hX : ∀ line seq x, readX line seq = some x → (ofLex (stamp (.exit x))).2 = seq)
    (h : edgeOf opening closing readE readX n = some edge) : (ofLex (stamp edge)).2 = n.2 := by
  unfold edgeOf readAs at h
  by_cases hopening : eventKind n.1 = some opening
  · rw [if_pos hopening] at h
    cases hread : readE n.1 n.2 with
    | none =>
      rw [hread, Option.map_none, Option.none_or] at h
      obtain ⟨x, hx, rfl⟩ := Option.map_eq_some_iff.mp h
      by_cases hclosing : eventKind n.1 = some closing
      · rw [if_pos hclosing] at hx
        exact hX _ _ _ hx
      · rw [if_neg hclosing] at hx
        cases hx
    | some e =>
      rw [hread] at h
      obtain rfl := Option.some.inj h
      exact hE _ _ _ hread
  · rw [if_neg hopening, Option.map_none, Option.none_or] at h
    obtain ⟨x, hx, rfl⟩ := Option.map_eq_some_iff.mp h
    by_cases hclosing : eventKind n.1 = some closing
    · rw [if_pos hclosing] at hx
      exact hX _ _ _ hx
    · rw [if_neg hclosing] at hx
      cases hx

theorem eq_of_viewed {text : Text} {cutoff : Option ℤ} {n n' : Text × ℕ} (h : n ∈ viewed text cutoff)
    (h' : n' ∈ viewed text cutoff) (hseq : n.2 = n'.2) : n = n' := by
  have hline := List.mem_zipIdx_iff_getElem?.mp (List.mem_filter.mp h).1
  have hline' := List.mem_zipIdx_iff_getElem?.mp (List.mem_filter.mp h').1
  rw [hseq, hline'] at hline
  exact Prod.ext (Option.some.inj hline).symm hseq

/-- The timeline is the same from the two halves as from the lines as they stand. -/
theorem sorted_halves (text : Text) (cutoff : Option ℤ) (hne : opening ≠ closing)
    (hE : ∀ line seq e, readE line seq = some e → (ofLex (stamp (.enter e))).2 = seq)
    (hX : ∀ line seq x, readX line seq = some x → (ofLex (stamp (.exit x))).2 = seq) :
    Ledger.sorted stamp (((viewed text cutoff).filterMap (readAs opening readE)).map Edge.enter ++
        ((viewed text cutoff).filterMap (readAs closing readX)).map Edge.exit) =
      Ledger.sorted stamp ((viewed text cutoff).filterMap (edgeOf opening closing readE readX)) := by
  rw [← enters_edges hne readE readX, ← exits_edges hne readE readX]
  apply sorted_of_perm (split_perm _)
  intro edge hedge edge' hedge' hstamp
  obtain ⟨n, hn, hof⟩ := List.mem_filterMap.mp ((split_perm _).mem_iff.mp hedge)
  obtain ⟨n', hn', hof'⟩ := List.mem_filterMap.mp ((split_perm _).mem_iff.mp hedge')
  have hseq : n.2 = n'.2 := by
    rw [← stamp_of_edgeOf hE hX hof, ← stamp_of_edgeOf hE hX hof', hstamp]
  obtain rfl := eq_of_viewed hn hn' hseq
  rw [hof] at hof'
  exact Option.some.inj hof'

end Timeline

/-! ## The counts -/

section Counts

variable {out : BlindEpisodes} {closed : List BlindExit} {opened : List BlindEntry}

theorem satAdd_sum {l : List ℕ} {n : ℕ} :
    l.foldl satAdd (min n (2 ^ 64 - 1)) = min (n + l.sum) (2 ^ 64 - 1) := by
  induction l generalizing n with
  | nil => rfl
  | cons m l ih =>
    have hstep : satAdd (min n (2 ^ 64 - 1)) m = min (n + m) (2 ^ 64 - 1) := by
      unfold satAdd
      omega
    rw [List.foldl_cons, hstep, ih, List.sum_cons, Nat.add_assoc]

theorem satAdd_zero_sum (l : List ℕ) : l.foldl satAdd 0 = min l.sum (2 ^ 64 - 1) := by
  have h := satAdd_sum (l := l) (n := 0)
  rwa [Nat.zero_min, Nat.zero_add] at h

/-- What the exits add, each read off its own line. -/
theorem foldl_countExit : closed.foldl countExit out =
    { out with
      nSwappedAway := out.nSwappedAway + closed.countP (·.swappedAway)
      nearLimitEpisodes := out.nearLimitEpisodes + closed.countP (·.nearLimit)
      nearLimitObservedSecs := ((closed.filter (·.nearLimit)).map (·.durationSecs)).foldl satAdd
        out.nearLimitObservedSecs } := by
  induction closed generalizing out with
  | nil => rfl
  | cons x closed ih =>
    rw [List.foldl_cons, ih]
    unfold countExit
    cases hswapped : x.swappedAway <;> cases hnear : x.nearLimit <;>
      simp [hswapped, hnear, Nat.add_assoc, Nat.add_comm 1]

/-- What is still open adds itself, and its floor. -/
theorem foldl_countOpen {horizonTs : Option ℤ} : opened.foldl (countOpen horizonTs) out =
    { out with
      nNeverRecovered := out.nNeverRecovered + opened.length
      nearLimitEpisodes := out.nearLimitEpisodes + opened.countP (·.nearLimit)
      nearLimitCensoredFloorSecs := ((opened.filter (·.nearLimit)).map (censoredFloor horizonTs)).foldl
        satAdd out.nearLimitCensoredFloorSecs } := by
  induction opened generalizing out with
  | nil => rfl
  | cons e opened ih =>
    rw [List.foldl_cons, ih]
    unfold countOpen
    cases hnear : e.nearLimit <;> simp [hnear, Nat.add_assoc, Nat.add_comm 1]

/-- Each exit is of one class, and a first sight leaves its time. -/
theorem foldl_countSight {closed : List FirstSightExit} {out : FirstSight} {breaches : List ℕ} :
    closed.foldl countSight (out, breaches) =
      ({ out with
        n := out.n + (firstSights closed).length
        nSwappedAway := out.nSwappedAway + closed.countP fun x => x.wasActive && x.swappedAway
        nNotActive := out.nNotActive + closed.countP fun x => !x.wasActive },
      breaches ++ (firstSights closed).map (·.elapsedSecs)) := by
  induction closed generalizing out breaches with
  | nil => simp [firstSights]
  | cons x closed ih =>
    rw [List.foldl_cons]
    by_cases hactive : x.wasActive = true
    · by_cases hswapped : x.swappedAway = true
      · have hstep : countSight (out, breaches) x =
            ({ out with nSwappedAway := out.nSwappedAway + 1 }, breaches) := by
          simp [countSight, hactive, hswapped]
        rw [hstep, ih]
        simp [firstSights, hactive, hswapped, Nat.add_assoc, Nat.add_comm 1]
      · have hstep : countSight (out, breaches) x =
            ({ out with n := out.n + 1 }, breaches ++ [x.elapsedSecs]) := by
          simp [countSight, hactive, hswapped]
        rw [hstep, ih]
        simp [firstSights, hactive, hswapped, Nat.add_assoc, Nat.add_comm 1]
    · have hstep : countSight (out, breaches) x =
          ({ out with nNotActive := out.nNotActive + 1 }, breaches) := by
        simp [countSight, hactive]
      rw [hstep, ih]
      simp [firstSights, hactive, Nat.add_assoc, Nat.add_comm 1]

end Counts

/-! ## The censuses -/

section Census

variable [FloatRead]

omit [FloatRead] in
theorem seq_blindEntry (line : Text) (seq : ℕ) (e : BlindEntry) (h : BlindEntry.read line seq = some e) :
    (ofLex (blindStamp (.enter e))).2 = seq := by
  simp only [BlindEntry.read, Option.bind_eq_bind, Option.bind_eq_some_iff, Option.pure_def,
    Option.some.injEq] at h
  obtain ⟨ts, -, acct, -, rfl⟩ := h
  rfl

omit [FloatRead] in
theorem seq_blindExit (line : Text) (seq : ℕ) (x : BlindExit) (h : BlindExit.read line seq = some x) :
    (ofLex (blindStamp (.exit x))).2 = seq := by
  simp only [BlindExit.read, Option.bind_eq_bind, Option.bind_eq_some_iff, Option.pure_def,
    Option.some.injEq] at h
  obtain ⟨ts, -, acct, -, secs, -, rfl⟩ := h
  rfl

omit [FloatRead] in
theorem seq_firstSightEntry (line : Text) (seq : ℕ) (e : FirstSightEntry)
    (h : FirstSightEntry.read line seq = some e) : (ofLex (sightStamp (.enter e))).2 = seq := by
  simp only [FirstSightEntry.read, Option.bind_eq_bind, Option.bind_eq_some_iff, Option.pure_def,
    Option.some.injEq] at h
  obtain ⟨ts, -, acct, -, secs, -, rfl⟩ := h
  rfl

omit [FloatRead] in
theorem seq_firstSightExit (line : Text) (seq : ℕ) (x : FirstSightExit)
    (h : FirstSightExit.read line seq = some x) : (ofLex (sightStamp (.exit x))).2 = seq := by
  simp only [FirstSightExit.read, Option.bind_eq_bind, Option.bind_eq_some_iff, Option.pure_def,
    Option.some.injEq] at h
  obtain ⟨ts, -, acct, -, secs, -, active, -, away, -, rfl⟩ := h
  rfl

/-- The blind census of a log is that of each account's own lines. -/
theorem blindEpisodes_eq (text : Text) (cutoff : Option ℤ) :
    (parseEvents text cutoff).blindEpisodes = BlindEpisodes.reference (viewed text cutoff) := by
  have hc := parseEvents_collected text cutoff
  have hne : EventKind.blindEnter ≠ EventKind.blindExit := by decide
  have hhalves := sorted_halves text cutoff hne seq_blindEntry seq_blindExit
  obtain ⟨hlost, hstray, hpending⟩ :=
    walk_sorted BlindEntry.acct BlindExit.acct blindStamp (blindEdges (viewed text cutoff))
  unfold Inputs.blindEpisodes foldBlindEpisodes blindWalk BlindEpisodes.reference
  rw [hc.blindEntries, hc.blindExits, hc.horizonTs, hc.blindPairMalformed, hhalves]
  unfold blindEdges at hlost hstray hpending ⊢
  rw [enters_edges hne, exits_edges hne]
  have hfloor := ((hpending.filter (·.nearLimit)).map (censoredFloor
    ((viewed text cutoff).filterMap fun n => ownTime n.1).max?)).sum_eq
  simp only [foldl_countExit, foldl_countOpen, satAdd_zero_sum, hlost, hstray, hpending.length_eq,
    hpending.countP_eq, hfloor, Nat.zero_add]
  rfl

omit [FloatRead] in
theorem over_eq (closed : List FirstSightExit) (bound : ℕ) :
    (closed.filter fun x => x.wasActive && !x.swappedAway && decide (bound < x.elapsedSecs)).length =
      ((firstSights closed).map (·.elapsedSecs)).countP fun elapsed => decide (bound < elapsed) := by
  unfold firstSights
  rw [List.countP_map, List.countP_filter, List.countP_eq_length_filter]
  congr 1
  apply List.filter_congr
  intro x _
  simp [Bool.and_comm]

/-- The census of first sights of a log is that of each account's own lines. -/
theorem firstSight_eq (text : Text) (cutoff : Option ℤ) :
    (parseEvents text cutoff).firstSight = FirstSight.reference (viewed text cutoff) := by
  have hc := parseEvents_collected text cutoff
  have hne : EventKind.observationGapEnter ≠ EventKind.observationGapExit := by decide
  have hhalves :=
    sorted_halves text cutoff hne seq_firstSightEntry seq_firstSightExit
  obtain ⟨hlost, hstray, hpending⟩ := walk_sorted FirstSightEntry.acct FirstSightExit.acct sightStamp
    (sightEdges (viewed text cutoff))
  unfold Inputs.firstSight foldFirstSight sightWalk FirstSight.reference
  rw [hc.firstSightEntries, hc.firstSightExits, hc.firstSightMalformed, hhalves]
  unfold sightEdges at hlost hstray hpending ⊢
  rw [enters_edges hne, exits_edges hne]
  simp only [foldl_countSight, FirstSight.failBoundSecs, hlost, hstray, hpending.length_eq, Nat.zero_add,
    List.nil_append, Option.map_map, List.length_map, over_eq]
  have hpct : ∀ (breaches : List FirstSightExit) (value : Option ℕ),
      (if 0 < breaches.length then value else none) = if breaches = [] then none else value := by
    intro breaches value
    cases breaches <;> rfl
  simp only [hpct, List.map_eq_nil_iff]
  rfl

/-- Each blind window in view is of one class, or leaves a projection. -/
theorem windows_partition (view : List (Text × ℕ)) :
    view.countP (isWindow .malformed) + view.countP (isWindow .withoutSessionWindow) +
      view.countP (isWindow .belowArmGate) + view.countP (isWindow .withoutVelocity) +
        (view.filterMap fun n => (windowOf n).bind BlindWindow.projection?).length =
      view.countP fun n => (windowOf n).isSome := by
  induction view with
  | nil => rfl
  | cons n view ih =>
    cases h : windowOf n with
    | none => simpa [isWindow, h] using ih
    | some window =>
      cases window <;> simp [isWindow, h, BlindWindow.projection?] at ih ⊢ <;> omega

omit [FloatRead] in
theorem sights_partition (closed : List FirstSightExit) :
    (firstSights closed).length + closed.countP (fun x => x.wasActive && x.swappedAway) +
      closed.countP (fun x => !x.wasActive) = closed.length := by
  induction closed with
  | nil => rfl
  | cons x closed ih =>
    unfold firstSights at ih ⊢
    cases hactive : x.wasActive <;> cases hswapped : x.swappedAway <;>
      simp [hactive, hswapped] at ih ⊢ <;> omega

omit [FloatRead] in
/-- A projection is set against what was reached, or has nothing to be set against. -/
theorem projectionError_partition (inputs : Inputs) : inputs.blindProjectionError.nReconcilable +
    inputs.blindProjectionError.nSentinelExcluded = inputs.blindProjectionError.nProjectable := by
  have hle := List.length_filter_le (fun p : BlindProjection => decide (0 < p.arrivedPct))
    inputs.blindProjections
  simp only [Inputs.blindProjectionError, List.length_map]
  omega

/-- The censuses are those of each account's own lines, and leave no line out. -/
structure ExactCensuses (view : List (Text × ℕ)) (inputs : Inputs) : Prop where
  blind : inputs.blindEpisodes = .reference view
  sight : inputs.firstSight = .reference view
  blindEnters : inputs.blindEpisodes.nEntered = pairedOf (blindMatchings view) +
    inputs.blindEpisodes.nAnchorLost + inputs.blindEpisodes.nNeverRecovered
  blindExits : inputs.blindEpisodes.nExited =
    pairedOf (blindMatchings view) + inputs.blindEpisodes.nExitWithoutEnter
  sightEnters : inputs.firstSight.nEntered = pairedOf (sightMatchings view) +
    inputs.firstSight.nAnchorLost + inputs.firstSight.nNeverRecovered
  sightExits : inputs.firstSight.nExited =
    pairedOf (sightMatchings view) + inputs.firstSight.nExitWithoutEnter
  sightClasses : inputs.firstSight.n + inputs.firstSight.nSwappedAway + inputs.firstSight.nNotActive =
    inputs.firstSight.nExited
  malformed : inputs.blindWindowCensus.malformed = view.countP (isWindow .malformed)
  withoutSessionWindow :
    inputs.blindWindowCensus.withoutSessionWindow = view.countP (isWindow .withoutSessionWindow)
  belowArmGate : inputs.blindWindowCensus.belowArmGate = view.countP (isWindow .belowArmGate)
  withoutVelocity : inputs.blindWindowCensus.withoutVelocity = view.countP (isWindow .withoutVelocity)
  projections : inputs.blindProjections =
    view.filterMap fun n => (windowOf n).bind BlindWindow.projection?
  total : inputs.blindWindowCensus.total = view.countP fun n => (windowOf n).isSome
  windowClasses : inputs.blindWindowCensus.malformed + inputs.blindWindowCensus.withoutSessionWindow +
    inputs.blindWindowCensus.belowArmGate + inputs.blindWindowCensus.withoutVelocity +
      inputs.blindProjections.length = inputs.blindWindowCensus.total
  sentinels : inputs.blindProjectionError.nReconcilable + inputs.blindProjectionError.nSentinelExcluded =
    inputs.blindProjections.length

/-- Whatever a log holds and wherever its view begins, the pass and the folds count what each
account's own lines come to. -/
theorem exact_censuses (text : Text) (cutoff : Option ℤ) :
    ExactCensuses (viewed text cutoff) (parseEvents text cutoff) := by
  have hc := parseEvents_collected text cutoff
  have hblind := length_matchings BlindEntry.acct BlindExit.acct blindStamp
    (blindEdges (viewed text cutoff))
  have hsight := length_matchings FirstSightEntry.acct FirstSightExit.acct sightStamp
    (sightEdges (viewed text cutoff))
  constructor
  · exact blindEpisodes_eq text cutoff
  · exact firstSight_eq text cutoff
  · rw [blindEpisodes_eq]
    exact hblind.1
  · rw [blindEpisodes_eq]
    exact hblind.2
  · rw [firstSight_eq]
    exact hsight.1
  · rw [firstSight_eq]
    exact hsight.2
  · rw [firstSight_eq]
    have h := sights_partition (exits (sightEdges (viewed text cutoff)))
    simpa [FirstSight.reference] using h
  · exact hc.malformed
  · exact hc.withoutSessionWindow
  · exact hc.belowArmGate
  · exact hc.withoutVelocity
  · exact hc.blindProjections
  · exact hc.total
  · rw [hc.malformed, hc.withoutSessionWindow, hc.belowArmGate, hc.withoutVelocity,
      hc.blindProjections, hc.total]
    exact windows_partition _
  · exact projectionError_partition _

end Census

end Sessiometer.Reliability
