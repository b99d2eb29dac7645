import Mathlib.Data.List.Induction
import Sessiometer.Reliability.Landing
import Sessiometer.Stats.SwapHistory

/-! # The events of the reliability report

What one pass over the event log collects for the indicators: each line in view adds to the inputs what
its event tells, and the hold of an exhausted fleet is carried from line to line. -/

namespace Sessiometer.Reliability

open Framing Log

/-- How a decimal number is read, and which numbers a double can hold. -/
class FloatRead where
  finite : Text → Option ℚ
  holds : ℚ → Bool

/-! ## What is collected -/

structure BlindEntry where
  ts : ℤ
  seq : ℕ
  acct : Text
  nearLimit : Bool
deriving DecidableEq

structure BlindExit where
  ts : ℤ
  seq : ℕ
  acct : Text
  nearLimit : Bool
  durationSecs : ℕ
  swappedAway : Bool
deriving DecidableEq

structure FirstSightEntry where
  ts : ℤ
  seq : ℕ
  acct : Text
  thresholdSecs : ℕ
deriving DecidableEq

structure FirstSightExit where
  ts : ℤ
  seq : ℕ
  acct : Text
  elapsedSecs : ℕ
  wasActive : Bool
  swappedAway : Bool
deriving DecidableEq

structure BlindProjection where
  projectedPct : ℚ
  arrivedPct : ℕ
deriving DecidableEq

structure BlindWindowCensus where
  total : ℕ := 0
  withoutSessionWindow : ℕ := 0
  belowArmGate : ℕ := 0
  withoutVelocity : ℕ := 0
  malformed : ℕ := 0
deriving DecidableEq

structure RefreshTokenLossByMechanism where
  sweep : ℕ := 0
  pollRetry : ℕ := 0
  parkedRecovery : ℕ := 0
  keepWarm : ℕ := 0
deriving DecidableEq

structure Inputs where
  swapOutPcts : List ℕ := []
  swapOutHeldPcts : List ℕ := []
  timeBlindNearLimitSecs : ℕ := 0
  nearLimitReconciliations : List (ℕ × ℕ) := []
  rateLimited : ℕ := 0
  transient : ℕ := 0
  cleared : ℕ := 0
  preemptiveSwaps : ℕ := 0
  projectiveSwapOutPcts : List ℕ := []
  velocityPreemptSwaps : ℕ := 0
  sessionSwaps : List SwapOut := []
  operatorSwaps : List SwapOut := []
  reactivations : List Reactivation := []
  sessionVelocities : List ℚ := []
  blindProjections : List BlindProjection := []
  blindWindowCensus : BlindWindowCensus := {}
  blindEntries : List BlindEntry := []
  blindExits : List BlindExit := []
  blindPairMalformed : ℕ := 0
  firstSightEntries : List FirstSightEntry := []
  firstSightExits : List FirstSightExit := []
  firstSightMalformed : ℕ := 0
  refreshTokenLossAccounts : List Text := []
  refreshTokenLossByMechanism : RefreshTokenLossByMechanism := {}
  refreshTokenLossConfirmed : ℕ := 0
  horizonTs : Option ℤ := none

/-- A 32-bit counter, which stays at its greatest value. -/
def bump (n : ℕ) : ℕ := min (n + 1) (2 ^ 32 - 1)

/-- A 64-bit sum, which stays at its greatest value. -/
def satAdd (n m : ℕ) : ℕ := min (n + m) (2 ^ 64 - 1)

/-! ## Reading a line -/

def readU8 (line : Text) (key : String) : Option ℕ := (fieldOf line key).bind (parseUnsigned (2 ^ 8))

def readU64 (line : Text) (key : String) : Option ℕ := (fieldOf line key).bind (parseUnsigned (2 ^ 64))

/-- `true` or `false`, and nothing else. -/
def flag (line : Text) (key : String) : Option Bool :=
  if fieldOf line key = some "true".toList then some true
  else if fieldOf line key = some "false".toList then some false
  else none

def isTrue (line : Text) (key : String) : Bool := decide (fieldOf line key = some "true".toList)

/-- A token that may be absent, but is a number where it is there. -/
def sessionToken (line : Text) (key : String) : Option (Option ℕ) :=
  match fieldOf line key with
  | none => some none
  | some v => (parseUnsigned (2 ^ 8) v).map some

def BlindEntry.read (line : Text) (seq : ℕ) : Option BlindEntry := do
  let ts ← ownTime line
  let acct ← fieldOf line "acct"
  pure { ts, seq, acct, nearLimit := isTrue line "near_limit" }

def BlindExit.read (line : Text) (seq : ℕ) : Option BlindExit := do
  let ts ← ownTime line
  let acct ← fieldOf line "acct"
  let durationSecs ← readU64 line "duration_secs"
  pure { ts, seq, acct, nearLimit := isTrue line "near_limit", durationSecs,
         swappedAway := isTrue line "swapped_away" }

def FirstSightEntry.read (line : Text) (seq : ℕ) : Option FirstSightEntry := do
  let ts ← ownTime line
  let acct ← fieldOf line "acct"
  let thresholdSecs ← readU64 line "threshold_secs"
  pure { ts, seq, acct, thresholdSecs }

def FirstSightExit.read (line : Text) (seq : ℕ) : Option FirstSightExit := do
  let ts ← ownTime line
  let acct ← fieldOf line "acct"
  let elapsedSecs ← readU64 line "elapsed_secs"
  let wasActive ← flag line "was_active"
  let swappedAway ← flag line "swapped_away"
  pure { ts, seq, acct, elapsedSecs, wasActive, swappedAway }

/-- What a `blind_window` line comes to, gate by gate in the order of the arm that it reports on. -/
inductive BlindWindow where
  | malformed
  | withoutSessionWindow
  | belowArmGate
  | withoutVelocity
  | projectable (projection : BlindProjection)
deriving DecidableEq

def BlindWindow.projection? : BlindWindow → Option BlindProjection
  | .projectable projection => some projection
  | _ => none

section Float

variable [FloatRead]

/-- The forecast of the arm from the tokens of the line. -/
def BlindWindow.project (line : Text) (anchor arrived blindSecs : ℕ) : BlindWindow :=
  match (fieldOf line "rate").bind FloatRead.finite, (fieldOf line "inflation").bind FloatRead.finite,
      sessionToken line "session_high_water_pct" with
  | some rate, some inflation, some mark =>
    let projectedPct := ((mark.elim anchor (max anchor) : ℕ) : ℚ) + rate * inflation * blindSecs
    if FloatRead.holds projectedPct then .projectable { projectedPct, arrivedPct := arrived }
    else .malformed
  | _, _, _ => .malformed

def BlindWindow.read (line : Text) : BlindWindow :=
  match sessionToken line "session_pct", sessionToken line "session_at_recovery",
      readU64 line "duration_secs", flag line "near_limit" with
  | some anchor, some arrived, some blindSecs, some _ =>
    match anchor, arrived with
    | some anchor, some arrived =>
      if blindSecs ≤ blindGateSecs then .belowArmGate
      else if fieldOf line "rate" = none then .withoutVelocity
      else project line anchor arrived blindSecs
    | _, _ => .withoutSessionWindow
  | _, _, _, _ => .malformed

/-- The climb of a `usage_velocity` line in percents a minute, if it is one. -/
def climb (line : Text) : Option ℚ := do
  let deltaPct ← (fieldOf line "session_delta_pct").bind FloatRead.finite
  let elapsedSecs ← (fieldOf line "elapsed_secs").bind FloatRead.finite
  if 0 < elapsedSecs ∧ 0 < deltaPct / (elapsedSecs / 60) ∧
      FloatRead.holds (deltaPct / (elapsedSecs / 60)) = true then
    pure (deltaPct / (elapsedSecs / 60))
  else none

/-! ## One line -/

/-- The token by which the departing account is left unnamed. -/
def adoptUnknownFrom : Text := "(unknown)".toList

namespace Inputs

variable (inputs : Inputs) (line : Text) (seq : ℕ) (held : Bool)

/-- The account named under the key is active from here. -/
def recordReactivationEdge (key : String) : Inputs :=
  match ownTime line, fieldOf line key with
  | some ts, some acct =>
    { inputs with reactivations := inputs.reactivations ++ [⟨ts, String.ofList acct⟩] }
  | _, _ => inputs

/-- The anchor that a swap line gives, if it names an instant and an account. -/
def anchor (acct : Option Text) (decisionPct : Option ℕ) : Option SwapOut := do
  let ts ← ownTime line
  let acct ← acct
  pure { ts, acct := String.ofList acct, decisionPct, held }

def projectiveSwap : Inputs :=
  { inputs with
    velocityPreemptSwaps := bump inputs.velocityPreemptSwaps
    projectiveSwapOutPcts := inputs.projectiveSwapOutPcts ++ (readU8 line "session_pct").toList }

def operatorSwap : Inputs :=
  { inputs with
    operatorSwaps := inputs.operatorSwaps ++
      (anchor line held ((fieldOf line "from").filter (· ≠ adoptUnknownFrom)) none).toList }

def sessionSwap : Inputs :=
  match readU8 line "session_pct" with
  | none => inputs
  | some pct =>
    { inputs with
      swapOutHeldPcts := if held then inputs.swapOutHeldPcts ++ [pct] else inputs.swapOutHeldPcts
      swapOutPcts := if held then inputs.swapOutPcts else inputs.swapOutPcts ++ [pct]
      sessionSwaps := inputs.sessionSwaps ++
        (anchor line held (fieldOf line "from") (some pct)).toList }

/-- A swap, told by its reason. -/
def swap : Inputs :=
  let reason := fieldOf line "reason"
  if reason = some "blind_preempt".toList then
    { inputs with preemptiveSwaps := bump inputs.preemptiveSwaps }
  else if reason = some "velocity_preempt".toList then inputs.projectiveSwap line
  else if reason = some "manual".toList ∨ reason = some "forced".toList then
    inputs.operatorSwap line held
  else if reason = some "session".toList then inputs.sessionSwap line held
  else inputs

def recordBlindProjection : Inputs :=
  let census := { inputs.blindWindowCensus with total := inputs.blindWindowCensus.total + 1 }
  match BlindWindow.read line with
  | .malformed =>
    { inputs with blindWindowCensus := { census with malformed := census.malformed + 1 } }
  | .withoutSessionWindow =>
    { inputs with
      blindWindowCensus := { census with withoutSessionWindow := census.withoutSessionWindow + 1 } }
  | .belowArmGate =>
    { inputs with blindWindowCensus := { census with belowArmGate := census.belowArmGate + 1 } }
  | .withoutVelocity =>
    { inputs with blindWindowCensus := { census with withoutVelocity := census.withoutVelocity + 1 } }
  | .projectable projection =>
    { inputs with
      blindWindowCensus := census
      blindProjections := inputs.blindProjections ++ [projection] }

/-- What only a window near the limit adds. -/
def nearLimitWindow : Inputs :=
  if isTrue line "near_limit" then
    { inputs with
      timeBlindNearLimitSecs :=
        (readU64 line "duration_secs").elim inputs.timeBlindNearLimitSecs
          (satAdd inputs.timeBlindNearLimitSecs)
      nearLimitReconciliations := inputs.nearLimitReconciliations ++
        ((readU8 line "session_pct").bind fun anchor =>
          (readU8 line "session_at_recovery").map fun recovery => (anchor, recovery)).toList }
  else inputs

def blindEnter : Inputs :=
  match BlindEntry.read line seq with
  | some entry => { inputs with blindEntries := inputs.blindEntries ++ [entry] }
  | none => { inputs with blindPairMalformed := inputs.blindPairMalformed + 1 }

def blindExit : Inputs :=
  match BlindExit.read line seq with
  | some exit => { inputs with blindExits := inputs.blindExits ++ [exit] }
  | none => { inputs with blindPairMalformed := inputs.blindPairMalformed + 1 }

def observationGapEnter : Inputs :=
  match FirstSightEntry.read line seq with
  | some entry => { inputs with firstSightEntries := inputs.firstSightEntries ++ [entry] }
  | none => { inputs with firstSightMalformed := inputs.firstSightMalformed + 1 }

def observationGapExit : Inputs :=
  match FirstSightExit.read line seq with
  | some exit => { inputs with firstSightExits := inputs.firstSightExits ++ [exit] }
  | none => { inputs with firstSightMalformed := inputs.firstSightMalformed + 1 }

def usageBackoff : Inputs :=
  let kind := fieldOf line "class"
  if kind = some "rate_limited".toList then { inputs with rateLimited := bump inputs.rateLimited }
  else if kind = some "transient".toList then { inputs with transient := bump inputs.transient }
  else inputs

/-- A refresh, by any of the mechanisms, that has found the token dead. -/
def refreshLoss (lose : RefreshTokenLossByMechanism → RefreshTokenLossByMechanism) : Inputs :=
  if fieldOf line "outcome" = some "dead".toList then
    { inputs with
      refreshTokenLossByMechanism := lose inputs.refreshTokenLossByMechanism
      refreshTokenLossAccounts :=
        (fieldOf line "account").elim inputs.refreshTokenLossAccounts
          (inputs.refreshTokenLossAccounts.insert ·) }
  else inputs

def seen : Inputs :=
  { inputs with
    horizonTs := (ownTime line).elim inputs.horizonTs fun ts => some (inputs.horizonTs.elim ts (max · ts)) }

end Inputs

/-! ## The pass -/

inductive EventKind where
  | swap
  | blindWindow
  | blindEnter
  | blindExit
  | observationGapEnter
  | observationGapExit
  | usageBackoff
  | usageBackoffCleared
  | allExhausted
  | allExhaustedCleared
  | emergencySwap
  | restash
  | canonicalRecovered
  | usageVelocity
  | refresh
  | pollRefresh
  | keepWarm
  | credentialUnrecoverable
deriving DecidableEq

def EventKind.names : List (String × EventKind) :=
  [("swap", .swap), ("blind_window", .blindWindow), ("blind_enter", .blindEnter),
   ("blind_exit", .blindExit), ("observation_gap_enter", .observationGapEnter),
   ("observation_gap_exit", .observationGapExit), ("usage_backoff", .usageBackoff),
   ("usage_backoff_cleared", .usageBackoffCleared), ("all_exhausted", .allExhausted),
   ("all_exhausted_cleared", .allExhaustedCleared), ("emergency_swap", .emergencySwap),
   ("restash", .restash), ("canonical_recovered", .canonicalRecovered),
   ("usage_velocity", .usageVelocity), ("refresh", .refresh), ("poll_refresh", .pollRefresh),
   ("keep_warm", .keepWarm), ("credential_unrecoverable", .credentialUnrecoverable)]

/-- The event that the line names, if this reader knows it. -/
def eventKind (line : Text) : Option EventKind :=
  (fieldOf line "event").bind fun event =>
    (EventKind.names.find? fun name => name.1.toList = event).map Prod.snd

/-- The inputs, and the spare that an exhausted fleet is said to wait for. -/
structure Scan where
  inputs : Inputs := {}
  exhaustedHold : Option Text := none

def Scan.heldByExhaustion (s : Scan) (line : Text) : Bool :=
  s.exhaustedHold.any fun hold => decide (fieldOf line "to" = some hold)

/-- One arm of the pass over the lines. -/
def Scan.event (s : Scan) (line : Text) (seq : ℕ) : EventKind → Scan
  | .swap =>
    { inputs := (s.inputs.recordReactivationEdge line "to").swap line (s.heldByExhaustion line)
      exhaustedHold := none }
  | .blindWindow => { s with inputs := (s.inputs.recordBlindProjection line).nearLimitWindow line }
  | .blindEnter => { s with inputs := s.inputs.blindEnter line seq }
  | .blindExit => { s with inputs := s.inputs.blindExit line seq }
  | .observationGapEnter => { s with inputs := s.inputs.observationGapEnter line seq }
  | .observationGapExit => { s with inputs := s.inputs.observationGapExit line seq }
  | .usageBackoff => { s with inputs := s.inputs.usageBackoff line }
  | .usageBackoffCleared => { s with inputs := { s.inputs with cleared := bump s.inputs.cleared } }
  | .allExhausted => { s with exhaustedHold := fieldOf line "hold" }
  | .allExhaustedCleared => { s with exhaustedHold := none }
  | .emergencySwap => { s with inputs := s.inputs.recordReactivationEdge line "to" }
  | .restash => { s with inputs := s.inputs.recordReactivationEdge line "account" }
  | .canonicalRecovered => { s with inputs := s.inputs.recordReactivationEdge line "account" }
  | .usageVelocity =>
    { s with inputs :=
        { s.inputs with sessionVelocities := s.inputs.sessionVelocities ++ (climb line).toList } }
  | .refresh =>
    { s with inputs := s.inputs.refreshLoss line fun m => { m with sweep := bump m.sweep } }
  | .pollRefresh =>
    { s with inputs := s.inputs.refreshLoss line fun m =>
        if fieldOf line "trigger" = some "recovery".toList then
          { m with parkedRecovery := bump m.parkedRecovery }
        else { m with pollRetry := bump m.pollRetry } }
  | .keepWarm =>
    { s with inputs := s.inputs.refreshLoss line fun m => { m with keepWarm := bump m.keepWarm } }
  | .credentialUnrecoverable =>
    { s with inputs :=
        { s.inputs with refreshTokenLossConfirmed := bump s.inputs.refreshTokenLossConfirmed } }

/-- The line is in view: at the cutoff or after it, as far as there is one. -/
def inView (cutoff : Option ℤ) (line : Text) : Bool :=
  cutoff.all fun c => (ownTime line).any fun ts => decide (c ≤ ts)

def Scan.line (cutoff : Option ℤ) (s : Scan) (numbered : Text × ℕ) : Scan :=
  if inView cutoff numbered.1 then
    let seen := { s with inputs := s.inputs.seen numbered.1 }
    (eventKind numbered.1).elim seen (seen.event numbered.1 numbered.2)
  else s

def scan (text : Text) (cutoff : Option ℤ) : Scan :=
  (lines text).zipIdx.foldl (Scan.line cutoff) {}

def parseEvents (text : Text) (cutoff : Option ℤ) : Inputs := (scan text cutoff).inputs

/-! ## What the pass collects -/

/-- The numbered lines in view. -/
def viewed (text : Text) (cutoff : Option ℤ) : List (Text × ℕ) :=
  (lines text).zipIdx.filter fun numbered => inView cutoff numbered.1

/-- A line that is in view. -/
def Scan.seenLine (s : Scan) (numbered : Text × ℕ) : Scan :=
  let seen := { s with inputs := s.inputs.seen numbered.1 }
  (eventKind numbered.1).elim seen (seen.event numbered.1 numbered.2)

theorem scan_eq (text : Text) (cutoff : Option ℤ) :
    scan text cutoff = (viewed text cutoff).foldl Scan.seenLine {} := by
  unfold scan viewed
  rw [List.foldl_filter]
  rfl

/-- What a line of the kind is read as. -/
def readAs {α : Type} (kind : EventKind) (read : Text → ℕ → Option α) (n : Text × ℕ) : Option α :=
  if eventKind n.1 = some kind then read n.1 n.2 else none

/-- A line of the kind that cannot be read. -/
def unplaced {α : Type} (kind : EventKind) (read : Text → ℕ → Option α) (n : Text × ℕ) : Bool :=
  decide (eventKind n.1 = some kind) && (read n.1 n.2).isNone

def windowOf (n : Text × ℕ) : Option BlindWindow :=
  readAs .blindWindow (fun line _ => some (BlindWindow.read line)) n

def isWindow (window : BlindWindow) (n : Text × ℕ) : Bool := decide (windowOf n = some window)

/-- What one line in view adds to the paired lines, to the blind windows and to the horizon. -/
structure Adds (n : Text × ℕ) (before after : Inputs) : Prop where
  blindEntries : after.blindEntries =
    before.blindEntries ++ (readAs .blindEnter BlindEntry.read n).toList
  blindExits : after.blindExits = before.blindExits ++ (readAs .blindExit BlindExit.read n).toList
  blindPairMalformed : after.blindPairMalformed = before.blindPairMalformed +
    (unplaced .blindEnter BlindEntry.read n || unplaced .blindExit BlindExit.read n).toNat
  firstSightEntries : after.firstSightEntries =
    before.firstSightEntries ++ (readAs .observationGapEnter FirstSightEntry.read n).toList
  firstSightExits : after.firstSightExits =
    before.firstSightExits ++ (readAs .observationGapExit FirstSightExit.read n).toList
  firstSightMalformed : after.firstSightMalformed = before.firstSightMalformed +
    (unplaced .observationGapEnter FirstSightEntry.read n ||
      unplaced .observationGapExit FirstSightExit.read n).toNat
  total : after.blindWindowCensus.total =
    before.blindWindowCensus.total + (windowOf n).isSome.toNat
  malformed : after.blindWindowCensus.malformed =
    before.blindWindowCensus.malformed + (isWindow .malformed n).toNat
  withoutSessionWindow : after.blindWindowCensus.withoutSessionWindow =
    before.blindWindowCensus.withoutSessionWindow + (isWindow .withoutSessionWindow n).toNat
  belowArmGate : after.blindWindowCensus.belowArmGate =
    before.blindWindowCensus.belowArmGate + (isWindow .belowArmGate n).toNat
  withoutVelocity : after.blindWindowCensus.withoutVelocity =
    before.blindWindowCensus.withoutVelocity + (isWindow .withoutVelocity n).toNat
  blindProjections : after.blindProjections =
    before.blindProjections ++ ((windowOf n).bind BlindWindow.projection?).toList
  horizonTs : after.horizonTs =
    (ownTime n.1).elim before.horizonTs fun ts => some (before.horizonTs.elim ts (max · ts))

/-- Nothing of these is touched. -/
structure Beside (inputs inputs' : Inputs) : Prop where
  blindEntries : inputs'.blindEntries = inputs.blindEntries
  blindExits : inputs'.blindExits = inputs.blindExits
  blindPairMalformed : inputs'.blindPairMalformed = inputs.blindPairMalformed
  firstSightEntries : inputs'.firstSightEntries = inputs.firstSightEntries
  firstSightExits : inputs'.firstSightExits = inputs.firstSightExits
  firstSightMalformed : inputs'.firstSightMalformed = inputs.firstSightMalformed
  blindWindowCensus : inputs'.blindWindowCensus = inputs.blindWindowCensus
  blindProjections : inputs'.blindProjections = inputs.blindProjections
  horizonTs : inputs'.horizonTs = inputs.horizonTs

omit [FloatRead] in
theorem Beside.trans {i j k : Inputs} (h : Beside i j) (h' : Beside j k) : Beside i k := by
  constructor
  · rw [h'.blindEntries, h.blindEntries]
  · rw [h'.blindExits, h.blindExits]
  · rw [h'.blindPairMalformed, h.blindPairMalformed]
  · rw [h'.firstSightEntries, h.firstSightEntries]
  · rw [h'.firstSightExits, h.firstSightExits]
  · rw [h'.firstSightMalformed, h.firstSightMalformed]
  · rw [h'.blindWindowCensus, h.blindWindowCensus]
  · rw [h'.blindProjections, h.blindProjections]
  · rw [h'.horizonTs, h.horizonTs]

namespace Inputs

variable (inputs : Inputs) (line : Text) (seq : ℕ) (held : Bool) (key : String)

omit [FloatRead]

theorem recordReactivationEdge_beside : Beside inputs (inputs.recordReactivationEdge line key) := by
  unfold recordReactivationEdge
  split
  · constructor <;> rfl
  · constructor <;> rfl

theorem sessionSwap_beside : Beside inputs (inputs.sessionSwap line held) := by
  unfold sessionSwap
  split
  · constructor <;> rfl
  · constructor <;> rfl

theorem swap_beside : Beside inputs (inputs.swap line held) := by
  unfold swap
  simp only
  split
  · constructor <;> rfl
  split
  · constructor <;> rfl
  split
  · constructor <;> rfl
  split
  · exact inputs.sessionSwap_beside line held
  · constructor <;> rfl

theorem usageBackoff_beside : Beside inputs (inputs.usageBackoff line) := by
  unfold usageBackoff
  simp only
  split
  · constructor <;> rfl
  split
  · constructor <;> rfl
  · constructor <;> rfl

theorem refreshLoss_beside (lose : RefreshTokenLossByMechanism → RefreshTokenLossByMechanism) :
    Beside inputs (inputs.refreshLoss line lose) := by
  unfold refreshLoss
  split
  · constructor <;> rfl
  · constructor <;> rfl

theorem nearLimitWindow_beside : Beside inputs (inputs.nearLimitWindow line) := by
  unfold nearLimitWindow
  split
  · constructor <;> rfl
  · constructor <;> rfl

end Inputs

variable {s : Scan} {n : Text × ℕ} {kind : EventKind}

theorem Beside.adds {after : Inputs} (h : Beside (s.inputs.seen n.1) after)
    (hkind : ∀ kind ∈ [EventKind.blindWindow, .blindEnter, .blindExit, .observationGapEnter,
      .observationGapExit], eventKind n.1 ≠ some kind) : Adds n s.inputs after := by
  simp only [List.mem_cons, List.not_mem_nil, or_false, forall_eq_or_imp, forall_eq] at hkind
  obtain ⟨h₁, h₂, h₃, h₄, h₅⟩ := hkind
  constructor
  · simp [h.blindEntries, readAs, h₂, Inputs.seen]
  · simp [h.blindExits, readAs, h₃, Inputs.seen]
  · simp [h.blindPairMalformed, unplaced, h₂, h₃, Inputs.seen]
  · simp [h.firstSightEntries, readAs, h₄, Inputs.seen]
  · simp [h.firstSightExits, readAs, h₅, Inputs.seen]
  · simp [h.firstSightMalformed, unplaced, h₄, h₅, Inputs.seen]
  · simp [h.blindWindowCensus, windowOf, readAs, h₁, Inputs.seen]
  · simp [h.blindWindowCensus, isWindow, windowOf, readAs, h₁, Inputs.seen]
  · simp [h.blindWindowCensus, isWindow, windowOf, readAs, h₁, Inputs.seen]
  · simp [h.blindWindowCensus, isWindow, windowOf, readAs, h₁, Inputs.seen]
  · simp [h.blindWindowCensus, isWindow, windowOf, readAs, h₁, Inputs.seen]
  · simp [h.blindProjections, windowOf, readAs, h₁, Inputs.seen]
  · exact h.horizonTs

theorem adds_blindEnter (h : eventKind n.1 = some .blindEnter) :
    Adds n s.inputs ((s.inputs.seen n.1).blindEnter n.1 n.2) := by
  unfold Inputs.blindEnter
  cases hread : BlindEntry.read n.1 n.2 with
  | none => constructor <;> simp [Inputs.seen, readAs, unplaced, isWindow, windowOf, h, hread]
  | some entry => constructor <;> simp [Inputs.seen, readAs, unplaced, isWindow, windowOf, h, hread]

theorem adds_blindExit (h : eventKind n.1 = some .blindExit) :
    Adds n s.inputs ((s.inputs.seen n.1).blindExit n.1 n.2) := by
  unfold Inputs.blindExit
  cases hread : BlindExit.read n.1 n.2 with
  | none => constructor <;> simp [Inputs.seen, readAs, unplaced, isWindow, windowOf, h, hread]
  | some exit => constructor <;> simp [Inputs.seen, readAs, unplaced, isWindow, windowOf, h, hread]

theorem adds_observationGapEnter (h : eventKind n.1 = some .observationGapEnter) :
    Adds n s.inputs ((s.inputs.seen n.1).observationGapEnter n.1 n.2) := by
  unfold Inputs.observationGapEnter
  cases hread : FirstSightEntry.read n.1 n.2 with
  | none => constructor <;> simp [Inputs.seen, readAs, unplaced, isWindow, windowOf, h, hread]
  | some entry => constructor <;> simp [Inputs.seen, readAs, unplaced, isWindow, windowOf, h, hread]

theorem adds_observationGapExit (h : eventKind n.1 = some .observationGapExit) :
    Adds n s.inputs ((s.inputs.seen n.1).observationGapExit n.1 n.2) := by
  unfold Inputs.observationGapExit
  cases hread : FirstSightExit.read n.1 n.2 with
  | none => constructor <;> simp [Inputs.seen, readAs, unplaced, isWindow, windowOf, h, hread]
  | some exit => constructor <;> simp [Inputs.seen, readAs, unplaced, isWindow, windowOf, h, hread]

theorem adds_recordBlindProjection (h : eventKind n.1 = some .blindWindow) :
    Adds n s.inputs ((s.inputs.seen n.1).recordBlindProjection n.1) := by
  unfold Inputs.recordBlindProjection
  cases hread : BlindWindow.read n.1 with
  | projectable projection =>
    constructor <;>
      simp [Inputs.seen, readAs, unplaced, isWindow, windowOf, BlindWindow.projection?, h, hread]
  | _ =>
    constructor <;>
      simp [Inputs.seen, readAs, unplaced, isWindow, windowOf, BlindWindow.projection?, h, hread]

theorem Adds.beside {before after after' : Inputs} (h : Adds n before after)
    (hbeside : Beside after after') : Adds n before after' := by
  constructor
  · rw [hbeside.blindEntries, h.blindEntries]
  · rw [hbeside.blindExits, h.blindExits]
  · rw [hbeside.blindPairMalformed, h.blindPairMalformed]
  · rw [hbeside.firstSightEntries, h.firstSightEntries]
  · rw [hbeside.firstSightExits, h.firstSightExits]
  · rw [hbeside.firstSightMalformed, h.firstSightMalformed]
  · rw [hbeside.blindWindowCensus, h.total]
  · rw [hbeside.blindWindowCensus, h.malformed]
  · rw [hbeside.blindWindowCensus, h.withoutSessionWindow]
  · rw [hbeside.blindWindowCensus, h.belowArmGate]
  · rw [hbeside.blindWindowCensus, h.withoutVelocity]
  · rw [hbeside.blindProjections, h.blindProjections]
  · rw [hbeside.horizonTs, h.horizonTs]

/-- What a line in view adds, whatever its event. -/
theorem seenLine_adds (s : Scan) (n : Text × ℕ) : Adds n s.inputs (s.seenLine n).inputs := by
  unfold Scan.seenLine
  cases h : eventKind n.1 with
  | none =>
    apply Beside.adds
    · constructor <;> rfl
    · simp [h]
  | some kind =>
    cases kind with
    | blindEnter => exact adds_blindEnter h
    | blindExit => exact adds_blindExit h
    | observationGapEnter => exact adds_observationGapEnter h
    | observationGapExit => exact adds_observationGapExit h
    | blindWindow => exact (adds_recordBlindProjection h).beside (Inputs.nearLimitWindow_beside _ _)
    | swap =>
      exact ((Inputs.recordReactivationEdge_beside _ _ _).trans
        (Inputs.swap_beside _ _ _)).adds (by simp [h])
    | usageBackoff => exact (Inputs.usageBackoff_beside _ _).adds (by simp [h])
    | emergencySwap => exact (Inputs.recordReactivationEdge_beside _ _ _).adds (by simp [h])
    | restash => exact (Inputs.recordReactivationEdge_beside _ _ _).adds (by simp [h])
    | canonicalRecovered => exact (Inputs.recordReactivationEdge_beside _ _ _).adds (by simp [h])
    | refresh =>
      have hbeside := (s.inputs.seen n.1).refreshLoss_beside n.1 fun m => { m with sweep := bump m.sweep }
      exact hbeside.adds (by simp [h])
    | pollRefresh =>
      have hbeside := (s.inputs.seen n.1).refreshLoss_beside n.1 fun m =>
          if fieldOf n.1 "trigger" = some "recovery".toList then
            { m with parkedRecovery := bump m.parkedRecovery }
          else { m with pollRetry := bump m.pollRetry }
      exact hbeside.adds (by simp [h])
    | keepWarm =>
      have hbeside := (s.inputs.seen n.1).refreshLoss_beside n.1 fun m => { m with keepWarm := bump m.keepWarm }
      exact hbeside.adds (by simp [h])
    | usageBackoffCleared | allExhausted | allExhaustedCleared | usageVelocity
    | credentialUnrecoverable =>
      apply Beside.adds
      · constructor <;> rfl
      · simp [h]

section Fold

omit [FloatRead]

variable {σ α β : Type} {step : σ → α → σ}

/-- What each step appends is there at the end, in the order of the steps. -/
theorem foldl_collects (π : σ → List β) (f : α → Option β)
    (h : ∀ s a, π (step s a) = π s ++ (f a).toList) (l : List α) (s : σ) :
    π (l.foldl step s) = π s ++ l.filterMap f := by
  induction l generalizing s with
  | nil => simp
  | cons a l ih =>
    rw [List.foldl_cons, ih, h]
    cases hf : f a with
    | none => simp [hf]
    | some b => simp [hf]

/-- What each step counts has been counted at the end. -/
theorem foldl_counts (π : σ → ℕ) (p : α → Bool) (h : ∀ s a, π (step s a) = π s + (p a).toNat)
    (l : List α) (s : σ) : π (l.foldl step s) = π s + l.countP p := by
  induction l generalizing s with
  | nil => simp
  | cons a l ih =>
    rw [List.foldl_cons, ih, h]
    cases hp : p a with
    | false => simp [hp]
    | true =>
      simp only [hp, Bool.toNat_true, List.countP_cons_of_pos]
      omega

end Fold

variable {text : Text} {cutoff : Option ℤ}

/-- What the pass over a log has collected of the paired lines and of the blind windows. -/
structure Collected (view : List (Text × ℕ)) (inputs : Inputs) : Prop where
  blindEntries : inputs.blindEntries = view.filterMap (readAs .blindEnter BlindEntry.read)
  blindExits : inputs.blindExits = view.filterMap (readAs .blindExit BlindExit.read)
  blindPairMalformed : inputs.blindPairMalformed = view.countP fun n =>
    unplaced .blindEnter BlindEntry.read n || unplaced .blindExit BlindExit.read n
  firstSightEntries :
    inputs.firstSightEntries = view.filterMap (readAs .observationGapEnter FirstSightEntry.read)
  firstSightExits :
    inputs.firstSightExits = view.filterMap (readAs .observationGapExit FirstSightExit.read)
  firstSightMalformed : inputs.firstSightMalformed = view.countP fun n =>
    unplaced .observationGapEnter FirstSightEntry.read n ||
      unplaced .observationGapExit FirstSightExit.read n
  total : inputs.blindWindowCensus.total = view.countP fun n => (windowOf n).isSome
  malformed : inputs.blindWindowCensus.malformed = view.countP (isWindow .malformed)
  withoutSessionWindow :
    inputs.blindWindowCensus.withoutSessionWindow = view.countP (isWindow .withoutSessionWindow)
  belowArmGate : inputs.blindWindowCensus.belowArmGate = view.countP (isWindow .belowArmGate)
  withoutVelocity : inputs.blindWindowCensus.withoutVelocity = view.countP (isWindow .withoutVelocity)
  blindProjections : inputs.blindProjections =
    view.filterMap fun n => (windowOf n).bind BlindWindow.projection?
  horizonTs : inputs.horizonTs = (view.filterMap fun n => ownTime n.1).max?

omit [FloatRead] in
theorem max?_append_singleton (ts : List ℤ) (t : ℤ) :
    (ts ++ [t]).max? = some (ts.max?.elim t (max · t)) := by
  cases ts with
  | nil => rfl
  | cons t' ts =>
    rw [List.cons_append, List.max?_cons', List.max?_cons', List.foldl_append]
    rfl

/-- The horizon is the last instant in view. -/
theorem horizonTs_seenLines (view : List (Text × ℕ)) :
    (view.foldl Scan.seenLine {}).inputs.horizonTs = (view.filterMap fun n => ownTime n.1).max? := by
  induction view using List.reverseRecOn with
  | nil => rfl
  | append_singleton view n ih =>
    rw [List.foldl_append, List.foldl_cons, List.foldl_nil, (seenLine_adds _ n).horizonTs, ih,
      List.filterMap_append]
    cases h : ownTime n.1 with
    | none => simp [h]
    | some ts =>
      have hlast : [n].filterMap (fun n => ownTime n.1) = [ts] := by simp [h]
      rw [hlast, max?_append_singleton]
      rfl

theorem parseEvents_collected (text : Text) (cutoff : Option ℤ) :
    Collected (viewed text cutoff) (parseEvents text cutoff) := by
  unfold parseEvents
  rw [scan_eq]
  have hadds := seenLine_adds
  constructor
  · exact foldl_collects (fun s : Scan => s.inputs.blindEntries) _ (fun s n => (hadds s n).blindEntries) _ _
  · exact foldl_collects (fun s : Scan => s.inputs.blindExits) _ (fun s n => (hadds s n).blindExits) _ _
  · rw [foldl_counts (fun s : Scan => s.inputs.blindPairMalformed) _ (fun s n => (hadds s n).blindPairMalformed)]
    exact Nat.zero_add _
  · exact foldl_collects (fun s : Scan => s.inputs.firstSightEntries) _
      (fun s n => (hadds s n).firstSightEntries) _ _
  · exact foldl_collects (fun s : Scan => s.inputs.firstSightExits) _
      (fun s n => (hadds s n).firstSightExits) _ _
  · rw [foldl_counts (fun s : Scan => s.inputs.firstSightMalformed) _
      (fun s n => (hadds s n).firstSightMalformed)]
    exact Nat.zero_add _
  · rw [foldl_counts (fun s : Scan => s.inputs.blindWindowCensus.total) _ (fun s n => (hadds s n).total)]
    exact Nat.zero_add _
  · rw [foldl_counts (fun s : Scan => s.inputs.blindWindowCensus.malformed) _
      (fun s n => (hadds s n).malformed)]
    exact Nat.zero_add _
  · rw [foldl_counts (fun s : Scan => s.inputs.blindWindowCensus.withoutSessionWindow) _
      (fun s n => (hadds s n).withoutSessionWindow)]
    exact Nat.zero_add _
  · rw [foldl_counts (fun s : Scan => s.inputs.blindWindowCensus.belowArmGate) _
      (fun s n => (hadds s n).belowArmGate)]
    exact Nat.zero_add _
  · rw [foldl_counts (fun s : Scan => s.inputs.blindWindowCensus.withoutVelocity) _
      (fun s n => (hadds s n).withoutVelocity)]
    exact Nat.zero_add _
  · exact foldl_collects (fun s : Scan => s.inputs.blindProjections) _
      (fun s n => (hadds s n).blindProjections) _ _
  · exact horizonTs_seenLines _

end Float

end Sessiometer.Reliability
