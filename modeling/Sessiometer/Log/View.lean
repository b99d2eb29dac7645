import Mathlib.Data.List.Infix
import Sessiometer.Keyed.Merge
import Sessiometer.Log.Records
import Sessiometer.Model.Credential

/-! # The view of the log

The lines of one channel that a window and a name select, and the two channels merged by the time
each line has. -/

namespace Sessiometer.Log

open Framing Keyed

inductive Channel where
  | event
  | diag
  | all
deriving DecidableEq

def Channel.nameKey : Channel → String
  | .event => "event"
  | .diag => "diag"
  | .all => "diag"

structure Window where
  sinceArg : Text
  cutoffEpoch : ℤ
deriving DecidableEq

structure Selected where
  line : Text
  ts : Option Text
  event : Option Text
  channel : Channel
  at' : Option ℤ
deriving DecidableEq

structure LogView where
  window : Option Window
  event : Option Text
  channel : Channel
  present : List (Channel × Bool)
  matched : List Selected
  nScanned : ℕ
deriving DecidableEq

/-- `str::split_whitespace`. -/
def splitWhitespace (line : Text) : List Text := (line.splitOnP isWhitespace).filter (· ≠ [])

/-- `field`: the value of the last token under the key. -/
def fieldOf (line : Text) (key : String) : Option Text :=
  (((splitWhitespace line).filterMap (splitOnce '=')).filter (·.1 = key.toList)).getLast?.map (·.2)

/-- The time that a line itself tells. -/
def ownTime (line : Text) : Option ℤ := (fieldOf line "ts").bind epochFromRfc3339

/-- The line is inside the window and bears the wanted name. -/
def passes (window : Option Window) (event : Option Text) (channel : Channel) (line : Text)
    (at' : Option ℤ) : Bool :=
  !window.any (fun w => at'.all (fun t => decide (t < w.cutoffEpoch))) &&
    event.all (fun wanted => decide (fieldOf line channel.nameKey = some wanted))

def selected (channel : Channel) (line : Text) (at' : Option ℤ) : Selected where
  line := line
  ts := fieldOf line "ts"
  event := fieldOf line channel.nameKey
  channel := channel
  at' := at'

/-- The loop of `select`, with the time that is carried. -/
def selectFrom (window : Option Window) (event : Option Text) (channel : Channel) :
    Option ℤ → List Text → List Selected
  | _, [] => []
  | carried, line :: rest =>
    let own := ownTime line
    let carried := if own.isSome then own else carried
    let at' := if channel = .diag then own.or carried else own
    if passes window event channel line at' then
      selected channel line at' :: selectFrom window event channel carried rest
    else selectFrom window event channel carried rest

def select (text : Option Text) (window : Option Window) (event : Option Text) (channel : Channel) :
    LogView where
  window := window
  event := event
  channel := channel
  present := [(channel, text.isSome)]
  matched := selectFrom window event channel none (lines (text.getD []))
  nScanned := (lines (text.getD [])).length

/-- A line that has no place comes before every other. -/
def notLater : Option ℤ → Option ℤ → Bool
  | none, _ => true
  | some _, none => false
  | some a, some b => decide (a ≤ b)

/-- The two-pointer merge: the event goes first unless it is the later. -/
def merge (events diags : LogView) : LogView where
  window := events.window
  event := events.event
  channel := .all
  present := events.present ++ diags.present
  matched := events.matched.merge diags.matched (fun l r => notLater l.at' r.at')
  nScanned := events.nScanned + diags.nScanned


section Selection

variable {window : Option Window} {event : Option Text} {channel : Channel}

/-- The last time told among the lines. -/
def lastTime (before : List Text) : Option ℤ := (before.filterMap ownTime).getLast?

/-- The time that a line has, after the lines of its file that come before it. -/
def effective (channel : Channel) (before : List Text) (line : Text) : Option ℤ :=
  if channel = .diag then (ownTime line).or (lastTime before) else ownTime line

/-- The line is at or after the cutoff and bears the wanted name. -/
def Wanted (window : Option Window) (event : Option Text) (channel : Channel) (line : Text)
    (at' : Option ℤ) : Prop :=
  (∀ w, window = some w → ∃ t, at' = some t ∧ w.cutoffEpoch ≤ t) ∧
    ∀ wanted, event = some wanted → fieldOf line channel.nameKey = some wanted

theorem passes_iff (line : Text) (at' : Option ℤ) :
    passes window event channel line at' = true ↔ Wanted window event channel line at' := by
  unfold passes Wanted
  rw [Bool.and_eq_true]
  apply and_congr
  · cases window with
    | none => simp
    | some w => cases at' <;> simp
  · cases event with
    | none => simp
    | some wanted => simp

instance (line : Text) (at' : Option ℤ) : Decidable (Wanted window event channel line at') :=
  decidable_of_iff _ (passes_iff line at')

theorem lastTime_append (before : List Text) (line : Text) :
    lastTime (before ++ [line]) = (ownTime line).or (lastTime before) := by
  unfold lastTime
  rw [List.filterMap_append]
  cases h : ownTime line with
  | none => simp [h]
  | some t => simp [h]

theorem carried_eq (before : List Text) (line : Text) :
    (if (ownTime line).isSome then ownTime line else lastTime before) =
      lastTime (before ++ [line]) := by
  rw [lastTime_append]
  cases ownTime line with
  | none => rfl
  | some t => rfl

theorem selectFrom_cons (before : List Text) (line : Text) (rest : List Text) :
    selectFrom window event channel (lastTime before) (line :: rest) =
      (if Wanted window event channel line (effective channel before line) then
        [selected channel line (effective channel before line)] else []) ++
          selectFrom window event channel (lastTime (before ++ [line])) rest := by
  have hown : (ownTime line).or (if (ownTime line).isSome then ownTime line else lastTime before) =
      (ownTime line).or (lastTime before) := by
    cases ownTime line with
    | none => rfl
    | some t => rfl
  rw [selectFrom]
  rw [hown, carried_eq]
  change (if passes window event channel line (effective channel before line) = true
    then _ else _) = _
  by_cases h : Wanted window event channel line (effective channel before line)
  · rw [if_pos h, if_pos ((passes_iff ..).mpr h)]
    rfl
  · rw [if_neg h, if_neg (fun hp => h ((passes_iff ..).mp hp))]
    rfl

theorem selectFrom_append (before first rest : List Text) :
    selectFrom window event channel (lastTime before) (first ++ rest) =
      selectFrom window event channel (lastTime before) first ++
        selectFrom window event channel (lastTime (before ++ first)) rest := by
  induction first generalizing before with
  | nil => rw [List.append_nil]; rfl
  | cons line first ih =>
    rw [List.cons_append, selectFrom_cons, selectFrom_cons, ih, List.append_assoc,
      List.append_assoc]
    rfl

/-- The loop keeps the wanted lines, each at the time it has after all the lines before it. -/
theorem selectFrom_eq (before rest : List Text) :
    selectFrom window event channel (lastTime before) rest =
      ((rest.inits.zip rest).filter (fun p =>
          Wanted window event channel p.2 (effective channel (before ++ p.1) p.2))).map
        (fun p => selected channel p.2 (effective channel (before ++ p.1) p.2)) := by
  induction rest generalizing before with
  | nil => rfl
  | cons line rest ih =>
    have htail : ((rest.inits.map (line :: ·)).zip rest) =
        (rest.inits.zip rest).map (fun p => (line :: p.1, p.2)) := by
      rw [List.zip_map_left]
      rfl
    rw [selectFrom_cons, ih, List.inits_cons, List.zip_cons_cons, htail, List.filter_cons,
      List.filter_map, List.append_nil]
    simp only [List.append_assoc, List.singleton_append, Function.comp_def]
    by_cases h : Wanted window event channel line (effective channel before line)
    · simp [h, Function.comp_def]
    · simp [h, Function.comp_def]

/-- Every line of the run keeps the time of the line that heads it. -/
theorem selectFrom_run {head : Text} {run : List Text} (hhead : (ownTime head).isSome)
    (hrun : ∀ line ∈ run, ownTime line = none) (before : List Text) :
    selectFrom window event .diag (lastTime before) (head :: run) =
      ((head :: run).filter (fun line => Wanted window event .diag line (ownTime head))).map
        (fun line => selected .diag line (ownTime head)) := by
  have heff : effective .diag before head = ownTime head := by
    unfold effective
    rw [if_pos rfl]
    exact Option.or_of_isSome hhead
  have htime : lastTime (before ++ [head]) = ownTime head := by
    rw [lastTime_append]
    exact Option.or_of_isSome hhead
  have hrest : ∀ before, lastTime before = ownTime head →
      selectFrom window event .diag (lastTime before) run =
        (run.filter (fun line => Wanted window event .diag line (ownTime head))).map
          (fun line => selected .diag line (ownTime head)) := by
    clear heff htime
    induction run with
    | nil => intro _ _; rfl
    | cons line run ih =>
      intro before hbefore
      have hline : ownTime line = none := hrun line (List.mem_cons_self ..)
      have hat : effective .diag before line = ownTime head := by
        unfold effective
        rw [if_pos rfl, hline, hbefore]
        rfl
      have hnext : lastTime (before ++ [line]) = ownTime head := by
        rw [lastTime_append, hline, hbefore]
        rfl
      rw [selectFrom_cons, hat, ih (fun l hl => hrun l (List.mem_cons_of_mem _ hl)) _ hnext,
        List.filter_cons]
      by_cases h : Wanted window event .diag line (ownTime head)
      · simp [h]
      · simp [h]
  rw [selectFrom_cons, heff, hrest _ htime, List.filter_cons]
  by_cases h : Wanted window event .diag head (ownTime head)
  · simp [h]
  · simp [h]

end Selection

end Sessiometer.Log
