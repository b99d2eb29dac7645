import Mathlib.Data.Finset.Basic
import Mathlib.Data.Finset.Dedup
import Mathlib.Data.List.Sort
import Sessiometer.Effects.Runs
import Sessiometer.Framing.Word64
import Sessiometer.Menubar.Honest

/-! # Account notifications

The fold that turns published snapshots into events, over labels with the order and the equality that
the source's strings have. -/

namespace Sessiometer.Menubar

open Effects (Runs)
open Framing (checkedI64)

inductive AccountEvent where
  | swapped
  | allExhausted
  | loginExpiring
deriving DecidableEq

inductive ExpiryView where
  | gap
  | lapsed
  | live (deadline : Int64) (horizon : ExpiryHorizon)
deriving DecidableEq

def expiryView (expiry : Option AccountExpiry) (now : Int64) : ExpiryView :=
  match expiry with
  | none => .gap
  | some ⟨_, .unknown⟩ => .gap
  | some ⟨_, .lapsed⟩ => .lapsed
  | some ⟨none, _⟩ => .gap
  | some ⟨some deadline, horizon⟩ => if deadline ≤ now then .lapsed else .live deadline horizon

def expiryWithinHorizon (expiry : Option AccountExpiry) (now : Int64) : Bool :=
  match expiryView expiry now with
  | .gap | .lapsed => false
  | .live _ .beyond => false
  | .live _ _ => true

structure ExpiryObservation (Label : Type) where
  label : Label
  expiry : Option AccountExpiry

structure Baseline (Label : Type) where
  activeLabel : Option Label
  hasNoViableTarget : Bool

/-- What the shell folds in: a snapshot's projection, the clock and the switch. -/
structure Frame (Label : Type) where
  connectionState : ConnectionState
  activeLabel : Option Label
  hasNoViableTarget : Bool
  expiries : List (ExpiryObservation Label)
  now : Int64
  notificationsEnabled : Bool

structure AccountEventDeriver (Label : Type) where
  baseline : Option (Baseline Label)
  namedInHorizon : Finset Label
  lastExpiryNotificationAt : Option Int64

def expiryNotificationSpacingSecs : ℤ := 6 * 3600

variable {Label : Type} [LinearOrder Label]

/-- `deadline(of:)`: what no admitted observation lacks counts as the latest. -/
def deadlineAt (now : Int64) (o : ExpiryObservation Label) : Int64 :=
  match expiryView o.expiry now with
  | .live deadline _ => deadline
  | _ => Int64.maxValue

def observedInHorizon (observations : List (ExpiryObservation Label)) (now : Int64) :
    List (ExpiryObservation Label) :=
  observations.filter fun o => expiryWithinHorizon o.expiry now

/-- The order in which expiring logins are named. -/
def Sooner (now : Int64) (a b : ExpiryObservation Label) : Prop :=
  deadlineAt now a < deadlineAt now b ∨ deadlineAt now a = deadlineAt now b ∧ a.label ≤ b.label

instance (now : Int64) : DecidableRel (@Sooner Label _ now) := fun _ _ =>
  inferInstanceAs (Decidable (_ ∨ _))

/-- The subtraction of Swift: none where it overflows, which stops the process. -/
def trappingSub (a b : Int64) : Option ℤ := checkedI64 (a.toInt - b.toInt)

namespace AccountEventDeriver

def fresh : AccountEventDeriver Label :=
  { baseline := none, namedInHorizon := ∅, lastExpiryNotificationAt := none }

def expiryEvents (d : AccountEventDeriver Label) (observations : List (ExpiryObservation Label))
    (now : Int64) (enabled : Bool) : Option (AccountEventDeriver Label × List AccountEvent) :=
  let inHorizon := observedInHorizon observations now
  let d := { d with
    namedInHorizon := d.namedInHorizon ∩ (inHorizon.map ExpiryObservation.label).toFinset }
  if !enabled then some (d, [])
  else
    let unnamed := (inHorizon.filter fun o => decide (o.label ∉ d.namedInHorizon)).insertionSort
      (Sooner now)
    match unnamed.head? with
    | none => some (d, [])
    | some next =>
      let named := { d with
        namedInHorizon := insert next.label d.namedInHorizon
        lastExpiryNotificationAt := some now }
      match d.lastExpiryNotificationAt with
      | none => some (named, [.loginExpiring])
      | some last =>
        (trappingSub now last).map fun elapsed =>
          if elapsed < expiryNotificationSpacingSecs then (d, []) else (named, [.loginExpiring])

/-- The transitions from the last healthy snapshot. -/
def edgeEvents (previous : Option (Baseline Label)) (activeLabel : Option Label)
    (hasNoViableTarget : Bool) : List AccountEvent :=
  match previous with
  | none => []
  | some previous =>
    (match previous.activeLabel, activeLabel with
      | some was, some now => if was ≠ now then [.swapped] else []
      | _, _ => []) ++
    if hasNoViableTarget && !previous.hasNoViableTarget then [.allExhausted] else []

def ingest (d : AccountEventDeriver Label) (f : Frame Label) :
    Option (AccountEventDeriver Label × List AccountEvent) :=
  if f.connectionState ≠ .connected then some ({ d with baseline := none }, [])
  else
    let events := edgeEvents d.baseline f.activeLabel f.hasNoViableTarget
    let d := { d with baseline := some ⟨f.activeLabel, f.hasNoViableTarget⟩ }
    (d.expiryEvents f.expiries f.now f.notificationsEnabled).map fun out =>
      (out.1, events ++ out.2)

end AccountEventDeriver

/-- `handle`: the deriver always runs, and what it returns is presented while the switch is on. -/
def handle (d : AccountEventDeriver Label) (f : Frame Label) :
    Option (AccountEventDeriver Label × List AccountEvent) :=
  (d.ingest f).map fun out => (out.1, if f.notificationsEnabled then out.2 else [])

end Sessiometer.Menubar
