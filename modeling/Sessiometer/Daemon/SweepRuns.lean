import Mathlib.Data.List.Perm.Subperm
import Mathlib.Data.List.TakeWhile
import Sessiometer.Effects.Runs
import Sessiometer.Daemon.RefreshSweep

/-! # Sweeps in a row

The refresh tick as the loop drives it: idle windows, waits that are armed again and again, and the
sweeps they lead to. -/

namespace Sessiometer

open Effects

/-- The exponential, without the guards of its arithmetic. -/
theorem refreshBackoffDelay_eq (streak : ℕ) (base : Nanos) : refreshBackoffDelay streak base =
    min (base * 2 ^ min streak refreshBackoffMaxShift) (max refreshBackoffCap base) := by
  unfold refreshBackoffDelay checkedMul
  dsimp only
  by_cases h : base * 2 ^ min streak refreshBackoffMaxShift ≤ durationMax
  · rw [if_pos h, Option.getD_some]
  · rw [if_neg h, Option.getD_none, min_self]
    have hcap : refreshBackoffCap ≤ durationMax := by decide
    have hpos : 1 ≤ 2 ^ min streak refreshBackoffMaxShift := Nat.one_le_two_pow
    have hbase : base ≤ base * 2 ^ min streak refreshBackoffMaxShift :=
      Nat.le_mul_of_pos_right base hpos
    have hle : max refreshBackoffCap base ≤ base * 2 ^ min streak refreshBackoffMaxShift := by
      apply max_le
      · exact le_trans hcap (not_le.mp h).le
      · exact hbase
    exact (min_eq_right hle).symm

/-! ## One visit -/

namespace RefreshTick

variable (t : RefreshTick) {excluded quarantined : List String} {nowMs : Int} {i : ℕ}
  {account : Account} {a : Answers} {outcome : RefreshEventOutcome}

theorem visit_of_not_admits (h : t.admits excluded account = false) :
    t.visit excluded quarantined nowMs i account a = .passed := by
  unfold visit
  simp [h]

theorem visit_of_backingOff {backoff : RefreshBackoff} (hentry : t.refreshBackoff i = some backoff)
    (h : a.checkedAt < backoff.until') : t.visit excluded quarantined nowMs i account a = .passed := by
  unfold visit
  simp [hentry, h]

/-- A cycle is run for an account that is admitted and not left alone, and it decides the entry. -/
theorem visit_attempted
    (h : (t.visit excluded quarantined nowMs i account a).attempted = some outcome) :
    t.admits excluded account = true ∧
    (∀ backoff, t.refreshBackoff i = some backoff → backoff.until' ≤ a.checkedAt) ∧
    (t.visit excluded quarantined nowMs i account a).entryAfter (t.refreshBackoff i) =
      if outcome = .error then some (t.widened (t.refreshBackoff i) a.foldedAt) else none := by
  by_cases hadmits : t.admits excluded account = true
  · have hready : ∀ backoff, t.refreshBackoff i = some backoff → backoff.until' ≤ a.checkedAt := by
      intro backoff hentry
      by_contra hlt
      rw [visit_of_backingOff t hentry (not_le.mp hlt)] at h
      cases h
    refine ⟨hadmits, hready, ?_⟩
    have hwaiting : ((t.refreshBackoff i).any
        (fun backoff => decide (a.checkedAt < backoff.until'))) = false := by
      cases hentry : t.refreshBackoff i with
      | none => rfl
      | some backoff => simpa using hready backoff hentry
    unfold visit at h ⊢
    simp only [hadmits, not_true, if_false, hwaiting, Bool.false_eq_true] at h ⊢
    split at h
    · cases h
    · next hdue =>
      rw [if_neg hdue]
      split at h
      · next herror =>
        cases h
        rw [if_pos herror, if_pos rfl]
        rfl
      · next hlive =>
        cases h
        rw [if_neg hlive, if_neg hlive]
        cases t.refreshBackoff i with
        | none => rfl
        | some backoff => rfl
  · rw [visit_of_not_admits t (by simpa using hadmits)] at h
    cases h

theorem visit_not_attempted (entry : Option RefreshBackoff) {v : Visit} (h : v.attempted = none) :
    v.entryAfter entry = entry := by
  cases v with
  | passed => rfl
  | peeked observation => rfl
  | cycled outcome restored events observation update => cases h

end RefreshTick

/-! ## What a sweep collects -/

namespace Visit

def restored (account : Account) : Visit → List String
  | .cycled _ true _ _ _ => [account.accountUuid]
  | _ => []

def events : Visit → List Event
  | .cycled _ _ events _ _ => events
  | _ => []

def observations : Visit → List RefreshObservation
  | .passed => []
  | .peeked observation => [observation]
  | .cycled _ _ _ observation _ => [observation]

theorem addTo_eq (account : Account) (outcome : SweepOutcome) (v : Visit) :
    v.addTo account outcome =
      { restored := outcome.restored ++ v.restored account
        events := outcome.events ++ v.events
        observations := outcome.observations ++ v.observations } := by
  cases v with
  | passed => simp [addTo, restored, events, observations]
  | peeked observation => simp [addTo, restored, events, observations]
  | cycled _ isRestored events' observation update =>
    cases isRestored <;> simp [addTo, restored, events, observations]

end Visit

namespace RefreshTick

theorem foldl_addTo (visits : ℕ → Visit) (xs : List (Account × ℕ)) (outcome : SweepOutcome) :
    xs.foldl (fun outcome x => (visits x.2).addTo x.1 outcome) outcome =
      { restored := outcome.restored ++ xs.flatMap (fun x => (visits x.2).restored x.1)
        events := outcome.events ++ xs.flatMap (fun x => (visits x.2).events)
        observations := outcome.observations ++ xs.flatMap (fun x => (visits x.2).observations) } := by
  induction xs generalizing outcome with
  | nil => simp
  | cons x xs ih =>
    rw [List.foldl_cons, ih, Visit.addTo_eq]
    simp

/-- Each account adds what its own visit yields, and one that is passed by nothing. -/
theorem runSweep_eq (t : RefreshTick) (sweep : SweepInput) : t.runSweep sweep =
    { restored := t.roster.zipIdx.flatMap (fun x => (t.visitAt sweep x.2).restored x.1)
      events := t.roster.zipIdx.flatMap (fun x => (t.visitAt sweep x.2).events)
      observations := t.roster.zipIdx.flatMap (fun x => (t.visitAt sweep x.2).observations) } := by
  unfold runSweep
  rw [foldl_addTo]
  simp

end RefreshTick

/-! ## The loop -/

/-- The tick and the idle window it is in: the sets that the daemon handed out for it, whether it has
swept, and the wait that is armed, with its end and whether recovery work asked for it. -/
structure Driver where
  tick : RefreshTick
  excluded : List String := []
  quarantined : List String := []
  recoveryPrompted : Bool := false
  armed : Option (Nanos × Bool) := none
  clock : Nanos

/-- The tick is told of recovery work until it has swept. -/
def Driver.hasRecoveryWork (s : Driver) : Bool :=
  s.tick.recoveryPending s.excluded s.quarantined && !s.recoveryPrompted

inductive DriverTurn where
  | idled
  | armed (now : Nanos) (hasRecoveryWork : Bool) (wait : Nanos)
  | swept (startedAt : Nanos) (input : SweepInput) (visits : ℕ → Visit) (outcome : SweepOutcome)

inductive DriverStep : Driver → DriverTurn → Driver → Prop
  | idled {s : Driver} (excluded quarantined : List String) {now : Nanos} : s.clock ≤ now →
      DriverStep s .idled
        { s with
          excluded := excluded
          quarantined := quarantined
          recoveryPrompted := false
          armed := none
          clock := now }
  | armed {s : Driver} {now wait : Nanos} : s.clock ≤ now →
      (s.tick.untilDue now s.hasRecoveryWork).1 = some wait →
      DriverStep s (.armed now s.hasRecoveryWork wait)
        { s with
          tick := (s.tick.untilDue now s.hasRecoveryWork).2
          armed := some (now + wait, s.hasRecoveryWork)
          clock := now }
  | swept {s : Driver} {due startedAt : Nanos} {hasRecoveryWork : Bool} {input : SweepInput} :
      s.armed = some (due, hasRecoveryWork) → due ≤ startedAt → startedAt ≤ input.endedAt →
      input.excluded = s.excluded → input.quarantined = s.quarantined →
      DriverStep s (.swept startedAt input (s.tick.visitAt input) (s.tick.sweep input).1)
        { s with
          tick := (s.tick.sweep input).2
          recoveryPrompted := true
          armed := none
          clock := input.endedAt }

/-- The tick as the daemon builds it. -/
def RefreshTick.new (roster : List Account) (config : RefreshConfig) (enabled : Bool) : RefreshTick where
  roster := roster
  config := config
  enabled := enabled

/-- The cycles of one account, each with the instant it was folded into the ledger. -/
def attemptsOf (i : ℕ) (tr : List DriverTurn) : List (RefreshEventOutcome × Nanos) :=
  tr.filterMap fun
    | .swept _ input visits _ => (visits i).attempted.map (·, (input.answers i).foldedAt)
    | _ => none

/-- The errors at the end of some cycles. -/
def errorStreak (attempts : List (RefreshEventOutcome × Nanos)) : ℕ :=
  (attempts.reverse.takeWhile (fun x => decide (x.1 = .error))).length

/-- The entry that some cycles leave: none unless the last was an error, and otherwise one that is
armed for the exponential of the errors in a row. -/
def armedBy (base : Nanos) (attempts : List (RefreshEventOutcome × Nanos)) : Option RefreshBackoff :=
  match attempts.getLast? with
  | some (.error, now) =>
    let k := errorStreak attempts
    some ⟨min k u32Max,
      (checkedAdd now (min (base * 2 ^ min k 6) (max refreshBackoffCap base))).getD now⟩
  | _ => none

section Attempts

variable (i : ℕ) (tr : List DriverTurn)

theorem attemptsOf_append (tr' : List DriverTurn) :
    attemptsOf i (tr ++ tr') = attemptsOf i tr ++ attemptsOf i tr' := List.filterMap_append

theorem errorStreak_concat (attempts : List (RefreshEventOutcome × Nanos))
    (outcome : RefreshEventOutcome) (now : Nanos) :
    errorStreak (attempts ++ [(outcome, now)]) =
      if outcome = .error then errorStreak attempts + 1 else 0 := by
  unfold errorStreak
  rw [List.reverse_append, List.reverse_singleton, List.singleton_append, List.takeWhile_cons]
  by_cases ho : outcome = .error
  · simp [ho]
  · simp [ho]

theorem armedBy_isSome (base : Nanos) (attempts : List (RefreshEventOutcome × Nanos)) :
    (armedBy base attempts).isSome = true ↔ ∃ now, attempts.getLast? = some (.error, now) := by
  unfold armedBy
  cases attempts.getLast? with
  | none => simp
  | some x =>
    obtain ⟨outcome, now⟩ := x
    cases outcome <;> simp

/-- The streak that an entry remembers. -/
theorem armedBy_streak (base : Nanos) (attempts : List (RefreshEventOutcome × Nanos)) :
    (armedBy base attempts).elim 0 (·.streak) = min (errorStreak attempts) u32Max := by
  induction attempts using List.reverseRecOn with
  | nil => rfl
  | append_singleton attempts x _ =>
    obtain ⟨outcome, now⟩ := x
    unfold armedBy
    rw [List.getLast?_concat]
    cases outcome with
    | error => rfl
    | _ =>
      rw [errorStreak_concat]
      rfl

theorem armedBy_error (base now : Nanos) (attempts : List (RefreshEventOutcome × Nanos)) :
    armedBy base (attempts ++ [(.error, now)]) =
      some ⟨min (errorStreak attempts + 1) u32Max,
        (checkedAdd now (min (base * 2 ^ min (errorStreak attempts + 1) 6)
          (max refreshBackoffCap base))).getD now⟩ := by
  have hk : errorStreak (attempts ++ [(.error, now)]) = errorStreak attempts + 1 := by
    rw [errorStreak_concat, if_pos rfl]
  unfold armedBy
  rw [List.getLast?_concat]
  dsimp only
  rw [hk]

/-- One more cycle: an error widens the entry, anything else clears it. -/
theorem armedBy_concat (t : RefreshTick) (attempts : List (RefreshEventOutcome × Nanos))
    (outcome : RefreshEventOutcome) (now : Nanos) :
    armedBy t.backoffBase (attempts ++ [(outcome, now)]) =
      if outcome = .error then some (t.widened (armedBy t.backoffBase attempts) now) else none := by
  by_cases ho : outcome = .error
  · have hstreak : saturatingAdd32 ((armedBy t.backoffBase attempts).elim 0 (·.streak)) 1 =
        min (errorStreak attempts + 1) u32Max := by
      rw [armedBy_streak]
      unfold saturatingAdd32
      omega
    have hshift : min (min (errorStreak attempts + 1) u32Max) refreshBackoffMaxShift =
        min (errorStreak attempts + 1) 6 := by
      have hmax : 6 ≤ u32Max := by decide
      unfold refreshBackoffMaxShift
      omega
    rw [if_pos ho, ho, armedBy_error]
    unfold RefreshTick.widened
    rw [hstreak]
    dsimp only
    rw [refreshBackoffDelay_eq, hshift]
  · rw [if_neg ho]
    unfold armedBy
    rw [List.getLast?_concat]
    cases outcome with
    | error => exact absurd rfl ho
    | _ => rfl

end Attempts

/-! ### What every run keeps -/

/-- The end of the last sweep. -/
def lastSwept (tr : List DriverTurn) : Option Nanos :=
  (tr.filterMap fun
    | .swept _ input _ _ => some input.endedAt
    | _ => none).getLast?

/-- The driver after some turns: the roster and the settings stand, the ledger is what the cycles left,
and a wait that no recovery work asked for ends no sooner than a cadence after the last sweep. -/
structure Driven (t : RefreshTick) (tr : List DriverTurn) (s : Driver) : Prop where
  roster : s.tick.roster = t.roster
  config : s.tick.config = t.config
  enabled : s.tick.enabled = t.enabled
  ledger : ∀ i, s.tick.refreshBackoff i = armedBy t.backoffBase (attemptsOf i tr)
  last : s.tick.lastRefresh = lastSwept tr
  past : ∀ last, s.tick.lastRefresh = some last → last ≤ s.clock
  anchored : ∀ anchor, s.tick.idleAnchor = some anchor → anchor ≤ s.clock
  cadence : ∀ due last, s.armed = some (due, false) → s.tick.lastRefresh = some last →
    last + t.config.cadence ≤ due
  recovery : ∀ due, s.armed = some (due, true) →
    s.tick.recoveryPending s.excluded s.quarantined = true
  wired : s.armed ≠ none → s.tick.enabled = true

variable {t : RefreshTick} {tr : List DriverTurn} {s s' : Driver} {l : DriverTurn}

theorem driven_idled (h : Driven t tr s) (excluded quarantined : List String) {now : Nanos}
    (hnow : s.clock ≤ now) :
    Driven t (tr ++ [.idled])
      { s with
        excluded := excluded
        quarantined := quarantined
        recoveryPrompted := false
        armed := none
        clock := now } where
  roster := h.roster
  config := h.config
  enabled := h.enabled
  ledger := by
    intro i
    rw [attemptsOf_append]
    simpa [attemptsOf] using h.ledger i
  last := by
    have hlast := h.last
    simpa [lastSwept] using hlast
  past := fun last hlast => le_trans (h.past last hlast) hnow
  anchored := fun anchor hanchor => le_trans (h.anchored anchor hanchor) hnow
  cadence := fun _ _ harmed => by cases harmed
  recovery := fun _ harmed => by cases harmed
  wired := fun harmed => absurd rfl harmed

theorem untilDue_tick (now : Nanos) (flag : Bool) :
    (t.untilDue now flag).2.roster = t.roster ∧ (t.untilDue now flag).2.config = t.config ∧
    (t.untilDue now flag).2.enabled = t.enabled ∧
    (t.untilDue now flag).2.refreshBackoff = t.refreshBackoff ∧
    (t.untilDue now flag).2.lastRefresh = t.lastRefresh := by
  unfold RefreshTick.untilDue
  split
  · exact ⟨rfl, rfl, rfl, rfl, rfl⟩
  · exact ⟨rfl, rfl, rfl, rfl, rfl⟩

theorem untilDue_some {now wait : Nanos} {flag : Bool} (h : (t.untilDue now flag).1 = some wait) :
    wait = t.delayUntilDue now (t.idleAnchor.getD now) flag ∧
      (t.untilDue now flag).2.idleAnchor = some (t.idleAnchor.getD now) := by
  unfold RefreshTick.untilDue at h ⊢
  split at h
  · cases h
  · next hon =>
    rw [if_neg hon]
    exact ⟨(Option.some.inj h).symm, rfl⟩

/-- What is left to wait is at least what is left of the cadence. -/
theorem cadence_le_wait {now wait last : Nanos} (h : (t.untilDue now false).1 = some wait)
    (hlast : t.lastRefresh = some last) (hnow : last ≤ now) :
    last + t.config.cadence ≤ now + wait := by
  unfold RefreshTick.untilDue at h
  split at h
  · cases h
  · have hwait := Option.some.inj h
    unfold RefreshTick.delayUntilDue saturatingDurationSince at hwait
    simp only [Bool.false_eq_true, if_false, hlast] at hwait
    have hcadence : t.config.cadence - (now - last) ≤ wait := by
      rw [← hwait]
      exact le_max_right _ _
    unfold Nanos at *
    omega

theorem driven_armed (h : Driven t tr s) {now wait : Nanos} (hnow : s.clock ≤ now)
    (hwait : (s.tick.untilDue now s.hasRecoveryWork).1 = some wait) :
    Driven t (tr ++ [.armed now s.hasRecoveryWork wait])
      { s with
        tick := (s.tick.untilDue now s.hasRecoveryWork).2
        armed := some (now + wait, s.hasRecoveryWork)
        clock := now } := by
  obtain ⟨hroster, hconfig, henabled, hledger, hlast⟩ :=
    untilDue_tick (t := s.tick) now s.hasRecoveryWork
  refine ⟨hroster.trans h.roster, hconfig.trans h.config, henabled.trans h.enabled, ?_, ?_, ?_, ?_, ?_,
    ?_, ?_⟩
  · intro i
    rw [attemptsOf_append]
    simpa [attemptsOf, hledger] using h.ledger i
  · have hsame := h.last
    simpa [lastSwept, hlast] using hsame
  · intro last hl
    rw [hlast] at hl
    exact le_trans (h.past last hl) hnow
  · intro anchor hanchor
    rw [(untilDue_some hwait).2] at hanchor
    obtain rfl := Option.some.inj hanchor
    cases hseeded : s.tick.idleAnchor with
    | none => exact le_refl now
    | some anchor => exact le_trans (h.anchored anchor hseeded) hnow
  · intro due last harmed hl
    rw [hlast] at hl
    obtain ⟨rfl, hflag⟩ := Prod.mk.inj (Option.some.inj harmed)
    rw [hflag] at hwait
    rw [← h.config]
    exact cadence_le_wait hwait hl (le_trans (h.past last hl) hnow)
  · intro due harmed
    obtain ⟨-, hflag⟩ := Prod.mk.inj (Option.some.inj harmed)
    have hpending : s.tick.recoveryPending s.excluded s.quarantined = true := by
      unfold Driver.hasRecoveryWork at hflag
      rw [Bool.and_eq_true] at hflag
      exact hflag.1
    unfold RefreshTick.recoveryPending RefreshTick.admits at hpending ⊢
    rw [henabled, hroster, hconfig]
    exact hpending
  · intro _
    have hon : s.tick.enabled = true := by
      by_contra hoff
      unfold RefreshTick.untilDue at hwait
      rw [if_pos hoff] at hwait
      cases hwait
    exact henabled.trans hon

theorem entryAfter_visitAt (h : Driven t tr s) (input : SweepInput) (i : ℕ) :
    (s.tick.visitAt input i).entryAfter (s.tick.refreshBackoff i) =
      armedBy t.backoffBase (attemptsOf i tr ++
        ((s.tick.visitAt input i).attempted.map (·, (input.answers i).foldedAt)).toList) := by
  cases hattempted : (s.tick.visitAt input i).attempted with
  | none =>
    rw [RefreshTick.visit_not_attempted _ hattempted, h.ledger i]
    simp
  | some outcome =>
    have hbase : t.backoffBase = s.tick.backoffBase := by
      unfold RefreshTick.backoffBase
      rw [h.config]
    have hentry : (s.tick.visitAt input i).entryAfter (s.tick.refreshBackoff i) =
        if outcome = .error then
          some (s.tick.widened (s.tick.refreshBackoff i) (input.answers i).foldedAt)
        else none := by
      unfold RefreshTick.visitAt at hattempted ⊢
      cases hmember : s.tick.roster[i]? with
      | none =>
        rw [hmember] at hattempted
        cases hattempted
      | some account =>
        rw [hmember] at hattempted
        exact (RefreshTick.visit_attempted s.tick hattempted).2.2
    rw [hentry, h.ledger i, hbase]
    exact (armedBy_concat s.tick _ outcome _).symm

theorem driven_swept (h : Driven t tr s) {due startedAt : Nanos} {hasRecoveryWork : Bool}
    {input : SweepInput} (harmed : s.armed = some (due, hasRecoveryWork)) :
    Driven t (tr ++ [.swept startedAt input (s.tick.visitAt input) (s.tick.sweep input).1])
      { s with
        tick := (s.tick.sweep input).2
        recoveryPrompted := true
        armed := none
        clock := input.endedAt } := by
  have hon : s.tick.enabled = true := by
    apply h.wired
    rw [harmed]
    simp
  have hsweep : (s.tick.sweep input).2 =
      { s.tick with
        refreshBackoff := fun i => (s.tick.visitAt input i).entryAfter (s.tick.refreshBackoff i)
        lastRefresh := some input.endedAt
        idleAnchor := none } := by
    unfold RefreshTick.sweep
    rw [if_neg (not_not.mpr hon)]
  rw [hsweep]
  refine ⟨h.roster, h.config, h.enabled, ?_, ?_, ?_, ?_, ?_, ?_, ?_⟩
  · intro i
    rw [attemptsOf_append]
    have hentry := entryAfter_visitAt h input i
    cases hattempted : (s.tick.visitAt input i).attempted with
    | none => simpa [attemptsOf, hattempted] using hentry
    | some outcome => simpa [attemptsOf, hattempted] using hentry
  · simp [lastSwept]
  · intro last hlast
    exact (Option.some.inj hlast).ge
  · intro _ hnone
    cases hnone
  · intro _ _ hnone
    cases hnone
  · intro _ hnone
    cases hnone
  · intro hnone
    exact absurd rfl hnone

theorem driven_step (h : Driven t tr s) (hstep : DriverStep s l s') : Driven t (tr ++ [l]) s' := by
  cases hstep with
  | idled excluded quarantined hnow => exact driven_idled h excluded quarantined hnow
  | armed hnow hwait => exact driven_armed h hnow hwait
  | swept harmed hdue hended hexcluded hquarantined => exact driven_swept h harmed

theorem driven_new (roster : List Account) (config : RefreshConfig) (enabled : Bool) (clock : Nanos) :
    Driven (.new roster config enabled) [] { tick := .new roster config enabled, clock := clock } where
  roster := rfl
  config := rfl
  enabled := rfl
  ledger := fun _ => rfl
  last := rfl
  past := fun _ hlast => by cases hlast
  anchored := fun _ hanchor => by cases hanchor
  cadence := fun _ _ harmed => by cases harmed
  recovery := fun _ harmed => by cases harmed
  wired := fun harmed => absurd rfl harmed

theorem driven_run (hrun : Runs DriverStep s tr s') (h : Driven t [] s) : Driven t tr s' :=
  hrun.invariant h (fun _ _ _ _ hd hs => driven_step hd hs)

/-! ### Waits that are armed again -/

/-- A later instant leaves no more of a wait than is left of it, unless recovery work is withdrawn. -/
theorem delayUntilDue_shrinks (t : RefreshTick) {anchor now₁ now₂ : Nanos} {flag₁ flag₂ : Bool}
    (hnow : now₁ ≤ now₂) (hanchor : anchor ≤ now₁)
    (hlast : ∀ last, t.lastRefresh = some last → last ≤ now₁) (hflag : flag₁ = true → flag₂ = true) :
    t.delayUntilDue now₂ anchor flag₂ ≤ t.delayUntilDue now₁ anchor flag₁ - (now₂ - now₁) := by
  have hless : ∀ whole start : Nanos, start ≤ now₁ →
      whole - saturatingDurationSince now₂ start =
        whole - saturatingDurationSince now₁ start - (now₂ - now₁) := by
    intro whole start hstart
    unfold saturatingDurationSince Nanos at *
    omega
  have hidle := hless t.config.idleAfter anchor hanchor
  unfold RefreshTick.delayUntilDue
  dsimp only
  rw [hidle]
  by_cases h₂ : flag₂ = true
  · rw [if_pos h₂]
    by_cases h₁ : flag₁ = true
    · rw [if_pos h₁]
    · rw [if_neg h₁]
      exact Nat.sub_le_sub_right (le_max_left _ _) _
  · have h₁ : ¬ flag₁ = true := fun h => h₂ (hflag h)
    have hmax : ∀ a b c : Nanos, max (a - c) (b - c) = max a b - c := Nat.sub_max_sub_right
    rw [if_neg h₂, if_neg h₁, ← hmax]
    apply max_le_max (le_refl _)
    cases hswept : t.lastRefresh with
    | none => exact Nat.zero_le _
    | some last => exact (hless t.config.cadence last (hlast last hswept)).le

/-- No sweep is among the turns. -/
def Unswept (tr : List DriverTurn) : Prop :=
  ∀ l ∈ tr, ∀ startedAt input visits outcome, l ≠ .swept startedAt input visits outcome

/-- Between sweeps the idle anchor stands where the first wait has put it. -/
theorem unswept_run {anchor : Nanos} (hrun : Runs DriverStep s tr s') (h : Unswept tr)
    (hanchor : s.tick.idleAnchor = some anchor) :
    s'.tick.idleAnchor = some anchor ∧ s'.tick.lastRefresh = s.tick.lastRefresh ∧
      s'.tick.config = s.tick.config ∧ s.clock ≤ s'.clock := by
  induction hrun with
  | refl => exact ⟨hanchor, rfl, rfl, le_refl _⟩
  | @snoc tr s₁ s₂ l _ hstep ih =>
    have hbefore : Unswept tr := fun l hl => h l (List.mem_append_left _ hl)
    obtain ⟨ha, hlast, hconfig, hclock⟩ := ih hbefore
    cases hstep with
    | idled excluded quarantined hnow => exact ⟨ha, hlast, hconfig, le_trans hclock hnow⟩
    | armed hnow hwait =>
      obtain ⟨-, hconfig', -, -, hlast'⟩ := untilDue_tick (t := s₁.tick) _ s₁.hasRecoveryWork
      refine ⟨?_, hlast'.trans hlast, hconfig'.trans hconfig, le_trans hclock hnow⟩
      unfold RefreshTick.untilDue
      split
      · exact ha
      · rw [ha]
        rfl
    | swept harmed hdue hended hexcluded hquarantined =>
      exact absurd rfl (h _ (List.mem_append_right _ (List.mem_singleton_self _)) _ _ _ _)

theorem delayUntilDue_congr {t' : RefreshTick} (hconfig : t'.config = t.config)
    (hlast : t'.lastRefresh = t.lastRefresh) (now anchor : Nanos) (flag : Bool) :
    t'.delayUntilDue now anchor flag = t.delayUntilDue now anchor flag := by
  unfold RefreshTick.delayUntilDue
  rw [hconfig, hlast]

/-- Of two waits with no sweep between them, the later one ends no later. -/
theorem waits_shrink {mid : List DriverTurn} {s₁ s₂ s₃ : Driver} {now₁ now₂ wait₁ wait₂ : Nanos}
    {flag₁ flag₂ : Bool} (h : Driven t tr s) (h₁ : DriverStep s (.armed now₁ flag₁ wait₁) s₁)
    (hmid : Runs DriverStep s₁ mid s₂) (hunswept : Unswept mid)
    (h₂ : DriverStep s₂ (.armed now₂ flag₂ wait₂) s₃) (hflag : flag₁ = true → flag₂ = true) :
    wait₂ ≤ wait₁ - (now₂ - now₁) := by
  cases h₁ with
  | armed hnow₁ hwait₁ =>
    obtain ⟨rfl, hanchor⟩ := untilDue_some hwait₁
    have hseeded : s.tick.idleAnchor.getD now₁ ≤ now₁ := by
      cases hprior : s.tick.idleAnchor with
      | none => exact le_refl now₁
      | some anchor => exact le_trans (h.anchored anchor hprior) hnow₁
    obtain ⟨-, hconfig, -, -, hlast⟩ := untilDue_tick (t := s.tick) now₁ s.hasRecoveryWork
    obtain ⟨ha, hlast', hconfig', hclock⟩ := unswept_run hmid hunswept hanchor
    cases h₂ with
    | armed hnow₂ hwait₂ =>
      obtain ⟨rfl, -⟩ := untilDue_some hwait₂
      rw [ha, delayUntilDue_congr (hconfig'.trans hconfig) (hlast'.trans hlast)]
      have hpast : ∀ last, s.tick.lastRefresh = some last → last ≤ now₁ :=
        fun last hswept => le_trans (h.past last hswept) hnow₁
      exact delayUntilDue_shrinks s.tick (le_trans hclock hnow₂) hseeded hpast hflag

/-! ### What a sweep can observe -/

theorem length_refreshExclusions (d : Daemon) : d.refreshExclusions.length ≤ maxSweepExclusions := by
  unfold Daemon.refreshExclusions
  cases d.active with
  | none => simp
  | some active =>
    dsimp only
    have hone : ∀ o : Option String, o.toList.length ≤ 1 := by
      intro o
      cases o with
      | none => simp
      | some uuid => simp
    rw [List.length_cons]
    exact Nat.succ_le_succ (hone _)

/-- More listed accounts than a sweep can be kept from leave one of them to it. -/
theorem exists_admitted {roster : List Account} {config : RefreshConfig} (enabled : Bool)
    (hunique : UniqueUuids roster) (hobservable : mechanismIsObservable roster config = true)
    {excluded : List String} (hexcluded : excluded.length ≤ maxSweepExclusions) :
    ∃ account ∈ roster, (RefreshTick.new roster config enabled).admits excluded account = true := by
  by_contra hnone
  simp only [mechanismIsObservable, Bool.and_eq_true, decide_eq_true_eq] at hobservable
  let listed := roster.filter (fun account =>
    config.accounts.isEmpty || accountListedIn config.accounts account)
  have hsub : listed.map (·.accountUuid) ⊆ excluded := by
    intro uuid huuid
    obtain ⟨account, hmem, rfl⟩ := List.mem_map.mp huuid
    obtain ⟨hin, hlisted⟩ := List.mem_filter.mp hmem
    by_contra hout
    apply hnone
    refine ⟨account, hin, ?_⟩
    have hfree : excluded.any (· == account.accountUuid) = false := by
      rw [List.any_eq_false]
      intro uuid hmem' heq
      rw [beq_iff_eq] at heq
      exact hout (heq ▸ hmem')
    have hlisted' : (config.accounts.isEmpty || accountListedIn config.accounts account) = true :=
      hlisted
    unfold RefreshTick.admits RefreshTick.new
    simpa [hfree] using hlisted'
  have hnodup : (listed.map (·.accountUuid)).Nodup :=
    hunique.sublist (List.filter_sublist.map _)
  have hlength := (List.subperm_of_subset hnodup hsub).length_le
  rw [List.length_map] at hlength
  have hmany : maxSweepExclusions < listed.length := hobservable.2
  omega

/-! ### A whole run -/

/-- What a sweep of the tick does, after the turns `before`. -/
structure SweptInTurn (t : RefreshTick) (before : List DriverTurn) (startedAt : Nanos)
    (input : SweepInput) (visits : ℕ → Visit) (outcome : SweepOutcome) : Prop where
  attempted : ∀ i account, t.roster[i]? = some account → (visits i).attempted ≠ none →
    t.admits input.excluded account = true ∧
    ∀ backoff, armedBy t.backoffBase (attemptsOf i before) = some backoff →
      backoff.until' ≤ (input.answers i).checkedAt
  excluded : ∀ i account, t.roster[i]? = some account → t.admits input.excluded account = false →
    visits i = .passed
  leftAlone : ∀ i backoff, armedBy t.backoffBase (attemptsOf i before) = some backoff →
    (input.answers i).checkedAt < backoff.until' → visits i = .passed
  unlisted : ∀ i, t.roster[i]? = none → visits i = .passed
  outcome : outcome =
    { restored := t.roster.zipIdx.flatMap (fun x => (visits x.2).restored x.1)
      events := t.roster.zipIdx.flatMap (fun x => (visits x.2).events)
      observations := t.roster.zipIdx.flatMap (fun x => (visits x.2).observations) }
  paced : ∀ last, lastSwept before = some last → startedAt < last + t.config.cadence →
    t.recoveryPending input.excluded input.quarantined = true

theorem admits_congr {t' : RefreshTick} (hconfig : t'.config = t.config) (excluded : List String)
    (account : Account) : t'.admits excluded account = t.admits excluded account := by
  unfold RefreshTick.admits
  rw [hconfig]

theorem recoveryPending_congr {t' : RefreshTick} (hroster : t'.roster = t.roster)
    (hconfig : t'.config = t.config) (henabled : t'.enabled = t.enabled)
    (excluded quarantined : List String) :
    t'.recoveryPending excluded quarantined = t.recoveryPending excluded quarantined := by
  unfold RefreshTick.recoveryPending RefreshTick.admits
  rw [hroster, hconfig, henabled]

theorem visitAt_of_mem {input : SweepInput} {i : ℕ} {account : Account}
    (h : t.roster[i]? = some account) : t.visitAt input i =
      t.visit input.excluded input.quarantined input.nowMs i account (input.answers i) := by
  unfold RefreshTick.visitAt
  rw [h]

theorem visitAt_of_not_mem {input : SweepInput} {i : ℕ} (h : t.roster[i]? = none) :
    t.visitAt input i = .passed := by
  unfold RefreshTick.visitAt
  rw [h]

theorem sweptInTurn {startedAt : Nanos} {input : SweepInput} {visits : ℕ → Visit}
    {outcome : SweepOutcome} (h : Driven t tr s)
    (hstep : DriverStep s (.swept startedAt input visits outcome) s') :
    SweptInTurn t tr startedAt input visits outcome := by
  cases hstep with
  | @swept due _ flag _ harmed hdue hended hexcluded hquarantined =>
    refine ⟨?_, ?_, ?_, ?_, ?_, ?_⟩
    · intro i account hmember hattempted
      obtain ⟨outcome, houtcome⟩ := Option.ne_none_iff_exists'.mp hattempted
      rw [← h.roster] at hmember
      rw [visitAt_of_mem hmember] at houtcome
      obtain ⟨hadmits, hready, -⟩ := RefreshTick.visit_attempted s.tick houtcome
      rw [admits_congr h.config] at hadmits
      rw [h.ledger i] at hready
      exact ⟨hadmits, hready⟩
    · intro i account hmember hadmits
      rw [← h.roster] at hmember
      rw [← admits_congr h.config] at hadmits
      rw [visitAt_of_mem hmember]
      exact RefreshTick.visit_of_not_admits s.tick hadmits
    · intro i backoff hentry hearly
      cases hmember : s.tick.roster[i]? with
      | none => exact visitAt_of_not_mem hmember
      | some account =>
        rw [← h.ledger i] at hentry
        rw [visitAt_of_mem hmember]
        exact RefreshTick.visit_of_backingOff s.tick hentry hearly
    · intro i hmember
      rw [← h.roster] at hmember
      exact visitAt_of_not_mem hmember
    · have hon : s.tick.enabled = true := by
        apply h.wired
        rw [harmed]
        simp
      unfold RefreshTick.sweep
      rw [if_neg (not_not.mpr hon), RefreshTick.runSweep_eq, h.roster]
    · intro last hlast hearly
      rw [← h.last] at hlast
      rw [hexcluded, hquarantined, ← recoveryPending_congr h.roster h.config h.enabled]
      cases flag with
      | true => exact h.recovery due harmed
      | false =>
        have hcadence := h.cadence due last harmed hlast
        exact absurd hearly (not_lt.mpr (le_trans hcadence hdue))

/-- A run of the refresh tick. The ledger holds an entry for the accounts whose last cycle was an error,
armed for the exponential of the errors in a row; a sweep runs a cycle for no account that is left
alone, excluded or not on the allowlist, and takes nothing from it; one less than a cadence after
another had recovery work; a wait that is armed again ends no later, unless recovery work was withdrawn;
and a roster that is observable keeps an account that the daemon cannot exclude. -/
theorem sweeps_paced {roster : List Account} {config : RefreshConfig} {enabled : Bool}
    {clock : Nanos} (hunique : UniqueUuids roster)
    (hrun : Runs DriverStep { tick := .new roster config enabled, clock := clock } tr s) :
    (∀ i, s.tick.refreshBackoff i =
        armedBy (max config.idleAfter refreshBackoffMinBase) (attemptsOf i tr) ∧
      ((s.tick.refreshBackoff i).isSome = true ↔
        ∃ now, (attemptsOf i tr).getLast? = some (.error, now))) ∧
    (∀ before after startedAt input visits outcome,
      tr = before ++ .swept startedAt input visits outcome :: after →
        SweptInTurn (.new roster config enabled) before startedAt input visits outcome) ∧
    (∀ before mid after now₁ now₂ flag₁ flag₂ wait₁ wait₂,
      tr = before ++ .armed now₁ flag₁ wait₁ :: (mid ++ .armed now₂ flag₂ wait₂ :: after) →
        Unswept mid → (flag₁ = true → flag₂ = true) → wait₂ ≤ wait₁ - (now₂ - now₁)) ∧
    (mechanismIsObservable roster config = true → ∀ d : Daemon, ∃ account ∈ roster,
      (RefreshTick.new roster config enabled).admits d.refreshExclusions account = true) := by
  have hnew := driven_new roster config enabled clock
  refine ⟨?_, ?_, ?_, ?_⟩
  · intro i
    have hledger := (driven_run hrun hnew).ledger i
    refine ⟨hledger, ?_⟩
    rw [hledger]
    exact armedBy_isSome _ _
  · intro before after startedAt input visits outcome htr
    rw [htr] at hrun
    obtain ⟨s₁, hbefore, hrest⟩ := runs_append_iff.mp hrun
    obtain ⟨s₂, hstep, -⟩ := runs_cons_iff.mp hrest
    exact sweptInTurn (driven_run hbefore hnew) hstep
  · intro before mid after now₁ now₂ flag₁ flag₂ wait₁ wait₂ htr hunswept hflag
    rw [htr] at hrun
    obtain ⟨s₁, hbefore, hrest⟩ := runs_append_iff.mp hrun
    obtain ⟨s₂, hfirst, hrest⟩ := runs_cons_iff.mp hrest
    obtain ⟨s₃, hmid, hrest⟩ := runs_append_iff.mp hrest
    obtain ⟨s₄, hsecond, -⟩ := runs_cons_iff.mp hrest
    exact waits_shrink (driven_run hbefore hnew) hfirst hmid hunswept hsecond hflag
  · intro hobservable d
    exact exists_admitted enabled hunique hobservable (length_refreshExclusions d)

/-! ### A restore that is retried -/

/-- A sweep that times out at every account it refreshes, a minute after the start. -/
def timedOutSweep : SweepInput where
  excluded := []
  quarantined := ["A"]
  nowMs := 0
  answers := fun _ =>
    { checkedAt := secs 60
      expiresAtMs := none
      cycle := .timedOut
      resolved := none
      foldedAt := secs 60 }
  endedAt := secs 60

def retriedTick : RefreshTick :=
  .new [sampleAccount "A", sampleAccount "B", sampleAccount "C"]
    { enabled := true, accounts := [], cadenceSecs := 3600, idleAfterSecs := 60, timeoutSecs := 30 } true

/-- A dead account, a sweep that could not restore it, and the turns up to the next wait. -/
def retriedTurns : List DriverTurn :=
  [.idled, .armed 0 true (secs 60),
    .swept (secs 60) timedOutSweep (retriedTick.visitAt timedOutSweep)
      (retriedTick.sweep timedOutSweep).1,
    .idled, .armed (secs 70) true (secs 60)]

/-- The idle anchor and the ledger after these turns. -/
def retriedDriver : Driver where
  tick :=
    { retriedTick with
      lastRefresh := some (secs 60)
      idleAnchor := some (secs 70)
      refreshBackoff := (retriedTick.sweep timedOutSweep).2.refreshBackoff }
  quarantined := ["A"]
  armed := some (secs 130, true)
  clock := secs 70

theorem retried_run :
    Runs DriverStep { tick := retriedTick, clock := 0 } retriedTurns retriedDriver := by
  unfold retriedTurns
  refine runs_cons_iff.mpr ⟨_, .idled [] ["A"] (le_refl 0), ?_⟩
  refine runs_cons_iff.mpr ⟨_, .armed (le_refl 0) rfl, ?_⟩
  refine runs_cons_iff.mpr ⟨_, .swept rfl (le_refl _) (le_refl _) rfl rfl, ?_⟩
  refine runs_cons_iff.mpr ⟨_, .idled [] ["A"] (le_refl _), ?_⟩
  exact runs_single (.armed (by decide) rfl)

theorem retried_unique : UniqueUuids retriedTick.roster := by
  unfold UniqueUuids
  decide

/-- An account that timed out once is left alone for two minutes. -/
theorem sweeps_paced_retried : retriedDriver.tick.refreshBackoff 0 = some ⟨1, secs 180⟩ ∧
    SweptInTurn retriedTick [.idled, .armed 0 true (secs 60)] (secs 60) timedOutSweep
      (retriedTick.visitAt timedOutSweep) (retriedTick.sweep timedOutSweep).1 := by
  have hpaced := sweeps_paced retried_unique retried_run
  refine ⟨(hpaced.1 0).1.trans (by decide +kernel), ?_⟩
  exact hpaced.2.1 _ [.idled, .armed (secs 70) true (secs 60)] _ _ _ _ rfl

/-- The account is found alive by other means in the next idle window: what is left of the minute grows
into what is left of the cadence. -/
theorem wait_lengthened : ¬ ∀ (roster : List Account) (config : RefreshConfig) (enabled : Bool)
    (clock : Nanos) (tr : List DriverTurn) (s : Driver), UniqueUuids roster →
    Runs DriverStep { tick := .new roster config enabled, clock := clock } tr s →
    ∀ before mid after now₁ now₂ flag₁ flag₂ wait₁ wait₂,
      tr = before ++ .armed now₁ flag₁ wait₁ :: (mid ++ .armed now₂ flag₂ wait₂ :: after) →
        Unswept mid → wait₂ ≤ wait₁ - (now₂ - now₁) := by
  intro hclaim
  have hrun := runs_append_iff.mpr ⟨_, retried_run, runs_cons_iff.mpr
    ⟨_, .idled [] [] (show _ ≤ secs 80 by decide), runs_single (.armed (le_refl (secs 80)) rfl)⟩⟩
  have hunswept : Unswept [.idled] := by
    intro l hl startedAt input visits outcome
    rw [List.mem_singleton.mp hl]
    simp
  have hle := hclaim _ _ _ _ _ _ retried_unique hrun (retriedTurns.take 4) [.idled] [] _ _ _ _ _ _
    rfl hunswept
  revert hle
  decide

end Sessiometer
