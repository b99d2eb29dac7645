import Sessiometer.Daemon.GateRules
import Sessiometer.Pacing.Episodes

/-! # The canary's alarm

Drift and ambiguity raise an alarm, and may raise another while it is up; every other verdict takes
it down, once. -/

namespace Sessiometer

open Effects Pacing

/-- What `refresh_canary` is fed: the overrides and the labels it finds, and what the run comes to. -/
structure CanaryPass where
  settings : Settings
  roster : List Account
  verdict : Except Error CanaryOutcome

namespace Daemon

def noteCanaryRun (d : Daemon) : Except Error CanaryOutcome → Daemon
  | .ok outcome => d.noteCanary outcome
  | .error _ => d

def canaryPass (d : Daemon) (p : CanaryPass) : Daemon :=
  ({ d with settings := p.settings, roster := p.roster } : Daemon).noteCanaryRun p.verdict

end Daemon

/-- The verdicts that keep an alarm up. -/
def CanaryStatus.alarms : CanaryStatus → Bool
  | .drift .. => true
  | .ambiguous _ => true
  | _ => false

def Daemon.canaryAlarms (d : Daemon) : Bool := d.canary.any CanaryStatus.alarms

def Event.canaryEdge : Event → List Edge
  | .canaryDrift .. => [.opening]
  | .canaryAmbiguous _ => [.opening]
  | .canaryCleared => [.closing]
  | _ => []

/-- What a verdict that replaces another says. -/
def canaryEvents (replaced : Option CanaryStatus) : CanaryStatus → List Event
  | .drift displayed matched overridden => [.canaryDrift displayed matched overridden]
  | .ambiguous count => [.canaryAmbiguous count]
  | _ => if replaced.any CanaryStatus.alarms then [.canaryCleared] else []

section Alarm

variable {d : Daemon} {outcome : CanaryOutcome}

theorem events_closeCanaryAlarmBracket (d : Daemon) (replaced : Option CanaryStatus) :
    (d.closeCanaryAlarmBracket replaced).events =
      d.events ++ if replaced.any CanaryStatus.alarms then [.canaryCleared] else [] := by
  cases replaced with
  | none => exact (List.append_nil _).symm
  | some status =>
    cases status with
    | drift displayed matched overridden => rfl
    | ambiguous count => rfl
    | ok => exact (List.append_nil _).symm
    | inconclusive => exact (List.append_nil _).symm
    | notFound => exact (List.append_nil _).symm
    | refusedUnparseableCanonical => exact (List.append_nil _).symm

theorem noteCanary_of_eq (h : d.canary = some (d.canaryStatusOf outcome)) :
    d.noteCanary outcome = d := by
  unfold Daemon.noteCanary
  rw [if_pos h]

theorem noteCanary_of_ne (h : d.canary ≠ some (d.canaryStatusOf outcome)) :
    (d.noteCanary outcome).canary = some (d.canaryStatusOf outcome) ∧
      (d.noteCanary outcome).events =
        d.events ++ canaryEvents d.canary (d.canaryStatusOf outcome) := by
  unfold Daemon.noteCanary
  rw [if_neg h]
  refine ⟨rfl, ?_⟩
  cases d.canaryStatusOf outcome with
  | drift displayed matched overridden => rfl
  | ambiguous count => rfl
  | ok => exact events_closeCanaryAlarmBracket d d.canary
  | inconclusive => exact events_closeCanaryAlarmBracket d d.canary
  | notFound => exact events_closeCanaryAlarmBracket d d.canary
  | refusedUnparseableCanonical => exact events_closeCanaryAlarmBracket d d.canary

theorem canary_noteCanary (d : Daemon) (outcome : CanaryOutcome) :
    (d.noteCanary outcome).canary = some (d.canaryStatusOf outcome) := by
  by_cases h : d.canary = some (d.canaryStatusOf outcome)
  · rw [noteCanary_of_eq h]
    exact h
  · exact (noteCanary_of_ne h).1

/-- A verdict moves the alarm from where the replaced one had it. -/
theorem announces_canaryEvents (replaced : Option CanaryStatus) (status : CanaryStatus) :
    Announces (replaced.any CanaryStatus.alarms)
      ((canaryEvents replaced status).flatMap Event.canaryEdge) status.alarms := by
  have hquiet : Announces (replaced.any CanaryStatus.alarms)
      ((if replaced.any CanaryStatus.alarms then [Event.canaryCleared] else []).flatMap
        Event.canaryEdge) false := by
    cases replaced.any CanaryStatus.alarms with
    | false => exact .nil false
    | true => exact announces_closing
  cases status with
  | drift displayed matched overridden => exact announces_opening
  | ambiguous count => exact announces_opening
  | ok => exact hquiet
  | inconclusive => exact hquiet
  | notFound => exact hquiet
  | refusedUnparseableCanonical => exact hquiet

theorem canaryAlarms_iff (d : Daemon) : d.canaryAlarms = true ↔
    ∃ status, d.canary = some status ∧
      ((∃ displayed matched overridden, status = .drift displayed matched overridden) ∨
        ∃ count, status = .ambiguous count) := by
  unfold Daemon.canaryAlarms
  cases d.canary with
  | none => simp
  | some status =>
    cases status with
    | drift displayed matched overridden =>
      exact ⟨fun _ => ⟨_, rfl, .inl ⟨displayed, matched, overridden, rfl⟩⟩, fun _ => rfl⟩
    | ambiguous count => exact ⟨fun _ => ⟨_, rfl, .inr ⟨count, rfl⟩⟩, fun _ => rfl⟩
    | _ => simp [CanaryStatus.alarms]

theorem canaryPass_of_same {p : CanaryPass} (h : ∀ outcome, p.verdict = .ok outcome →
    d.canary = some (({ d with settings := p.settings, roster := p.roster } :
      Daemon).canaryStatusOf outcome)) :
    (d.canaryPass p).events = d.events ∧ (d.canaryPass p).canary = d.canary := by
  unfold Daemon.canaryPass
  cases hv : p.verdict with
  | error e => exact ⟨rfl, rfl⟩
  | ok outcome =>
    dsimp only [Daemon.noteCanaryRun]
    rw [noteCanary_of_eq (h outcome hv)]
    exact ⟨rfl, rfl⟩

/-- The refusal opens no episode and leaves none open. -/
theorem canaryPass_refused {p : CanaryPass}
    (h : (d.canaryPass p).canary = some .refusedUnparseableCanonical) :
    (d.canaryPass p).events = d.events ∨
      (d.canaryPass p).events = d.events ++ [.canaryCleared] ∧ d.canaryAlarms = true := by
  unfold Daemon.canaryPass at h ⊢
  cases hv : p.verdict with
  | error e => exact .inl rfl
  | ok outcome =>
    rw [hv] at h
    dsimp only [Daemon.noteCanaryRun] at h ⊢
    rw [canary_noteCanary] at h
    by_cases hsame : d.canary = some (({ d with settings := p.settings, roster := p.roster } :
        Daemon).canaryStatusOf outcome)
    · rw [noteCanary_of_eq hsame]
      exact .inl rfl
    · rw [(noteCanary_of_ne hsame).2, Option.some.inj h]
      by_cases halarm : d.canaryAlarms = true
      · refine .inr ⟨?_, halarm⟩
        exact congrArg (d.events ++ ·) (if_pos halarm)
      · refine .inl ?_
        exact (congrArg (d.events ++ ·) (if_neg halarm)).trans (List.append_nil _)

/-- The events of one run of the canary. -/
theorem canaryPass_emits (d : Daemon) (p : CanaryPass) : ∃ es,
    (d.canaryPass p).events = d.events ++ es ∧
      Announces d.canaryAlarms (es.flatMap Event.canaryEdge) (d.canaryPass p).canaryAlarms ∧
      ((d.canaryPass p).canary = d.canary → es = []) := by
  cases hv : p.verdict with
  | error e =>
    refine ⟨[], ?_, ?_, fun _ => rfl⟩
    · rw [Daemon.canaryPass, hv]
      exact (List.append_nil _).symm
    · rw [Daemon.canaryPass, hv]
      exact .nil _
  | ok outcome =>
    rw [Daemon.canaryPass, hv]
    let e : Daemon := { d with settings := p.settings, roster := p.roster }
    change ∃ es, (e.noteCanary outcome).events = e.events ++ es ∧
      Announces e.canaryAlarms (es.flatMap Event.canaryEdge) (e.noteCanary outcome).canaryAlarms ∧
      ((e.noteCanary outcome).canary = e.canary → es = [])
    by_cases h : e.canary = some (e.canaryStatusOf outcome)
    · refine ⟨[], ?_, ?_, fun _ => rfl⟩
      · rw [noteCanary_of_eq h, List.append_nil]
      · rw [noteCanary_of_eq h]
        exact .nil _
    · obtain ⟨hcanary, hevents⟩ := noteCanary_of_ne h
      refine ⟨_, hevents, ?_, fun hsame => ?_⟩
      · unfold Daemon.canaryAlarms
        rw [hcanary]
        exact announces_canaryEvents _ _
      · exact absurd (hsame.symm.trans hcanary) h

theorem announces_canaryPasses (passes : List CanaryPass) (d : Daemon) : ∃ es,
    (passes.foldl Daemon.canaryPass d).events = d.events ++ es ∧
      Announces d.canaryAlarms (es.flatMap Event.canaryEdge)
        (passes.foldl Daemon.canaryPass d).canaryAlarms := by
  induction passes generalizing d with
  | nil => exact ⟨[], (List.append_nil _).symm, .nil _⟩
  | cons p passes ih =>
    obtain ⟨es, hevents, hes, -⟩ := canaryPass_emits d p
    obtain ⟨es', hevents', hes'⟩ := ih (d.canaryPass p)
    refine ⟨es ++ es', ?_, ?_⟩
    · rw [List.foldl_cons, hevents', hevents, List.append_assoc]
    · rw [List.flatMap_append]
      exact hes.append hes'

/-- `refresh_canary` is a pass over what the canary's run comes to. -/
theorem exec_refreshCanary [SerdeJson] {D : Device Seams World} {w w' : World} {d' : Daemon}
    {r : Except Error CanaryOutcome} (he : Exec D (refreshCanary.run d) w (r, d') w') :
    d' = d.canaryPass ⟨d.settings, d.roster, r⟩ := by
  unfold refreshCanary at he
  rw [exec_get_bind] at he
  obtain ⟨ran, d₁, w₁, hrun, hrest⟩ := exec_state_bind.mp he
  obtain ⟨-, hd⟩ := exec_state_lift_iff.mp hrun
  dsimp only at hd
  subst hd
  cases ran with
  | error e =>
    obtain ⟨hr, -⟩ := exec_pure_iff.mp hrest
    cases hr
    rfl
  | ok outcome =>
    dsimp only at hrest
    rw [exec_modify_bind] at hrest
    obtain ⟨hr, -⟩ := exec_pure_iff.mp hrest
    cases hr
    rfl

/-- Over any sequence of verdicts and failures, each clearing event ends an episode that a drift or
an ambiguity began, and an episode is open while the retained verdict is one of the two. A pass that
leaves the verdict as it was emits nothing, and the refusal of an unparseable canonical item is no
alarm. -/
theorem canary_bracket [SerdeJson] (roster : List Account) (settings : Settings)
    (passes : List CanaryPass) :
    let d := passes.foldl Daemon.canaryPass ({ roster, settings } : Daemon)
    (∀ before after, d.events.flatMap Event.canaryEdge = before ++ .closing :: after →
      Announces false before true) ∧
    ((d.events.flatMap Event.canaryEdge).getLast? = some .opening ↔
      ∃ status, d.canary = some status ∧
        ((∃ displayed matched overridden, status = .drift displayed matched overridden) ∨
          ∃ count, status = .ambiguous count)) ∧
    (∀ p : CanaryPass, (∀ outcome, p.verdict = .ok outcome →
        d.canary = some (({ d with settings := p.settings, roster := p.roster } :
          Daemon).canaryStatusOf outcome)) →
      (d.canaryPass p).events = d.events ∧ (d.canaryPass p).canary = d.canary) ∧
    (∀ p : CanaryPass, (d.canaryPass p).canary = some .refusedUnparseableCanonical →
      (d.canaryPass p).events = d.events ∨
        (d.canaryPass p).events = d.events ++ [.canaryCleared] ∧ d.canaryAlarms = true) ∧
    ∀ (D : Device Seams World) (w w' : World) (d' : Daemon) (r : Except Error CanaryOutcome),
      Exec D (refreshCanary.run d) w (r, d') w' → d' = d.canaryPass ⟨d.settings, d.roster, r⟩ := by
  intro d
  obtain ⟨es, hevents, hes⟩ := announces_canaryPasses passes ({ roster, settings } : Daemon)
  have hlog : d.events = es := hevents
  have hannounces : Announces false (d.events.flatMap Event.canaryEdge) d.canaryAlarms := by
    rw [hlog]
    exact hes
  refine ⟨fun before after hsplit => hannounces.before_closing hsplit, ?_, ?_, ?_, ?_⟩
  · have hlast := hannounces.getLast?
    rw [show pending false = [] from rfl, List.nil_append] at hlast
    rw [hlast, canaryAlarms_iff]
  · intro p hsame
    exact canaryPass_of_same hsame
  · intro p hrefused
    exact canaryPass_refused hrefused
  · intro D w w' d' r he
    exact exec_refreshCanary he

end Alarm

end Sessiometer
