import Sessiometer.Daemon.Latches
import Sessiometer.Pacing.Episodes

/-! # The chart of an account

What the daemon keeps of an account's credential: the streak of 401s and the quarantine, the failed
refreshes, and the deadline last observed. Each method that writes one of these makes an entry into
the chart of one account, and the events it emits are the notices of that entry. -/

namespace Sessiometer

open Effects

structure Chart where
  consec401 : ℕ := 0
  quarantined : Bool := false
  recoverySuccesses : ℕ := 0
  unrecoverableSignaled : Bool := false
  consecutiveRefreshFailures : ℕ := 0
  deadline : Option Int := none
  source : Option CredentialReadSource := none
  ownRefresh : Bool := false
  signaledHorizon : Option ExpiryHorizon := none
deriving DecidableEq

def AccountHealth.chart (h : AccountHealth) : Chart where
  consec401 := h.consec401
  quarantined := h.quarantined
  recoverySuccesses := h.recoverySuccesses
  unrecoverableSignaled := h.unrecoverableSignaled
  consecutiveRefreshFailures := h.consecutiveRefreshFailures
  deadline := h.refreshTokenExpiresAtBaseline
  source := h.refreshTokenExpiresAtBaselineSource
  ownRefresh := h.ownRefreshSinceExpiryObservation
  signaledHorizon := h.signaledExpiryHorizon

inductive Entry where
  | polled (result : Except Error Usage)
  | refreshed (outcome : RefreshEventOutcome)
  | lifted
  | probeDropped
  | ownRefreshed
  | pollRead (observed : Option Int) (source : CredentialReadSource) (nowSecs : Int)
  | restashRead (observed : Option Int) (grantReplaced : Option Bool) (nowSecs : Int)

inductive Notice where
  | unauthorized (consecutive : ℕ)
  | died
  | restored
  | unrecoverable
  | scopeFailed
  | observed (provenance : ExpiryProvenance) (before : Option Int) (after : Int)
      (grantReplaced : Option Bool)
  | horizon (state : ExpiryHorizon) (expiresAt : Int) (horizonSecs : ℕ)
deriving DecidableEq

/-- The event that a notice about an account is logged as. -/
def Notice.event (account : Account) : Notice → Event
  | .unauthorized consecutive => .monitor401 account.label consecutive
  | .died => .credentialDead account.label
  | .restored => .credentialRestored account.label
  | .unrecoverable => .credentialUnrecoverable account.label
  | .scopeFailed => .usageScopeFail account.label
  | .observed provenance before after grantReplaced =>
    .credentialExpiryObserved account.accountUuid provenance before after grantReplaced
  | .horizon state expiresAt horizonSecs =>
    .credentialExpiryHorizon account.accountUuid state expiresAt horizonSecs

def Event.isHealth : Event → Bool
  | .monitor401 .. => true
  | .credentialDead _ => true
  | .credentialRestored _ => true
  | .credentialUnrecoverable _ => true
  | .usageScopeFail _ => true
  | .credentialExpiryObserved .. => true
  | .credentialExpiryHorizon .. => true
  | _ => false

theorem Notice.isHealth_event (account : Account) (n : Notice) :
    (n.event account).isHealth = true := by
  cases n <;> rfl

namespace Chart

variable (c : Chart)

/-- A quarantine that is lifted. -/
def lift : Chart :=
  if c.quarantined then { c with quarantined := false, recoverySuccesses := 0 } else c

def liftNotices : List Notice := if c.quarantined then [.restored] else []

/-- The 401 that puts an account under quarantine. -/
def condemns (monitor401N : ℕ) : Bool :=
  !c.quarantined && decide (monitor401N ≤ saturatingAdd32 c.consec401 1)

def unauthorized (monitor401N : ℕ) : Chart :=
  let counted := { c with consec401 := saturatingAdd32 c.consec401 1, recoverySuccesses := 0 }
  if c.condemns monitor401N then { counted with quarantined := true, unrecoverableSignaled := false }
  else counted

def unauthorizedNotices (monitor401N : ℕ) : List Notice :=
  (if c.quarantined then [] else [.unauthorized (saturatingAdd32 c.consec401 1)]) ++
    if c.condemns monitor401N then [.died] else []

theorem unauthorized_of_condemns {n : ℕ} (h : c.condemns n = true) :
    c.unauthorized n =
      { c with
        consec401 := saturatingAdd32 c.consec401 1
        recoverySuccesses := 0
        quarantined := true
        unrecoverableSignaled := false } ∧
    c.unauthorizedNotices n = [.unauthorized (saturatingAdd32 c.consec401 1), .died] := by
  have hq : c.quarantined = false := by
    simp only [condemns, Bool.and_eq_true, Bool.not_eq_true'] at h
    exact h.1
  simp [unauthorized, unauthorizedNotices, h, hq]

theorem unauthorized_of_not_condemns {n : ℕ} (h : c.condemns n = false) :
    c.unauthorized n =
      { c with consec401 := saturatingAdd32 c.consec401 1, recoverySuccesses := 0 } ∧
    c.unauthorizedNotices n =
      if c.quarantined then [] else [.unauthorized (saturatingAdd32 c.consec401 1)] := by
  simp [unauthorized, unauthorizedNotices, h]

/-- The live poll that ends a quarantine. -/
def revives (monitorRecoveryM : ℕ) : Bool :=
  c.quarantined && decide (monitorRecoveryM ≤ saturatingAdd32 c.recoverySuccesses 1)

def live (monitorRecoveryM : ℕ) : Chart :=
  let cleared := { c with consec401 := 0 }
  if c.revives monitorRecoveryM then { cleared with quarantined := false, recoverySuccesses := 0 }
  else if c.quarantined then
    { cleared with recoverySuccesses := saturatingAdd32 c.recoverySuccesses 1 }
  else cleared

theorem live_of_revives {m : ℕ} (h : c.revives m = true) :
    c.live m = { c with consec401 := 0, quarantined := false, recoverySuccesses := 0 } := by
  unfold live
  dsimp only
  rw [if_pos h]

theorem live_of_quarantined {m : ℕ} (h : c.revives m = false) (hq : c.quarantined = true) :
    c.live m =
      { c with consec401 := 0, recoverySuccesses := saturatingAdd32 c.recoverySuccesses 1 } := by
  unfold live
  simp [h, hq]

theorem live_of_not_quarantined (m : ℕ) (hq : c.quarantined = false) :
    c.revives m = false ∧ c.live m = { c with consec401 := 0 } := by
  have hr : c.revives m = false := by simp [revives, hq]
  constructor
  · exact hr
  · unfold live
    simp [hr, hq]

theorem lift_of_quarantined (hq : c.quarantined = true) :
    c.lift = { c with quarantined := false, recoverySuccesses := 0 } ∧ c.liftNotices = [.restored] := by
  unfold lift liftNotices
  rw [if_pos hq, if_pos hq]
  exact ⟨rfl, rfl⟩

theorem lift_of_not_quarantined (hq : ¬ c.quarantined = true) :
    c.lift = c ∧ c.liftNotices = [] := by
  unfold lift liftNotices
  rw [if_neg hq, if_neg hq]
  exact ⟨rfl, rfl⟩

def polled (s : Settings) (result : Except Error Usage) : Chart :=
  match classifyPoll result with
  | .unauthorized => c.unauthorized s.monitor401N
  | .live => c.live s.monitorRecoveryM
  | .scopeMissing => { c with consec401 := 0, recoverySuccesses := 0 }
  | .transient => { c with consec401 := 0, recoverySuccesses := 0 }

def pollNotices (s : Settings) (result : Except Error Usage) : List Notice :=
  match classifyPoll result with
  | .unauthorized => c.unauthorizedNotices s.monitor401N
  | .live => if c.revives s.monitorRecoveryM then [.restored] else []
  | .scopeMissing => [.scopeFailed]
  | .transient => []

/-- The dead refresh that is the first of its quarantine. -/
def confirms (outcome : RefreshEventOutcome) : Bool :=
  decide (outcome = .dead) && c.quarantined && !c.unrecoverableSignaled

def refreshed (outcome : RefreshEventOutcome) : Chart :=
  { c with
    ownRefresh := true
    consecutiveRefreshFailures :=
      if Daemon.failedRefresh outcome then saturatingAdd32 c.consecutiveRefreshFailures 1 else 0
    unrecoverableSignaled := c.unrecoverableSignaled || c.confirms outcome }

def refreshNotices (outcome : RefreshEventOutcome) : List Notice :=
  if c.confirms outcome then [.unrecoverable] else []

theorem refreshed_of_confirms {outcome : RefreshEventOutcome} (h : c.confirms outcome = true) :
    c.refreshed outcome =
      { c with
        ownRefresh := true
        consecutiveRefreshFailures :=
          if Daemon.failedRefresh outcome then saturatingAdd32 c.consecutiveRefreshFailures 1 else 0
        unrecoverableSignaled := true } ∧
    c.refreshNotices outcome = [.unrecoverable] := by
  unfold refreshed refreshNotices
  simp [h]

theorem refreshed_of_not_confirms {outcome : RefreshEventOutcome} (h : c.confirms outcome = false) :
    c.refreshed outcome =
      { c with
        ownRefresh := true
        consecutiveRefreshFailures :=
          if Daemon.failedRefresh outcome then saturatingAdd32 c.consecutiveRefreshFailures 1 else 0 } ∧
    c.refreshNotices outcome = [] := by
  unfold refreshed refreshNotices
  simp [h]

/-- Whether a deadline stands in a band that is signalled. -/
def actionable : ExpiryHorizon → Bool
  | .within => true
  | .lapsed => true
  | _ => false

def signal (state : ExpiryHorizon) : Chart :=
  match state with
  | .within => { c with signaledHorizon := some .within }
  | .lapsed => { c with signaledHorizon := some .lapsed }
  | .beyond => { c with signaledHorizon := none }
  | .unknown => c

def signals (state : ExpiryHorizon) : Bool :=
  actionable state && decide (c.signaledHorizon ≠ some state)

theorem signal_of_signals {state : ExpiryHorizon} (h : c.signals state = true) :
    c.signal state = { c with signaledHorizon := some state } := by
  cases state with
  | within => rfl
  | lapsed => rfl
  | beyond => simp [signals, actionable] at h
  | unknown => simp [signals, actionable] at h

theorem signal_of_signaled {state : ExpiryHorizon} (ha : actionable state = true)
    (h : c.signaledHorizon = some state) : c.signal state = c := by
  cases state with
  | within => simp [signal, ← h]
  | lapsed => simp [signal, ← h]
  | beyond => simp [actionable] at ha
  | unknown => simp [actionable] at ha

def provenance (source : CredentialReadSource) : ExpiryProvenance :=
  if c.deadline = none then .firstObservation
  else if c.ownRefresh then .myRefresh
  else if c.source ≠ some source then .readSourceSwitched
  else .externalChange

/-- A deadline that is read: it becomes the baseline. -/
def read (s : Settings) (deadline : Int) (source : CredentialReadSource) (nowSecs : Int) : Chart :=
  { c with deadline := some deadline, source := some source, ownRefresh := false }.signal
    (horizonState (some deadline) s.credentialExpiryHorizonSecs nowSecs)

def readNotices (s : Settings) (deadline : Int) (provenance : ExpiryProvenance)
    (grantReplaced : Option Bool) (nowSecs : Int) : List Notice :=
  let state := horizonState (some deadline) s.credentialExpiryHorizonSecs nowSecs
  (if c.deadline ≠ some deadline ∨ provenance = .canonicalRestash then
    [.observed provenance c.deadline deadline grantReplaced] else []) ++
  if c.signals state then [.horizon state deadline s.credentialExpiryHorizonSecs] else []

def enter (s : Settings) : Entry → Chart
  | .polled result => c.polled s result
  | .refreshed outcome => c.refreshed outcome
  | .lifted => c.lift
  | .probeDropped => if c.quarantined then { c with recoverySuccesses := 0 } else c
  | .ownRefreshed => { c with ownRefresh := true }
  | .pollRead observed source nowSecs =>
    match observed with
    | none => c
    | some deadline => c.read s deadline source nowSecs
  | .restashRead observed _ nowSecs =>
    match observed with
    | none => c
    | some deadline => c.read s deadline .canonical nowSecs

def notices (s : Settings) : Entry → List Notice
  | .polled result => c.pollNotices s result
  | .refreshed outcome => c.refreshNotices outcome
  | .lifted => c.liftNotices
  | .probeDropped => []
  | .ownRefreshed => []
  | .pollRead observed source nowSecs =>
    match observed with
    | none => []
    | some deadline => c.readNotices s deadline (c.provenance source) none nowSecs
  | .restashRead observed grantReplaced nowSecs =>
    match observed with
    | none => []
    | some deadline => c.readNotices s deadline .canonicalRestash grantReplaced nowSecs

/-- The chart after some entries. -/
def after (s : Settings) (es : List Entry) : Chart := es.foldl (·.enter s) c

/-- The notices of some entries, in order. -/
def course (s : Settings) : Chart → List Entry → List Notice
  | _, [] => []
  | c, e :: es => c.notices s e ++ (c.enter s e).course s es

end Chart

/-! ## The charts of the roster -/

structure Clinic where
  roster : List Account
  settings : Settings
  charts : ℕ → Chart
  events : List Event

def Daemon.clinic (d : Daemon) : Clinic where
  roster := d.roster
  settings := d.settings
  charts := fun i => (d.accounts i).health.chart
  events := d.events.filter Event.isHealth

namespace Clinic

variable (c : Clinic)

def account (i : ℕ) : Account := c.roster.getD i ⟨"", "", false⟩

def setChart (i : ℕ) (chart : Chart) : Clinic := { c with charts := Function.update c.charts i chart }

def log (i : ℕ) (ns : List Notice) : Clinic :=
  { c with events := c.events ++ ns.map (Notice.event (c.account i)) }

def enter (x : ℕ × Entry) : Clinic :=
  (c.setChart x.1 ((c.charts x.1).enter c.settings x.2)).log x.1
    ((c.charts x.1).notices c.settings x.2)

theorem log_nil (i : ℕ) : c.log i [] = c := by
  simp [log]

theorem log_log (i : ℕ) (ns ns' : List Notice) : (c.log i ns).log i ns' = c.log i (ns ++ ns') := by
  simp [log, account]

theorem setChart_self (i : ℕ) : c.setChart i (c.charts i) = c := by
  simp [setChart]

theorem setChart_setChart (i : ℕ) (a b : Chart) : (c.setChart i a).setChart i b = c.setChart i b := by
  simp [setChart]

theorem setChart_log (i : ℕ) (a : Chart) (ns : List Notice) :
    (c.log i ns).setChart i a = (c.setChart i a).log i ns := rfl

theorem setChart_charts (i : ℕ) (a : Chart) : (c.setChart i a).charts i = a :=
  Function.update_self ..

end Clinic

namespace Daemon

variable (d : Daemon) (i : ℕ)

theorem clinic_account : d.clinic.account i = d.account i := rfl

theorem setHealth_clinic (f : AccountHealth → AccountHealth) :
    (d.setHealth i f).clinic = d.clinic.setChart i (f (d.accounts i).health).chart := by
  have hcharts : (fun j => ((d.setHealth i f).accounts j).health.chart) =
      Function.update (fun j => (d.accounts j).health.chart) i (f (d.accounts i).health).chart := by
    funext j
    unfold setHealth
    by_cases hj : j = i
    · rw [hj, setAccount_self, Function.update_self]
    · rw [setAccount_of_ne d i hj, Function.update_of_ne hj]
  exact congrArg (fun charts => { d.clinic with charts := charts }) hcharts

/-- A write of an account that keeps its chart. -/
theorem setAccount_clinic {f : AccountRuntime → AccountRuntime}
    (hf : ∀ a, (f a).health.chart = a.health.chart) : (d.setAccount i f).clinic = d.clinic := by
  have hcharts : (fun j => ((d.setAccount i f).accounts j).health.chart) =
      fun j => (d.accounts j).health.chart :=
    funext (setAccount_kept d i (fun a => a.health.chart) hf)
  exact congrArg (fun charts => { d.clinic with charts := charts }) hcharts

theorem emit_clinic {e : Event} (h : e.isHealth = false) : (d.emit e).clinic = d.clinic := by
  have hevents : (d.emit e).events.filter Event.isHealth = d.events.filter Event.isHealth := by
    simp [emit, h]
  exact congrArg (fun es => { d.clinic with events := es }) hevents

theorem emit_notice_clinic (n : Notice) :
    (d.emit (n.event (d.account i))).clinic = d.clinic.log i [n] := by
  have hevents : (d.emit (n.event (d.account i))).events.filter Event.isHealth =
      d.events.filter Event.isHealth ++ [n.event (d.account i)] := by
    simp [emit, n.isHealth_event]
  exact congrArg (fun es => { d.clinic with events := es }) hevents

/-! ### The methods make their entries -/

/-- From one state to the other an account's chart is moved to `c`, with these notices. -/
def Charted (d d' : Daemon) (i : ℕ) (c : Chart) (ns : List Notice) : Prop :=
  d'.clinic = (d.clinic.setChart i c).log i ns

theorem charted_refl : Charted d d i (d.accounts i).health.chart [] := by
  have hself : d.clinic.setChart i (d.accounts i).health.chart = d.clinic := d.clinic.setChart_self i
  unfold Charted
  rw [hself, Clinic.log_nil]

variable {d i} {d' : Daemon} {c : Chart} {ns : List Notice}

theorem Charted.chart (h : Charted d d' i c ns) : (d'.accounts i).health.chart = c := by
  have hchart : d'.clinic.charts i = c := by
    rw [h]
    exact Function.update_self ..
  exact hchart

theorem Charted.health (h : Charted d d' i c ns) {f : AccountHealth → AccountHealth}
    (g : Chart → Chart) (hf : ∀ x, (f x).chart = g x.chart) :
    Charted d (d'.setHealth i f) i (g c) ns := by
  unfold Charted at h ⊢
  rw [setHealth_clinic, hf, Charted.chart h, h, Clinic.setChart_log, Clinic.setChart_setChart]

theorem Charted.notice (h : Charted d d' i c ns) (n : Notice) :
    Charted d (d'.emit (n.event (d'.account i))) i c (ns ++ [n]) := by
  unfold Charted at h ⊢
  rw [emit_notice_clinic, h, Clinic.log_log]

theorem Charted.trans {d'' : Daemon} {c' : Chart} {ns' : List Notice} (h : Charted d d' i c ns)
    (h' : Charted d' d'' i c' ns') : Charted d d'' i c' (ns ++ ns') := by
  unfold Charted at h h' ⊢
  rw [h', h, Clinic.setChart_log, Clinic.setChart_setChart, Clinic.log_log]

theorem Charted.kept {d'' : Daemon} (h : Charted d d' i c ns) (hkept : d''.clinic = d'.clinic) :
    Charted d d'' i c ns := hkept.trans h

variable (d i)

theorem liftQuarantine_charted : Charted d (d.liftQuarantine i) i (d.accounts i).health.chart.lift
    (d.accounts i).health.chart.liftNotices := by
  have hrefl := charted_refl d i
  unfold liftQuarantine
  by_cases hq : (d.accounts i).health.quarantined = true
  · obtain ⟨hlift, hnotices⟩ := (d.accounts i).health.chart.lift_of_quarantined hq
    rw [if_pos hq, hlift, hnotices]
    exact (hrefl.health (fun c => { c with quarantined := false, recoverySuccesses := 0 })
      (fun _ => rfl)).notice .restored
  · obtain ⟨hlift, hnotices⟩ := (d.accounts i).health.chart.lift_of_not_quarantined hq
    rw [if_neg hq, hlift, hnotices]
    exact hrefl

theorem noteUnauthorized_charted : Charted d (d.noteUnauthorized i) i
    ((d.accounts i).health.chart.unauthorized d.settings.monitor401N)
    ((d.accounts i).health.chart.unauthorizedNotices d.settings.monitor401N) := by
  let k := saturatingAdd32 (d.accounts i).health.consec401 1
  have hcounted := (charted_refl d i).health
    (f := fun h => { h with consec401 := k, recoverySuccesses := 0 })
    (fun c => { c with consec401 := k, recoverySuccesses := 0 }) (fun _ => rfl)
  have hnoted := hcounted.notice (.unauthorized k)
  unfold noteUnauthorized
  dsimp only
  by_cases hq : (d.accounts i).health.quarantined = true
  · have hc : (d.accounts i).health.chart.quarantined = true := hq
    have hcond : (d.accounts i).health.chart.condemns d.settings.monitor401N = false := by
      simp [Chart.condemns, hc]
    obtain ⟨hchart, hnotices⟩ := Chart.unauthorized_of_not_condemns _ hcond
    rw [if_pos hq, hchart, hnotices, if_pos hc]
    exact hcounted
  · have hc : (d.accounts i).health.chart.quarantined = false := by
      simpa [AccountHealth.chart] using hq
    rw [if_neg hq]
    by_cases hn : d.settings.monitor401N ≤ k
    · have hcond : (d.accounts i).health.chart.condemns d.settings.monitor401N = true := by
        simp only [Chart.condemns, hc, Bool.not_false, Bool.true_and, decide_eq_true_eq]
        exact hn
      obtain ⟨hchart, hnotices⟩ := Chart.unauthorized_of_condemns _ hcond
      rw [if_pos hn, hchart, hnotices]
      exact (hnoted.health
        (fun c => { c with quarantined := true, unrecoverableSignaled := false })
        (fun _ => rfl)).notice .died
    · have hcond : (d.accounts i).health.chart.condemns d.settings.monitor401N = false := by
        simp only [Chart.condemns, hc, Bool.not_false, Bool.true_and, decide_eq_false_iff_not]
        exact hn
      obtain ⟨hchart, hnotices⟩ := Chart.unauthorized_of_not_condemns _ hcond
      have hlive : ¬ (d.accounts i).health.chart.quarantined = true := hq
      rw [if_neg hn, hchart, hnotices, if_neg hlive]
      exact hnoted

theorem noteLive_charted : Charted d (d.noteLive i) i
    ((d.accounts i).health.chart.live d.settings.monitorRecoveryM)
    (if (d.accounts i).health.chart.revives d.settings.monitorRecoveryM then [.restored] else []) := by
  let m := saturatingAdd32 (d.accounts i).health.recoverySuccesses 1
  have hcleared := (charted_refl d i).health (f := fun h => { h with consec401 := 0 })
    (fun c => { c with consec401 := 0 }) (fun _ => rfl)
  have hcounted := hcleared.health (f := fun h => { h with recoverySuccesses := m })
    (fun c => { c with recoverySuccesses := m }) (fun _ => rfl)
  unfold noteLive
  dsimp only
  by_cases hq : (d.accounts i).health.quarantined = true
  · have hc : (d.accounts i).health.chart.quarantined = true := hq
    rw [if_pos hq]
    by_cases hm : d.settings.monitorRecoveryM ≤ m
    · have hr : (d.accounts i).health.chart.revives d.settings.monitorRecoveryM = true := by
        simp only [Chart.revives, hc, Bool.true_and, decide_eq_true_eq]
        exact hm
      have hlifted := hcounted.trans (liftQuarantine_charted _ i)
      obtain ⟨hlift, hnotices⟩ := Chart.lift_of_quarantined
        { (d.accounts i).health.chart with consec401 := 0, recoverySuccesses := m } hc
      rw [hcounted.chart, hlift, hnotices] at hlifted
      rw [if_pos hm, Chart.live_of_revives _ hr, if_pos hr]
      exact hlifted
    · have hr : (d.accounts i).health.chart.revives d.settings.monitorRecoveryM = false := by
        simp only [Chart.revives, hc, Bool.true_and, decide_eq_false_iff_not]
        exact hm
      have hn : ¬ (d.accounts i).health.chart.revives d.settings.monitorRecoveryM = true := by simp [hr]
      rw [if_neg hm, Chart.live_of_quarantined _ hr hc, if_neg hn]
      exact hcounted
  · have hc : (d.accounts i).health.chart.quarantined = false := by
      simpa [AccountHealth.chart] using hq
    obtain ⟨hr, hlive⟩ := Chart.live_of_not_quarantined _ d.settings.monitorRecoveryM hc
    have hn : ¬ (d.accounts i).health.chart.revives d.settings.monitorRecoveryM = true := by simp [hr]
    rw [if_neg hq, hlive, if_neg hn]
    exact hcleared

theorem notePollOutcome_charted (result : Except Error Usage) : Charted d (d.notePollOutcome i result) i
    ((d.accounts i).health.chart.polled d.settings result)
    ((d.accounts i).health.chart.pollNotices d.settings result) := by
  have hreset := (charted_refl d i).health
    (f := fun h => { h with consec401 := 0, recoverySuccesses := 0 })
    (fun c => { c with consec401 := 0, recoverySuccesses := 0 }) (fun _ => rfl)
  unfold notePollOutcome Chart.polled Chart.pollNotices
  cases classifyPoll result with
  | unauthorized => exact noteUnauthorized_charted d i
  | live => exact noteLive_charted d i
  | scopeMissing => exact hreset.notice .scopeFailed
  | transient => exact hreset

theorem noteRefreshOutcome_charted (outcome : RefreshEventOutcome) :
    Charted d (d.noteRefreshOutcome i outcome) i ((d.accounts i).health.chart.refreshed outcome)
      ((d.accounts i).health.chart.refreshNotices outcome) := by
  have hown := (charted_refl d i).health
    (f := fun h => { h with ownRefreshSinceExpiryObservation := true })
    (fun c => { c with ownRefresh := true }) (fun _ => rfl)
  have hnoted := hown.health
    (f := fun h =>
      { h with
        lastRefreshOutcome := some outcome
        consecutiveRefreshFailures :=
          if failedRefresh outcome then saturatingAdd32 h.consecutiveRefreshFailures 1 else 0 })
    (fun c =>
      { c with
        consecutiveRefreshFailures :=
          if failedRefresh outcome then saturatingAdd32 c.consecutiveRefreshFailures 1 else 0 })
    (fun _ => rfl)
  have hsignaled := (hnoted.health (f := fun h => { h with unrecoverableSignaled := true })
    (fun c => { c with unrecoverableSignaled := true }) (fun _ => rfl)).notice .unrecoverable
  unfold noteRefreshOutcome
  dsimp only
  by_cases hs : outcome = .dead ∧ (d.accounts i).health.quarantined ∧
      ¬ (d.accounts i).health.unrecoverableSignaled
  · have hc : (d.accounts i).health.chart.confirms outcome = true := by
      obtain ⟨rfl, hq, hu⟩ := hs
      have hu' : (d.accounts i).health.unrecoverableSignaled = false := by simpa using hu
      simp [Chart.confirms, AccountHealth.chart, hq, hu']
    obtain ⟨hchart, hnotices⟩ := Chart.refreshed_of_confirms _ hc
    rw [if_pos hs, hchart, hnotices]
    exact hsignaled
  · have hc : (d.accounts i).health.chart.confirms outcome = false := by
      simp only [Chart.confirms, AccountHealth.chart, Bool.and_eq_false_iff, decide_eq_false_iff_not,
        Bool.not_eq_false']
      by_contra hne
      simp only [not_or, not_not, Bool.not_eq_false, Bool.not_eq_true] at hne
      exact hs ⟨hne.1.1, hne.1.2, by simp [hne.2]⟩
    obtain ⟨hchart, hnotices⟩ := Chart.refreshed_of_not_confirms _ hc
    rw [if_neg hs, hchart, hnotices]
    exact hnoted

theorem noteOwnCredentialRefresh_charted : Charted d (d.noteOwnCredentialRefresh i) i
    { (d.accounts i).health.chart with ownRefresh := true } [] :=
  (charted_refl d i).health (fun c => { c with ownRefresh := true }) (fun _ => rfl)

/-- A band that is signalled is signalled once. -/
theorem signalOnce_charted {state : ExpiryHorizon} (ha : Chart.actionable state = true)
    (deadline : Int) :
    Charted d
      (if (d.accounts i).health.signaledExpiryHorizon = some state then d
      else (d.setHealth i (fun h => { h with signaledExpiryHorizon := some state })).emit
        (.credentialExpiryHorizon (d.account i).accountUuid state deadline
          d.settings.credentialExpiryHorizonSecs)) i
      ((d.accounts i).health.chart.signal state)
      (if (d.accounts i).health.chart.signals state then
        [.horizon state deadline d.settings.credentialExpiryHorizonSecs] else []) := by
  have hrefl := charted_refl d i
  by_cases hs : (d.accounts i).health.signaledExpiryHorizon = some state
  · have hc : (d.accounts i).health.chart.signaledHorizon = some state := hs
    have hn : ¬ (d.accounts i).health.chart.signals state = true := by simp [Chart.signals, hc]
    rw [if_pos hs, Chart.signal_of_signaled _ ha hc, if_neg hn]
    exact hrefl
  · have hc : (d.accounts i).health.chart.signaledHorizon ≠ some state := hs
    have hn : (d.accounts i).health.chart.signals state = true := by simp [Chart.signals, ha, hc]
    rw [if_neg hs, Chart.signal_of_signals _ hn, if_pos hn]
    exact (hrefl.health (fun c => { c with signaledHorizon := some state }) (fun _ => rfl)).notice
      (.horizon state deadline d.settings.credentialExpiryHorizonSecs)

theorem noteExpiryHorizonEdge_charted (deadline nowSecs : Int) :
    Charted d (d.noteExpiryHorizonEdge i deadline nowSecs) i
      ((d.accounts i).health.chart.signal
        (horizonState (some deadline) d.settings.credentialExpiryHorizonSecs nowSecs))
      (if (d.accounts i).health.chart.signals
          (horizonState (some deadline) d.settings.credentialExpiryHorizonSecs nowSecs) then
        [.horizon (horizonState (some deadline) d.settings.credentialExpiryHorizonSecs nowSecs) deadline
          d.settings.credentialExpiryHorizonSecs] else []) := by
  have hrefl := charted_refl d i
  unfold noteExpiryHorizonEdge
  dsimp only
  cases horizonState (some deadline) d.settings.credentialExpiryHorizonSecs nowSecs with
  | unknown => exact hrefl
  | beyond => exact hrefl.health (fun c => { c with signaledHorizon := none }) (fun _ => rfl)
  | within => exact signalOnce_charted d i (rfl : Chart.actionable .within = true) deadline
  | lapsed => exact signalOnce_charted d i (rfl : Chart.actionable .lapsed = true) deadline

theorem foldExpiryObservation_charted (deadline : Int) (attribution : ExpiryAttribution)
    (nowSecs : Int) :
    Charted d (d.foldExpiryObservation i (some deadline) attribution nowSecs) i
      ((d.accounts i).health.chart.read d.settings deadline attribution.source nowSecs)
      ((d.accounts i).health.chart.readNotices d.settings deadline attribution.provenance
        attribution.grantReplaced nowSecs) := by
  have hfolded := (charted_refl d i).health
    (f := fun h =>
      { h with
        refreshTokenExpiresAtBaseline := some deadline
        refreshTokenExpiresAtBaselineSource := some attribution.source
        ownRefreshSinceExpiryObservation := false })
    (fun c =>
      { c with deadline := some deadline, source := some attribution.source, ownRefresh := false })
    (fun _ => rfl)
  unfold foldExpiryObservation Chart.readNotices emitIf
  dsimp only
  by_cases hr : (d.accounts i).health.refreshTokenExpiresAtBaseline ≠ some deadline ∨
      attribution.provenance = .canonicalRestash
  · have hb : (decide ((d.accounts i).health.refreshTokenExpiresAtBaseline ≠ some deadline) ||
        decide (attribution.provenance = .canonicalRestash)) = true := by
      simpa using hr
    have hc : (d.accounts i).health.chart.deadline ≠ some deadline ∨
        attribution.provenance = .canonicalRestash := hr
    have hobserved := hfolded.notice (.observed attribution.provenance
      (d.accounts i).health.refreshTokenExpiresAtBaseline deadline attribution.grantReplaced)
    have hedge := hobserved.trans (noteExpiryHorizonEdge_charted _ i deadline nowSecs)
    rw [hobserved.chart] at hedge
    rw [if_pos hb, if_pos hc]
    exact hedge
  · have hb : ¬ (decide ((d.accounts i).health.refreshTokenExpiresAtBaseline ≠ some deadline) ||
        decide (attribution.provenance = .canonicalRestash)) = true := by
      simpa using hr
    have hc : ¬ ((d.accounts i).health.chart.deadline ≠ some deadline ∨
        attribution.provenance = .canonicalRestash) := hr
    have hedge := hfolded.trans (noteExpiryHorizonEdge_charted _ i deadline nowSecs)
    rw [hfolded.chart] at hedge
    rw [if_neg hb, if_neg hc]
    exact hedge

theorem polledProvenance_chart (source : CredentialReadSource) :
    d.polledProvenance i source = (d.accounts i).health.chart.provenance source := rfl

/-- The account that is left, when it is. -/
def leftBehind (prev next : Option ℕ) : List (ℕ × Entry) :=
  match prev with
  | none => []
  | some i => if next = some i then [] else [(i, .probeDropped)]

theorem deactivateRecoveryProbe_clinic (prev next : Option ℕ) :
    (d.deactivateRecoveryProbe prev next).clinic =
      (leftBehind prev next).foldl Clinic.enter d.clinic := by
  have hkept : ∀ i, d.clinic.enter (i, .probeDropped) = d.clinic.setChart i
      (if (d.clinic.charts i).quarantined then { d.clinic.charts i with recoverySuccesses := 0 }
      else d.clinic.charts i) := by
    intro i
    exact Clinic.log_nil _ i
  unfold deactivateRecoveryProbe leftBehind
  cases prev with
  | none => rfl
  | some i =>
    dsimp only
    by_cases hnext : next = some i
    · rw [if_pos hnext, if_pos hnext]
      rfl
    · rw [if_neg hnext, if_neg hnext, List.foldl_cons, List.foldl_nil, hkept]
      by_cases hq : (d.accounts i).health.quarantined = true
      · have hc : (d.clinic.charts i).quarantined = true := hq
        rw [if_pos hc]
        by_cases hm : 0 < (d.accounts i).health.recoverySuccesses
        · rw [if_pos ⟨hq, hm⟩]
          exact setHealth_clinic d i _
        · have hzero : (d.clinic.charts i).recoverySuccesses = 0 := by
            exact Nat.eq_zero_of_not_pos hm
          have hsame : { d.clinic.charts i with recoverySuccesses := 0 } = d.clinic.charts i := by
            rw [← hzero]
          rw [if_neg (fun h => hm h.2), hsame, Clinic.setChart_self]
      · have hc : ¬ (d.clinic.charts i).quarantined = true := hq
        rw [if_neg (fun h => hq h.1), if_neg hc, Clinic.setChart_self]

section Entries

variable {d}

theorem Charted.enter {d' : Daemon} {x : ℕ × Entry}
    (h : Charted d d' x.1 ((d.accounts x.1).health.chart.enter d.settings x.2)
      ((d.accounts x.1).health.chart.notices d.settings x.2)) : d'.clinic = d.clinic.enter x := h

theorem liftQuarantine_clinic : (d.liftQuarantine i).clinic = d.clinic.enter (i, .lifted) :=
  Charted.enter (x := (i, .lifted)) (liftQuarantine_charted d i)

theorem notePollOutcome_clinic (result : Except Error Usage) :
    (d.notePollOutcome i result).clinic = d.clinic.enter (i, .polled result) :=
  Charted.enter (x := (i, .polled result)) (notePollOutcome_charted d i result)

theorem noteRefreshOutcome_clinic (outcome : RefreshEventOutcome) :
    (d.noteRefreshOutcome i outcome).clinic = d.clinic.enter (i, .refreshed outcome) :=
  Charted.enter (x := (i, .refreshed outcome)) (noteRefreshOutcome_charted d i outcome)

theorem noteOwnCredentialRefresh_clinic :
    (d.noteOwnCredentialRefresh i).clinic = d.clinic.enter (i, .ownRefreshed) :=
  Charted.enter (x := (i, .ownRefreshed)) (noteOwnCredentialRefresh_charted d i)

theorem notePolledExpiry_clinic (observed : Option Int) (source : CredentialReadSource)
    (nowSecs : Int) : (d.notePolledExpiry i observed source nowSecs).clinic =
      d.clinic.enter (i, .pollRead observed source nowSecs) := by
  apply Charted.enter (x := (i, .pollRead observed source nowSecs))
  cases observed with
  | none => exact charted_refl d i
  | some deadline =>
    exact foldExpiryObservation_charted d i deadline
      ⟨source, d.polledProvenance i source, none⟩ nowSecs

theorem noteRestashExpiry_clinic (observed : Option Int) (grantReplaced : Option Bool)
    (nowSecs : Int) : (d.noteRestashExpiry i observed grantReplaced nowSecs).clinic =
      d.clinic.enter (i, .restashRead observed grantReplaced nowSecs) := by
  apply Charted.enter (x := (i, .restashRead observed grantReplaced nowSecs))
  cases observed with
  | none => exact charted_refl d i
  | some deadline =>
    exact foldExpiryObservation_charted d i deadline
      ⟨.canonical, .canonicalRestash, grantReplaced⟩ nowSecs

end Entries

end Daemon

/-! ## Entries in a row -/

/-- The entries into the chart of one account. -/
def entriesOf (i : ℕ) (xs : List (ℕ × Entry)) : List Entry :=
  xs.filterMap (fun x => if x.1 = i then some x.2 else none)

/-- The notices about one account. -/
def noticesOf (i : ℕ) (log : List (ℕ × Notice)) : List Notice :=
  log.filterMap (fun x => if x.1 = i then some x.2 else none)

theorem entriesOf_append (i : ℕ) (xs ys : List (ℕ × Entry)) :
    entriesOf i (xs ++ ys) = entriesOf i xs ++ entriesOf i ys := List.filterMap_append

theorem noticesOf_append (i : ℕ) (xs ys : List (ℕ × Notice)) :
    noticesOf i (xs ++ ys) = noticesOf i xs ++ noticesOf i ys := List.filterMap_append

namespace Clinic

variable (c : Clinic)

/-- The notices that some entries give, each under its account. -/
def logged : Clinic → List (ℕ × Entry) → List (ℕ × Notice)
  | _, [] => []
  | c, x :: xs =>
    ((c.charts x.1).notices c.settings x.2).map (fun n => (x.1, n)) ++ logged (c.enter x) xs

theorem logged_append (xs ys : List (ℕ × Entry)) :
    c.logged (xs ++ ys) = c.logged xs ++ (xs.foldl Clinic.enter c).logged ys := by
  induction xs generalizing c with
  | nil => rfl
  | cons x xs ih => simp [logged, ih]

theorem foldl_settings (xs : List (ℕ × Entry)) : (xs.foldl Clinic.enter c).settings = c.settings := by
  induction xs generalizing c with
  | nil => rfl
  | cons x xs ih => exact ih (c.enter x)

theorem foldl_roster (xs : List (ℕ × Entry)) : (xs.foldl Clinic.enter c).roster = c.roster := by
  induction xs generalizing c with
  | nil => rfl
  | cons x xs ih => exact ih (c.enter x)

theorem foldl_events (xs : List (ℕ × Entry)) : (xs.foldl Clinic.enter c).events =
    c.events ++ (c.logged xs).map (fun x => x.2.event (c.account x.1)) := by
  induction xs generalizing c with
  | nil => simp [logged]
  | cons x xs ih =>
    rw [List.foldl_cons, ih]
    simp [logged, enter, log, setChart, account, Function.comp_def]

theorem enter_charts_of_ne {x : ℕ × Entry} {i : ℕ} (h : x.1 ≠ i) :
    (c.enter x).charts i = c.charts i := Function.update_of_ne (Ne.symm h) _ _

theorem enter_charts_self (i : ℕ) (e : Entry) :
    (c.enter (i, e)).charts i = (c.charts i).enter c.settings e := Function.update_self ..

theorem foldl_charts (xs : List (ℕ × Entry)) (i : ℕ) : (xs.foldl Clinic.enter c).charts i =
    (c.charts i).after c.settings (entriesOf i xs) := by
  induction xs generalizing c with
  | nil => rfl
  | cons x xs ih =>
    obtain ⟨j, e⟩ := x
    rw [List.foldl_cons, ih]
    by_cases hj : j = i
    · subst hj
      rw [enter_charts_self]
      simp [entriesOf, Chart.after, enter, log, setChart]
    · rw [enter_charts_of_ne c hj]
      simp [entriesOf, hj, enter, log, setChart]

theorem noticesOf_logged (xs : List (ℕ × Entry)) (i : ℕ) : noticesOf i (c.logged xs) =
    (c.charts i).course c.settings (entriesOf i xs) := by
  induction xs generalizing c with
  | nil => rfl
  | cons x xs ih =>
    obtain ⟨j, e⟩ := x
    have hsettings : (c.enter (j, e)).settings = c.settings := rfl
    rw [logged, noticesOf_append, ih, hsettings]
    by_cases hj : j = i
    · subst hj
      rw [enter_charts_self]
      simp [noticesOf, entriesOf, Chart.course]
    · rw [enter_charts_of_ne c hj]
      simp [noticesOf, entriesOf, hj]

end Clinic

theorem Chart.after_append (c : Chart) (s : Settings) (es es' : List Entry) :
    c.after s (es ++ es') = (c.after s es).after s es' := List.foldl_append

theorem Chart.course_append (s : Settings) (c : Chart) (es es' : List Entry) :
    c.course s (es ++ es') = c.course s es ++ (c.after s es).course s es' := by
  induction es generalizing c with
  | nil => rfl
  | cons e es ih => simp [course, after, ih]

end Sessiometer
