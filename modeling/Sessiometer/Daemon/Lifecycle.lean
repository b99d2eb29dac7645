import Mathlib.Data.List.TakeWhile
import Sessiometer.Daemon.Charts
import Sessiometer.Daemon.LockedSwap

/-! # The life of a quarantine

What happens to the accounts of a daemon, in any order: polls, sweeps, recovery probes, re-logins and
swaps. -/

namespace Sessiometer

open Effects Pacing

/-! ## One chart -/

def Notice.mark : Notice → Option Mark
  | .died => some .opening
  | .unrecoverable => some .notice
  | .restored => some .closing
  | _ => none

/-- The edges of the quarantine among some notices. -/
def quarantineEdges (ns : List Notice) : List Edge := ns.filterMap (fun n => n.mark.bind Mark.edge)

theorem quarantineEdges_eq (ns : List Notice) :
    (ns.filterMap Notice.mark).filterMap Mark.edge = quarantineEdges ns :=
  List.filterMap_filterMap ..

theorem marks_of_unrecoverable (before after : List Notice) :
    (before ++ .unrecoverable :: after).filterMap Notice.mark =
      before.filterMap Notice.mark ++ .notice :: after.filterMap Notice.mark :=
  List.filterMap_append

theorem died_mem_of_opening {ns : List Notice} (h : Mark.opening ∈ ns.filterMap Notice.mark) :
    Notice.died ∈ ns := by
  obtain ⟨n, hn, hmark⟩ := List.mem_filterMap.mp h
  cases n with
  | died => exact hn
  | _ => cases hmark

/-- The refreshes after the last live one. -/
def failuresSinceLive (outcomes : List RefreshEventOutcome) : ℕ :=
  (outcomes.reverse.takeWhile Daemon.failedRefresh).length

theorem failuresSinceLive_concat (outcomes : List RefreshEventOutcome) (o : RefreshEventOutcome) :
    failuresSinceLive (outcomes ++ [o]) =
      if Daemon.failedRefresh o then failuresSinceLive outcomes + 1 else 0 := by
  unfold failuresSinceLive
  rw [List.reverse_append, List.reverse_singleton, List.singleton_append, List.takeWhile_cons]
  by_cases ho : Daemon.failedRefresh o = true
  · simp [ho]
  · simp [ho]

/-- The 401s at the end of some polls. -/
def streak401 (polls : List PollOutcome) : ℕ :=
  (polls.reverse.takeWhile (fun p => decide (p = .unauthorized))).length

theorem streak401_concat (polls : List PollOutcome) (p : PollOutcome) :
    streak401 (polls ++ [p]) = if p = .unauthorized then streak401 polls + 1 else 0 := by
  unfold streak401
  rw [List.reverse_append, List.reverse_singleton, List.singleton_append, List.takeWhile_cons]
  by_cases hp : p = .unauthorized
  · simp [hp]
  · simp [hp]

/-- A streak ends the polls. -/
theorem replicate_suffix_of_streak {polls : List PollOutcome} {n : ℕ} (h : n ≤ streak401 polls) :
    List.replicate n .unauthorized <:+ polls := by
  have hrun : polls.reverse.takeWhile (fun p => decide (p = .unauthorized)) =
      List.replicate (streak401 polls) .unauthorized := by
    apply List.eq_replicate_of_mem
    intro p hp
    simpa using List.mem_takeWhile_imp hp
  have hfirst : List.replicate n PollOutcome.unauthorized <+: polls.reverse := by
    have hwhole : List.replicate (streak401 polls) PollOutcome.unauthorized <+: polls.reverse := by
      rw [← hrun]
      exact List.takeWhile_prefix _
    apply List.IsPrefix.trans _ hwhole
    exact List.prefix_replicate_iff.mpr ⟨by simpa using h, by simp⟩
  have hlast := List.reverse_suffix.mpr hfirst
  rwa [List.reverse_replicate, List.reverse_reverse] at hlast

theorem streak401_eq_zero_iff (polls : List PollOutcome) :
    streak401 polls = 0 ↔ polls.getLast? ≠ some .unauthorized := by
  induction polls using List.reverseRecOn with
  | nil => simp [streak401]
  | append_singleton polls p _ =>
    rw [streak401_concat, List.getLast?_concat]
    by_cases hp : p = .unauthorized
    · simp [hp]
    · simp [hp]

def Entry.outcome : Entry → Option RefreshEventOutcome
  | .refreshed outcome => some outcome
  | _ => none

def Entry.poll : Entry → Option PollOutcome
  | .polled result => some (classifyPoll result)
  | _ => none

namespace Chart

variable (c : Chart) (s : Settings)

/-- Where the chart stands in its quarantine. -/
def phase : Phase :=
  if c.quarantined then if c.unrecoverableSignaled then .noticed else .live else .idle

theorem isOpen_phase : c.phase.isOpen = c.quarantined := by
  unfold phase
  cases c.quarantined with
  | false => rfl
  | true => cases c.unrecoverableSignaled <;> rfl

theorem marks_unauthorized (n : ℕ) :
    Marks c.phase ((c.unauthorizedNotices n).filterMap Notice.mark) (c.unauthorized n).phase := by
  by_cases h : c.condemns n = true
  · have hq : c.quarantined = false := by
      simp only [condemns, Bool.and_eq_true, Bool.not_eq_true'] at h
      exact h.1
    obtain ⟨hchart, hnotices⟩ := unauthorized_of_condemns c h
    rw [hchart, hnotices]
    have hmarks : [Notice.unauthorized (saturatingAdd32 c.consec401 1), .died].filterMap
        Notice.mark = [.opening] := rfl
    have hidle : c.phase = .idle := by simp [phase, hq]
    rw [hmarks, hidle]
    exact marks_opening
  · obtain ⟨hchart, hnotices⟩ := unauthorized_of_not_condemns c (by simpa using h)
    rw [hchart, hnotices]
    have hsilent : (if c.quarantined then [] else
        [Notice.unauthorized (saturatingAdd32 c.consec401 1)]).filterMap Notice.mark = [] := by
      split <;> rfl
    rw [hsilent]
    exact .nil _

theorem marks_closes (hq : c.quarantined = true) {c' : Chart} (hq' : c'.quarantined = false) :
    Marks c.phase ([Notice.restored].filterMap Notice.mark) c'.phase := by
  have hidle : c'.phase = .idle := by simp [phase, hq']
  have hopen : c.phase.isOpen = true := by rw [isOpen_phase, hq]
  rw [hidle]
  exact marks_closing hopen

theorem marks_live (m : ℕ) :
    Marks c.phase ((if c.revives m then [Notice.restored] else []).filterMap Notice.mark)
      (c.live m).phase := by
  by_cases hr : c.revives m = true
  · have hq : c.quarantined = true := by
      simp only [revives, Bool.and_eq_true] at hr
      exact hr.1
    rw [if_pos hr, live_of_revives c hr]
    exact marks_closes c hq rfl
  · have hr' : c.revives m = false := by simpa using hr
    rw [if_neg hr]
    by_cases hq : c.quarantined = true
    · rw [live_of_quarantined c hr' hq]
      exact .nil _
    · obtain ⟨-, hlive⟩ := live_of_not_quarantined c m (by simpa using hq)
      rw [hlive]
      exact .nil _

theorem marks_refreshed (outcome : RefreshEventOutcome) :
    Marks c.phase ((c.refreshNotices outcome).filterMap Notice.mark) (c.refreshed outcome).phase := by
  by_cases h : c.confirms outcome = true
  · have hc := h
    simp only [confirms, Bool.and_eq_true, Bool.not_eq_true', decide_eq_true_eq] at hc
    obtain ⟨hchart, hnotices⟩ := refreshed_of_confirms c h
    rw [hchart, hnotices]
    have hlive : c.phase = .live := by simp [phase, hc.1.2, hc.2]
    have hnoticed : ({ c with unrecoverableSignaled := true } : Chart).phase = .noticed := by
      simp [phase, hc.1.2]
    rw [hlive]
    exact hnoticed ▸ marks_notice
  · obtain ⟨hchart, hnotices⟩ := refreshed_of_not_confirms c (by simpa using h)
    rw [hchart, hnotices]
    exact .nil _

theorem marks_lift : Marks c.phase (c.liftNotices.filterMap Notice.mark) c.lift.phase := by
  by_cases hq : c.quarantined = true
  · obtain ⟨hchart, hnotices⟩ := lift_of_quarantined c hq
    rw [hchart, hnotices]
    exact marks_closes c hq rfl
  · obtain ⟨hchart, hnotices⟩ := lift_of_not_quarantined c hq
    rw [hchart, hnotices]
    exact .nil _

theorem marks_polled (result : Except Error Usage) :
    Marks c.phase ((c.pollNotices s result).filterMap Notice.mark) (c.polled s result).phase := by
  unfold pollNotices polled
  cases classifyPoll result with
  | unauthorized => exact marks_unauthorized c s.monitor401N
  | live => exact marks_live c s.monitorRecoveryM
  | scopeMissing => exact .nil _
  | transient => exact .nil _

/-- The chart without what a reading of a deadline writes. -/
def vitals : Chart :=
  { c with deadline := none, source := none, ownRefresh := false, signaledHorizon := none }

theorem read_vitals (deadline : Int) (source : CredentialReadSource) (nowSecs : Int) :
    (c.read s deadline source nowSecs).vitals = c.vitals := by
  unfold read
  cases horizonState (some deadline) s.credentialExpiryHorizonSecs nowSecs <;> rfl

theorem marks_read (deadline : Int) (source : CredentialReadSource) (p : ExpiryProvenance)
    (g : Option Bool) (nowSecs : Int) :
    Marks c.phase ((c.readNotices s deadline p g nowSecs).filterMap Notice.mark)
      (c.read s deadline source nowSecs).phase := by
  have hsilent : (c.readNotices s deadline p g nowSecs).filterMap Notice.mark = [] := by
    unfold readNotices
    dsimp only
    rw [List.filterMap_append]
    have hobserved : (if c.deadline ≠ some deadline ∨ p = .canonicalRestash then
        [Notice.observed p c.deadline deadline g] else []).filterMap Notice.mark = [] := by
      split <;> rfl
    rw [hobserved]
    split <;> rfl
  have hvitals : (c.read s deadline source nowSecs).vitals.phase = c.vitals.phase := by
    rw [read_vitals]
  have hphase : (c.read s deadline source nowSecs).phase = c.phase := hvitals
  rw [hsilent, hphase]
  exact .nil _

/-- Each entry takes the marks of its notices from phase to phase. -/
theorem marks_enter (e : Entry) :
    Marks c.phase ((c.notices s e).filterMap Notice.mark) (c.enter s e).phase := by
  cases e with
  | polled result => exact marks_polled c s result
  | refreshed outcome => exact marks_refreshed c outcome
  | lifted => exact marks_lift c
  | probeDropped =>
    unfold enter notices
    dsimp only
    split
    · exact .nil _
    · exact .nil _
  | ownRefreshed => exact .nil _
  | pollRead observed source nowSecs =>
    cases observed with
    | none => exact .nil _
    | some deadline => exact marks_read c s deadline source _ none nowSecs
  | restashRead observed grantReplaced nowSecs =>
    cases observed with
    | none => exact .nil _
    | some deadline => exact marks_read c s deadline .canonical .canonicalRestash grantReplaced nowSecs

theorem marks_course (es : List Entry) :
    Marks c.phase ((c.course s es).filterMap Notice.mark) (c.after s es).phase := by
  induction es generalizing c with
  | nil => exact .nil _
  | cons e es ih =>
    rw [course, List.filterMap_append]
    exact (marks_enter c s e).append (ih (c.enter s e))

/-! ### The counters -/

/-- What an entry does to the counters, and what it takes to put an account under quarantine. -/
structure Counts (c c' : Chart) (n : ℕ) (poll : Option PollOutcome)
    (outcome : Option RefreshEventOutcome) : Prop where
  failures : c'.consecutiveRefreshFailures = outcome.elim c.consecutiveRefreshFailures
    (fun o => if Daemon.failedRefresh o then saturatingAdd32 c.consecutiveRefreshFailures 1 else 0)
  streak : c'.consec401 = poll.elim c.consec401
    (fun p => if p = .unauthorized then saturatingAdd32 c.consec401 1 else 0)
  condemned : c'.quarantined = true → c.quarantined = true ∨
    (poll = some .unauthorized ∧ n ≤ saturatingAdd32 c.consec401 1)

theorem counts_of_vitals {c c' : Chart} {n : ℕ} (h : c'.vitals = c.vitals) :
    Counts c c' n none none := by
  have hfailures : c'.vitals.consecutiveRefreshFailures = c.vitals.consecutiveRefreshFailures := by
    rw [h]
  have hstreak : c'.vitals.consec401 = c.vitals.consec401 := by rw [h]
  have hquarantined : c'.vitals.quarantined = c.vitals.quarantined := by rw [h]
  refine ⟨hfailures, hstreak, ?_⟩
  intro hq
  left
  exact hquarantined.symm.trans hq

theorem counts_unauthorized (n : ℕ) : Counts c (c.unauthorized n) n (some .unauthorized) none := by
  by_cases h : c.condemns n = true
  · have hn : n ≤ saturatingAdd32 c.consec401 1 := by
      simp only [condemns, Bool.and_eq_true, decide_eq_true_eq] at h
      exact h.2
    obtain ⟨hchart, -⟩ := unauthorized_of_condemns c h
    rw [hchart]
    exact ⟨rfl, rfl, fun _ => .inr ⟨rfl, hn⟩⟩
  · obtain ⟨hchart, -⟩ := unauthorized_of_not_condemns c (by simpa using h)
    rw [hchart]
    exact ⟨rfl, rfl, fun hq => .inl hq⟩

theorem counts_live (m n : ℕ) : Counts c (c.live m) n (some .live) none := by
  by_cases hr : c.revives m = true
  · rw [live_of_revives c hr]
    exact ⟨rfl, rfl, fun hq => by cases hq⟩
  · by_cases hq : c.quarantined = true
    · rw [live_of_quarantined c (by simpa using hr) hq]
      exact ⟨rfl, rfl, fun hq => .inl hq⟩
    · obtain ⟨-, hlive⟩ := live_of_not_quarantined c m (by simpa using hq)
      rw [hlive]
      exact ⟨rfl, rfl, fun hq => .inl hq⟩

theorem counts_polled (result : Except Error Usage) :
    Counts c (c.polled s result) s.monitor401N (some (classifyPoll result)) none := by
  unfold polled
  cases classifyPoll result with
  | unauthorized => exact counts_unauthorized c s.monitor401N
  | live => exact counts_live c s.monitorRecoveryM s.monitor401N
  | scopeMissing => exact ⟨rfl, rfl, fun hq => .inl hq⟩
  | transient => exact ⟨rfl, rfl, fun hq => .inl hq⟩

theorem counts_lift (n : ℕ) : Counts c c.lift n none none := by
  by_cases hq : c.quarantined = true
  · obtain ⟨hchart, -⟩ := lift_of_quarantined c hq
    rw [hchart]
    exact ⟨rfl, rfl, fun hq => by cases hq⟩
  · obtain ⟨hchart, -⟩ := lift_of_not_quarantined c hq
    rw [hchart]
    exact ⟨rfl, rfl, fun hq => .inl hq⟩

theorem counts_enter (e : Entry) :
    Counts c (c.enter s e) s.monitor401N e.poll e.outcome := by
  cases e with
  | polled result => exact counts_polled c s result
  | refreshed outcome => exact ⟨rfl, rfl, fun hq => .inl hq⟩
  | lifted => exact counts_lift c s.monitor401N
  | probeDropped =>
    unfold enter
    dsimp only
    split
    · exact ⟨rfl, rfl, fun hq => .inl hq⟩
    · exact counts_of_vitals rfl
  | ownRefreshed => exact counts_of_vitals rfl
  | pollRead observed source nowSecs =>
    cases observed with
    | none => exact counts_of_vitals rfl
    | some deadline => exact counts_of_vitals (read_vitals c s deadline source nowSecs)
  | restashRead observed grantReplaced nowSecs =>
    cases observed with
    | none => exact counts_of_vitals rfl
    | some deadline => exact counts_of_vitals (read_vitals c s deadline .canonical nowSecs)

theorem after_nil : c.after s [] = c := rfl

theorem after_concat (es : List Entry) (e : Entry) :
    c.after s (es ++ [e]) = (c.after s es).enter s e := by
  rw [after_append]
  rfl

/-- The failures of a chart are those since the last live refresh, in a `u32`. -/
theorem failures_after (hc : c.consecutiveRefreshFailures = 0) (es : List Entry) :
    (c.after s es).consecutiveRefreshFailures =
      min (failuresSinceLive (es.filterMap Entry.outcome)) u32Max := by
  induction es using List.reverseRecOn with
  | nil =>
    rw [after_nil, hc]
    rfl
  | append_singleton es e ih =>
    rw [after_concat, (counts_enter (c.after s es) s e).failures, ih, List.filterMap_append]
    cases ho : e.outcome with
    | none => simp [ho]
    | some o =>
      have hlast : [e].filterMap Entry.outcome = [o] := by simp [ho]
      rw [hlast, failuresSinceLive_concat]
      by_cases hf : Daemon.failedRefresh o = true
      · simp only [Option.elim_some, hf, if_true, saturatingAdd32]
        omega
      · simp [hf]

/-- So are the 401s of a chart those in a row, up to now. -/
theorem streak_after (hc : c.consec401 = 0) (es : List Entry) :
    (c.after s es).consec401 = min (streak401 (es.filterMap Entry.poll)) u32Max := by
  induction es using List.reverseRecOn with
  | nil =>
    rw [after_nil, hc]
    rfl
  | append_singleton es e ih =>
    rw [after_concat, (counts_enter (c.after s es) s e).streak, ih, List.filterMap_append]
    cases hp : e.poll with
    | none => simp [hp]
    | some p =>
      have hlast : [e].filterMap Entry.poll = [p] := by simp [hp]
      rw [hlast, streak401_concat]
      by_cases hu : p = .unauthorized
      · simp only [Option.elim_some, hu, if_true, saturatingAdd32]
        omega
      · simp [hu]

/-- From a streak of its own on, it takes `n` 401s in a row to condemn an account. -/
theorem condemned_after (hc : c.consec401 = 0) (hq : c.quarantined = false) (es : List Entry)
    (h : (c.after s es).quarantined = true) :
    List.replicate s.monitor401N .unauthorized <:+: es.filterMap Entry.poll := by
  induction es using List.reverseRecOn with
  | nil =>
    rw [after_nil, hq] at h
    cases h
  | append_singleton es e ih =>
    rw [after_concat] at h
    rw [List.filterMap_append]
    rcases (counts_enter (c.after s es) s e).condemned h with hbefore | ⟨hpoll, hn⟩
    · exact (ih hbefore).trans (List.prefix_append _ _).isInfix
    · have hlast : [e].filterMap Entry.poll = [.unauthorized] := by simp [hpoll]
      rw [hlast]
      apply List.IsSuffix.isInfix
      apply replicate_suffix_of_streak
      rw [streak401_concat, if_pos rfl]
      rw [streak_after c s hc es] at hn
      simp only [saturatingAdd32] at hn
      omega

/-- Nothing but a 401 condemns an account. -/
theorem not_condemned_after (hq : c.quarantined = false) (es : List Entry)
    (h : .unauthorized ∉ es.filterMap Entry.poll) : (c.after s es).quarantined = false := by
  induction es using List.reverseRecOn with
  | nil => exact hq
  | append_singleton es e ih =>
    rw [List.filterMap_append, List.mem_append, not_or] at h
    have hbefore := ih h.1
    rw [after_concat]
    by_contra hafter
    rcases (counts_enter (c.after s es) s e).condemned (by simpa using hafter) with hq' | ⟨hpoll, -⟩
    · rw [hbefore] at hq'
      cases hq'
    · apply h.2
      simp [hpoll]

end Chart

/-! ## The accounts of a daemon -/

section Accounts

variable [SerdeJson]

/-- What is folded into the health of an account: the result of a poll and the deadline read with it, a
refresh that the daemon drove for a poll or a mint, what a sweep reports, a recovery probe, a re-login
that was re-stashed, a swap, and the account that a change of the active one leaves. -/
inductive HealthOp where
  | polled (i : ℕ) (result : Except Error Usage)
  | expiryPolled (i : ℕ) (observed : Option Int) (source : CredentialReadSource) (nowSecs : Int)
  | ownRefreshed (i : ℕ)
  | restored (accountUuid : String)
  | observed (observation : RefreshObservation)
  | reprobed (i : ℕ) (outcome : RefreshEventOutcome) (expiresAtMs : Option Int)
  | relogged (i : ℕ) (canonical : Credential) (nowSecs : Int)
  | swapped (target : ℕ) (at' : Nanos)
  | left (prev next : Option ℕ)

namespace Daemon

variable (d : Daemon)

def applyHealth : HealthOp → Daemon
  | .polled i result => d.notePollOutcome i result
  | .expiryPolled i observed source nowSecs => d.notePolledExpiry i observed source nowSecs
  | .ownRefreshed i => d.noteOwnCredentialRefresh i
  | .restored accountUuid => d.applyRefreshRestore accountUuid
  | .observed observation => d.applyRefreshObservation observation
  | .reprobed i outcome expiresAtMs => d.foldRecoveryOutcome i outcome expiresAtMs
  | .relogged i canonical nowSecs => d.restashed i canonical nowSecs
  | .swapped target at' => d.swapRecorded target at'
  | .left prev next => d.deactivateRecoveryProbe prev next

/-- The daemon after some of it, in this order. -/
def runHealth (ops : List HealthOp) : Daemon := ops.foldl applyHealth d

/-- The lift of a restore that names an account. -/
def restoreEntries (accountUuid : String) : List (ℕ × Entry) :=
  ((rosterPosition d.roster accountUuid).map (·, Entry.lifted)).toList

/-- What a sweep's observation of an account tells of its refresh. -/
def observationEntries (observation : RefreshObservation) : List (ℕ × Entry) :=
  match rosterPosition d.roster observation.accountUuid, observation.refresh with
  | some i, some outcome => [(i, .refreshed outcome)]
  | _, _ => []

/-- The charts that an operation writes, and how. -/
def healthEntries : HealthOp → List (ℕ × Entry)
  | .polled i result => [(i, .polled result)]
  | .expiryPolled i observed source nowSecs => [(i, .pollRead observed source nowSecs)]
  | .ownRefreshed i => [(i, .ownRefreshed)]
  | .restored accountUuid => d.restoreEntries accountUuid
  | .observed observation => d.observationEntries observation
  | .reprobed i outcome _ =>
    (i, .refreshed outcome) ::
      if outcome = .dead then [] else d.restoreEntries (d.account i).accountUuid
  | .relogged i canonical nowSecs =>
    (i, .restashRead ((refreshTokenExpiresAt canonical.blob).map millisToSecs)
      (d.grantReplaced canonical) nowSecs) :: (i, .lifted) :: leftBehind d.active (some i)
  | .swapped _ _ => []
  | .left prev next => leftBehind prev next

/-- The entries of a run, in order. -/
def healthHistory : Daemon → List HealthOp → List (ℕ × Entry)
  | _, [] => []
  | d, op :: ops => d.healthEntries op ++ (d.applyHealth op).healthHistory ops

/-- The notices of a run, each under the account it is about. -/
def healthLog (ops : List HealthOp) : List (ℕ × Notice) := d.clinic.logged (d.healthHistory ops)

variable {d}

theorem healthHistory_append (ops ops' : List HealthOp) : d.healthHistory (ops ++ ops') =
    d.healthHistory ops ++ (d.runHealth ops).healthHistory ops' := by
  induction ops generalizing d with
  | nil => rfl
  | cons op ops ih => simp [healthHistory, runHealth, ih]

theorem runHealth_append (ops ops' : List HealthOp) :
    d.runHealth (ops ++ ops') = (d.runHealth ops).runHealth ops' := List.foldl_append

omit [SerdeJson] in
theorem applyRefreshRestore_clinic (accountUuid : String) :
    (d.applyRefreshRestore accountUuid).clinic =
      (d.restoreEntries accountUuid).foldl Clinic.enter d.clinic := by
  unfold applyRefreshRestore restoreEntries
  cases rosterPosition d.roster accountUuid with
  | none => rfl
  | some i => exact liftQuarantine_clinic i

omit [SerdeJson] in
theorem noteRefreshOutcome_roster (i : ℕ) (outcome : RefreshEventOutcome) :
    (d.noteRefreshOutcome i outcome).roster = d.roster :=
  roster_of_latches (noteRefreshOutcome_latches d i outcome)

omit [SerdeJson] in
theorem restoreEntries_congr {d' : Daemon} (h : d'.roster = d.roster) (accountUuid : String) :
    d'.restoreEntries accountUuid = d.restoreEntries accountUuid := by
  unfold restoreEntries
  rw [h]

omit [SerdeJson] in
/-- The access deadline is not on the chart. -/
theorem setAccessExpiresAt_clinic (i : ℕ) (at' : Option Int) :
    (d.setHealth i (fun h => { h with accessExpiresAt := at' })).clinic = d.clinic :=
  setAccount_clinic d i (fun _ => rfl)

omit [SerdeJson] in
theorem applyRefreshObservation_clinic (observation : RefreshObservation) :
    (d.applyRefreshObservation observation).clinic =
      (d.observationEntries observation).foldl Clinic.enter d.clinic := by
  unfold applyRefreshObservation observationEntries
  cases rosterPosition d.roster observation.accountUuid with
  | none => rfl
  | some i =>
    have hfolded := setAccessExpiresAt_clinic (d := d) i (observation.expiresAtMs.map millisToSecs)
    cases observation.refresh with
    | none => exact hfolded
    | some outcome =>
      dsimp only
      rw [noteRefreshOutcome_clinic, hfolded]
      rfl

omit [SerdeJson] in
theorem foldRecoveryOutcome_clinic (i : ℕ) (outcome : RefreshEventOutcome) (expiresAtMs : Option Int) :
    (d.foldRecoveryOutcome i outcome expiresAtMs).clinic =
      ((i, Entry.refreshed outcome) ::
        if outcome = .dead then [] else d.restoreEntries (d.account i).accountUuid).foldl
          Clinic.enter d.clinic := by
  have hfolded : ∀ d' : Daemon, d'.roster = d.roster →
      d'.clinic = d.clinic.enter (i, .refreshed outcome) →
      (if outcome = .dead then d' else d'.applyRefreshRestore (d.account i).accountUuid).clinic =
        ((i, Entry.refreshed outcome) ::
          if outcome = .dead then [] else d.restoreEntries (d.account i).accountUuid).foldl
            Clinic.enter d.clinic := by
    intro d' hroster hclinic
    by_cases hdead : outcome = .dead
    · rw [if_pos hdead, if_pos hdead]
      exact hclinic
    · rw [if_neg hdead, if_neg hdead, applyRefreshRestore_clinic, hclinic,
        restoreEntries_congr hroster]
      rfl
  have hnoted := noteRefreshOutcome_clinic (d := d) i outcome
  have hroster := noteRefreshOutcome_roster (d := d) i outcome
  unfold foldRecoveryOutcome
  cases expiresAtMs with
  | none => exact hfolded _ hroster hnoted
  | some ms =>
    apply hfolded
    · exact hroster
    · rw [setAccessExpiresAt_clinic]
      exact hnoted

theorem restashed_clinic (i : ℕ) (canonical : Credential) (nowSecs : Int) :
    (d.restashed i canonical nowSecs).clinic =
      (d.healthEntries (.relogged i canonical nowSecs)).foldl Clinic.enter d.clinic := by
  have hcleared : ∀ d : Daemon, (d.commitCanonical canonical).dropActive.clinic = d.clinic :=
    fun _ => rfl
  let noted := (d.emit (.reStash (d.account i).label)).noteRestashExpiry i
    ((refreshTokenExpiresAt canonical.blob).map millisToSecs) (d.grantReplaced canonical) nowSecs
  have hlatches : (noted.liftQuarantine i).latches = d.latches := by
    rw [liftQuarantine_latches, noteRestashExpiry_latches, emit_latches _ rfl]
  unfold restashed healthEntries
  dsimp only
  rw [hcleared, deactivateRecoveryProbe_clinic, active_of_latches hlatches, liftQuarantine_clinic,
    noteRestashExpiry_clinic, emit_clinic _ rfl]
  rfl

theorem applyHealth_clinic (op : HealthOp) :
    (d.applyHealth op).clinic = (d.healthEntries op).foldl Clinic.enter d.clinic := by
  cases op with
  | polled i result => exact notePollOutcome_clinic i result
  | expiryPolled i observed source nowSecs => exact notePolledExpiry_clinic i observed source nowSecs
  | ownRefreshed i => exact noteOwnCredentialRefresh_clinic i
  | restored accountUuid => exact applyRefreshRestore_clinic accountUuid
  | observed observation => exact applyRefreshObservation_clinic observation
  | reprobed i outcome expiresAtMs => exact foldRecoveryOutcome_clinic i outcome expiresAtMs
  | relogged i canonical nowSecs => exact restashed_clinic i canonical nowSecs
  | swapped target at' =>
    exact setAccount_clinic ({ d with active := some target } : Daemon).invalidatePollSchedule target
      (f := fun a => { a with parkedLanding := none }) (fun _ => rfl)
  | left prev next => exact deactivateRecoveryProbe_clinic d prev next

/-- A run of operations makes its entries, in order. -/
theorem runHealth_clinic (ops : List HealthOp) :
    (d.runHealth ops).clinic = (d.healthHistory ops).foldl Clinic.enter d.clinic := by
  induction ops generalizing d with
  | nil => rfl
  | cons op ops ih =>
    unfold runHealth at ih ⊢
    rw [List.foldl_cons, ih, applyHealth_clinic, healthHistory, List.foldl_append]

theorem runHealth_roster (ops : List HealthOp) : (d.runHealth ops).roster = d.roster := by
  have hroster := congrArg Clinic.roster (runHealth_clinic (d := d) ops)
  rw [Clinic.foldl_roster] at hroster
  exact hroster

theorem runHealth_settings (ops : List HealthOp) : (d.runHealth ops).settings = d.settings := by
  have hsettings := congrArg Clinic.settings (runHealth_clinic (d := d) ops)
  rw [Clinic.foldl_settings] at hsettings
  exact hsettings

theorem runHealth_chart (ops : List HealthOp) (i : ℕ) :
    ((d.runHealth ops).accounts i).health.chart =
      (d.accounts i).health.chart.after d.settings (entriesOf i (d.healthHistory ops)) := by
  have hcharts := congrFun (congrArg Clinic.charts (runHealth_clinic (d := d) ops)) i
  rw [Clinic.foldl_charts] at hcharts
  exact hcharts

theorem noticesOf_healthLog (ops : List HealthOp) (i : ℕ) : noticesOf i (d.healthLog ops) =
    (d.accounts i).health.chart.course d.settings (entriesOf i (d.healthHistory ops)) :=
  Clinic.noticesOf_logged ..

/-- The log is what the run emits. -/
theorem runHealth_events (ops : List HealthOp) : (d.runHealth ops).events.filter Event.isHealth =
    d.events.filter Event.isHealth ++
      (d.healthLog ops).map (fun x => x.2.event (d.account x.1)) := by
  have hevents := congrArg Clinic.events (runHealth_clinic (d := d) ops)
  rw [Clinic.foldl_events] at hevents
  exact hevents

/-! ### The quarantine brackets -/

/-- A daemon none of whose accounts has a history. -/
def Fresh (d : Daemon) : Prop := ∀ i, (d.accounts i).health = {}

/-- The refresh outcomes of an account, in order. -/
def outcomesOf (d : Daemon) (i : ℕ) (ops : List HealthOp) : List RefreshEventOutcome :=
  (entriesOf i (d.healthHistory ops)).filterMap Entry.outcome

omit [SerdeJson] in
theorem chart_of_fresh (hfresh : d.Fresh) (i : ℕ) : (d.accounts i).health.chart = {} := by
  rw [hfresh i]
  rfl

theorem runHealth_failures (hfresh : d.Fresh) (i : ℕ) (ops : List HealthOp) :
    ((d.runHealth ops).accounts i).health.consecutiveRefreshFailures =
      min (failuresSinceLive (d.outcomesOf i ops)) u32Max := by
  have hafter := d.runHealth_chart ops i
  have hfailures := Chart.failures_after ({} : Chart) d.settings rfl
    (entriesOf i (d.healthHistory ops))
  rw [chart_of_fresh hfresh] at hafter
  rw [← hafter] at hfailures
  exact hfailures

end Daemon

/-- Over every run, the quarantine of an account opens and closes in turn, it is confirmed beyond
recovery at most once and only while it is open, and the failed refreshes are counted from the last
live one on, up to the largest `u32`. -/
theorem quarantine_brackets (d : Daemon) (ops : List HealthOp) (i : ℕ) (hfresh : d.Fresh) :
    let d' := d.runHealth ops
    let log := noticesOf i (d.healthLog ops)
    d'.events.filter Event.isHealth = d.events.filter Event.isHealth ++
      (d.healthLog ops).map (fun x => x.2.event (d.account x.1)) ∧
    Brackets false (quarantineEdges log) (d'.accounts i).health.quarantined ∧
    (∀ before after, log = before ++ .unrecoverable :: after →
      Brackets false (quarantineEdges before) true) ∧
    (∀ before between after,
      log = before ++ .unrecoverable :: (between ++ .unrecoverable :: after) → .died ∈ between) ∧
    (d'.accounts i).health.consecutiveRefreshFailures =
      min (failuresSinceLive (d.outcomesOf i ops)) u32Max := by
  intro d' log
  have hmarks := Chart.marks_course ({} : Chart) d.settings (entriesOf i (d.healthHistory ops))
  have hafter := d.runHealth_chart ops i
  have hlog := d.noticesOf_healthLog ops i
  rw [Daemon.chart_of_fresh hfresh] at hafter hlog
  rw [← hafter, ← hlog] at hmarks
  have hbrackets := hmarks.brackets
  rw [Chart.isOpen_phase, Chart.isOpen_phase, quarantineEdges_eq] at hbrackets
  refine ⟨d.runHealth_events ops, hbrackets, ?_, ?_, Daemon.runHealth_failures hfresh i ops⟩
  · intro before after hsplit
    change Marks _ (log.filterMap Notice.mark) _ at hmarks
    rw [hsplit, marks_of_unrecoverable] at hmarks
    have hopen := hmarks.notice_open
    rw [quarantineEdges_eq] at hopen
    exact hopen
  · intro before between after hsplit
    change Marks _ (log.filterMap Notice.mark) _ at hmarks
    rw [hsplit, marks_of_unrecoverable, marks_of_unrecoverable] at hmarks
    exact died_mem_of_opening hmarks.notice_once

/-! ### The streak of a restored account -/

/-- The outcomes of an account's polls, in order. -/
def pollsOf (i : ℕ) (ops : List HealthOp) : List PollOutcome :=
  ops.filterMap fun
    | .polled j result => if j = i then some (classifyPoll result) else none
    | _ => none

namespace Daemon

/-- Every engine that may retry a poll is wired. -/
def wired (d : Daemon) : Daemon :=
  { d with settings := { d.settings with pollRefresh := true, keepWarm := true } }

/-- A 401 of the account earns it the one retry. -/
def EarnsRetry (d : Daemon) (i : ℕ) : Prop :=
  d.wired.shouldRefreshRetry i (.error .usageUnauthorized) = true ∨
    d.wired.shouldKeepWarmRetry i (.error .usageUnauthorized) = true

/-- The account has a streak of its own before it: as many 401s in a row as it takes, from now on, to
put it under quarantine, and the first of them earns the retry. -/
def StartsFresh (d : Daemon) (i : ℕ) : Prop :=
  (∀ ops, ((d.runHealth ops).accounts i).health.quarantined = true →
    List.replicate d.settings.monitor401N .unauthorized <:+: pollsOf i ops) ∧
  ∀ ops, .unauthorized ∉ pollsOf i ops → (d.runHealth ops).EarnsRetry i

/-- The operation ends the quarantine of the account. -/
def Clears (d : Daemon) (op : HealthOp) (i : ℕ) : Prop :=
  (d.accounts i).health.quarantined = true ∧
    ((d.applyHealth op).accounts i).health.quarantined = false

omit [SerdeJson] in
theorem polls_restoreEntries (d : Daemon) (accountUuid : String) (i : ℕ) :
    (entriesOf i (d.restoreEntries accountUuid)).filterMap Entry.poll = [] := by
  unfold restoreEntries
  cases rosterPosition d.roster accountUuid with
  | none => rfl
  | some j =>
    by_cases hj : j = i
    · simp [entriesOf, hj, Entry.poll]
    · simp [entriesOf, hj]

theorem polls_healthEntries (d : Daemon) (op : HealthOp) (i : ℕ) :
    (entriesOf i (d.healthEntries op)).filterMap Entry.poll = pollsOf i [op] := by
  have hleft : ∀ prev next, (entriesOf i (leftBehind prev next)).filterMap Entry.poll = [] := by
    intro prev next
    unfold leftBehind
    cases prev with
    | none => rfl
    | some j =>
      by_cases hnext : next = some j
      · simp [entriesOf, hnext]
      · by_cases hj : j = i
        · simp [entriesOf, hj, Entry.poll]
        · simp [entriesOf, hnext, hj]
  have hcons : ∀ (j : ℕ) (e : Entry) (xs : List (ℕ × Entry)), e.poll = none →
      (entriesOf i ((j, e) :: xs)).filterMap Entry.poll = (entriesOf i xs).filterMap Entry.poll := by
    intro j e xs he
    by_cases hj : j = i
    · simp [entriesOf, hj, he]
    · simp [entriesOf, hj]
  cases op with
  | polled j result =>
    by_cases hj : j = i
    · simp [healthEntries, entriesOf, pollsOf, hj, Entry.poll]
    · simp [healthEntries, entriesOf, pollsOf, hj]
  | expiryPolled j observed source nowSecs => exact hcons j _ [] rfl
  | ownRefreshed j => exact hcons j _ [] rfl
  | restored accountUuid => exact polls_restoreEntries d accountUuid i
  | observed observation =>
    have hobservation : (entriesOf i (d.observationEntries observation)).filterMap Entry.poll = [] := by
      unfold observationEntries
      split
      · exact hcons _ _ [] rfl
      · rfl
    exact hobservation
  | reprobed j outcome expiresAtMs =>
    unfold healthEntries
    dsimp only
    rw [hcons j _ _ rfl]
    split
    · rfl
    · exact polls_restoreEntries d _ i
  | relogged j canonical nowSecs =>
    unfold healthEntries
    dsimp only
    rw [hcons j _ _ rfl, hcons j _ _ rfl, hleft]
    rfl
  | swapped target at' => rfl
  | left prev next => exact hleft prev next

theorem polls_healthHistory (d : Daemon) (ops : List HealthOp) (i : ℕ) :
    (entriesOf i (d.healthHistory ops)).filterMap Entry.poll = pollsOf i ops := by
  induction ops generalizing d with
  | nil => rfl
  | cons op ops ih =>
    have hsplit : pollsOf i (op :: ops) = pollsOf i [op] ++ pollsOf i ops := by
      rw [← List.singleton_append]
      exact List.filterMap_append
    rw [healthHistory, entriesOf_append, List.filterMap_append, polls_healthEntries, ih, hsplit]

variable {d : Daemon} {i : ℕ}

omit [SerdeJson] in
/-- The retry is earned by an account that is neither quarantined nor in a streak. -/
theorem earnsRetry_iff : d.EarnsRetry i ↔
    (d.accounts i).health.quarantined = false ∧ (d.accounts i).health.consec401 = 0 := by
  unfold EarnsRetry shouldRefreshRetry shouldKeepWarmRetry firstUnauthorized
  by_cases ha : d.active = some i
  · simp [wired, classifyPoll, ha]
  · simp [wired, classifyPoll, ha]
    intro _
    exact decide_eq_true_iff

theorem startsFresh_of_streak (hq : (d.accounts i).health.quarantined = false)
    (hs : (d.accounts i).health.consec401 = 0) : d.StartsFresh i := by
  constructor
  · intro ops h
    have hchart := d.runHealth_chart ops i
    have hcondemned : ((d.accounts i).health.chart.after d.settings
        (entriesOf i (d.healthHistory ops))).quarantined = true := by
      rw [← hchart]
      exact h
    rw [← d.polls_healthHistory]
    exact Chart.condemned_after _ _ hs hq _ hcondemned
  · intro ops h
    have hchart := d.runHealth_chart ops i
    rw [← d.polls_healthHistory] at h
    have hlive := Chart.not_condemned_after (d.accounts i).health.chart d.settings hq _ h
    have hstreak := Chart.streak_after (d.accounts i).health.chart d.settings hs
      (entriesOf i (d.healthHistory ops))
    have hzero : streak401 ((entriesOf i (d.healthHistory ops)).filterMap Entry.poll) = 0 := by
      rw [streak401_eq_zero_iff]
      intro hlast
      exact h (List.mem_of_getLast? hlast)
    rw [← hchart] at hlive hstreak
    rw [hzero, Nat.zero_min] at hstreak
    exact earnsRetry_iff.mpr ⟨hlive, hstreak⟩

end Daemon

/-- Over every run, an account whose quarantine ends starts afresh exactly when its last poll was not a
401. -/
theorem restored_starts_fresh (d : Daemon) (ops : List HealthOp) (op : HealthOp) (i : ℕ)
    (hfresh : d.Fresh) (hclears : (d.runHealth ops).Clears op i) :
    (d.runHealth (ops ++ [op])).StartsFresh i ↔
      (pollsOf i (ops ++ [op])).getLast? ≠ some .unauthorized := by
  have hcleared : ((d.runHealth (ops ++ [op])).accounts i).health.quarantined = false := by
    rw [Daemon.runHealth_append]
    exact hclears.2
  have hchart := d.runHealth_chart (ops ++ [op]) i
  rw [Daemon.chart_of_fresh hfresh] at hchart
  have hstreak := Chart.streak_after {} d.settings rfl (entriesOf i (d.healthHistory (ops ++ [op])))
  rw [← hchart, d.polls_healthHistory] at hstreak
  have hzero : ((d.runHealth (ops ++ [op])).accounts i).health.consec401 = 0 ↔
      streak401 (pollsOf i (ops ++ [op])) = 0 := by
    have hmax : (0 : ℕ) < u32Max := by decide
    rw [show ((d.runHealth (ops ++ [op])).accounts i).health.consec401 = _ from hstreak]
    omega
  rw [← streak401_eq_zero_iff, ← hzero]
  constructor
  · intro h
    have hearns := h.2 [] (by simp [pollsOf])
    exact (Daemon.earnsRetry_iff.mp hearns).2
  · exact Daemon.startsFresh_of_streak hcleared

end Accounts

section Sample

local instance lifecycleJson : SerdeJson := sampleJson

/-- A sweep whose refresh of the first account could not run. -/
def failedObservation : HealthOp := .observed ⟨"A", none, some .error⟩

theorem outcomesOf_failedObservation (n : ℕ) {d : Daemon} (h : d.roster = startedDaemon.roster) :
    d.outcomesOf 0 (List.replicate n failedObservation) = List.replicate n .error := by
  induction n generalizing d with
  | zero => rfl
  | succ n ih =>
    have hentries : d.healthEntries failedObservation = [(0, .refreshed .error)] := by
      have hposition : rosterPosition d.roster "A" = some 0 := by
        rw [h]
        decide
      unfold Daemon.healthEntries failedObservation Daemon.observationEntries
      dsimp only
      rw [hposition]
    have hnext := ih (d := d.applyHealth failedObservation)
      ((Daemon.runHealth_roster [failedObservation]).trans h)
    unfold Daemon.outcomesOf at hnext ⊢
    rw [List.replicate_succ, Daemon.healthHistory, entriesOf_append, hentries, List.filterMap_append,
      hnext]
    rfl

theorem failuresSinceLive_replicate (n : ℕ) :
    failuresSinceLive (List.replicate n RefreshEventOutcome.error) = n := by
  unfold failuresSinceLive
  rw [List.reverse_replicate, List.takeWhile_replicate]
  exact List.length_replicate

theorem startedDaemon_fresh : startedDaemon.Fresh := fun _ => rfl

theorem failures_of_failedObservations (n : ℕ) :
    ((startedDaemon.runHealth (List.replicate n failedObservation)).accounts
      0).health.consecutiveRefreshFailures = min n u32Max := by
  rw [Daemon.runHealth_failures startedDaemon_fresh, outcomesOf_failedObservation n rfl,
    failuresSinceLive_replicate]

/-- One failure more than a `u32` holds. -/
theorem refresh_failures_overflow :
    ((startedDaemon.runHealth (List.replicate 4294967296 failedObservation)).accounts
      0).health.consecutiveRefreshFailures ≠
    failuresSinceLive
      (startedDaemon.outcomesOf 0 (List.replicate 4294967296 failedObservation)) := by
  rw [failures_of_failedObservations, outcomesOf_failedObservation _ rfl,
    failuresSinceLive_replicate]
  decide

def unauthorizedPoll : HealthOp := .polled 0 (.error .usageUnauthorized)

/-- Three 401s, which put the account under quarantine. -/
def condemned : List HealthOp := List.replicate 3 unauthorizedPoll

/-- A dead refresh, which confirms the quarantine, and a restore, which ends it. -/
def confirmed : List HealthOp :=
  condemned ++ [.observed ⟨"A", none, some .dead⟩, .restored "A"]

theorem quarantine_brackets_confirmed :
    (noticesOf 0 (startedDaemon.healthLog confirmed)).filterMap Notice.mark =
      [.opening, .notice, .closing] ∧
    Brackets false (quarantineEdges (noticesOf 0 (startedDaemon.healthLog confirmed)))
      ((startedDaemon.runHealth confirmed).accounts 0).health.quarantined :=
  ⟨by decide, (quarantine_brackets startedDaemon confirmed 0 startedDaemon_fresh).2.1⟩

/-- A restored account whose last poll was a 401: the next one puts it back under quarantine. -/
theorem restored_in_streak :
    startedDaemon.Fresh ∧ (startedDaemon.runHealth condemned).Clears (.restored "A") 0 ∧
    ¬ (startedDaemon.runHealth (condemned ++ [.restored "A"])).StartsFresh 0 := by
  refine ⟨startedDaemon_fresh, ⟨by decide, by decide⟩, ?_⟩
  intro h
  have hbenched := h.1 [unauthorizedPoll] (by decide)
  have hlength := hbenched.length_le
  simp only [List.length_replicate] at hlength
  revert hlength
  decide

/-- Restored after a poll that failed otherwise, it starts afresh. -/
theorem restored_starts_fresh_transient :
    (startedDaemon.runHealth ((condemned ++ [.polled 0 (.error (.usageTransient none))]) ++
      [.restored "A"])).StartsFresh 0 := by
  have hclears : (startedDaemon.runHealth (condemned ++
      [.polled 0 (.error (.usageTransient none))])).Clears (.restored "A") 0 :=
    ⟨by decide, by decide⟩
  exact (restored_starts_fresh startedDaemon _ _ 0 startedDaemon_fresh hclears).mpr (by decide)

end Sample

end Sessiometer
