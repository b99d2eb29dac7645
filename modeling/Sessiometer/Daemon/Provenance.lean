import Sessiometer.Daemon.Lifecycle

/-! # Where a deadline comes from

What the history of an account says of a deadline that a poll reads: whether it is news, who may have
moved it, and which band of the horizon it enters. -/

namespace Sessiometer

open Effects

/-- A deadline that was read, the item it was read from, and where it stood at that time. -/
structure Reading where
  deadline : Int
  source : CredentialReadSource
  band : ExpiryHorizon
deriving DecidableEq

def Entry.reading (s : Settings) : Entry → Option Reading
  | .pollRead (some deadline) source nowSecs =>
    some ⟨deadline, source, horizonState (some deadline) s.credentialExpiryHorizonSecs nowSecs⟩
  | .restashRead (some deadline) _ nowSecs =>
    some ⟨deadline, .canonical, horizonState (some deadline) s.credentialExpiryHorizonSecs nowSecs⟩
  | _ => none

/-- A refresh that the daemon drove, whatever came of it. -/
def Entry.drivesRefresh : Entry → Bool
  | .refreshed _ => true
  | .ownRefreshed => true
  | _ => false

section History

variable (s : Settings)

/-- The readings of a history, in order. -/
def readings (es : List Entry) : List Reading := es.filterMap (Entry.reading s)

def lastReading (es : List Entry) : Option Reading := (readings s es).getLast?

/-- Whether the daemon drove a refresh after the last reading. -/
def refreshedSince (es : List Entry) : Bool :=
  (es.reverse.takeWhile (fun e => (e.reading s).isNone)).any Entry.drivesRefresh

/-- The tag that a history dictates for a deadline that has moved. -/
def dictated (es : List Entry) (source : CredentialReadSource) : ExpiryProvenance :=
  match lastReading s es with
  | none => .firstObservation
  | some last =>
    if refreshedSince s es then .myRefresh
    else if last.source ≠ source then .readSourceSwitched
    else .externalChange

/-- The bands that are entered: those that are signalled, read after another band or none. -/
def enteredBands : Option ExpiryHorizon → List ExpiryHorizon → List ExpiryHorizon
  | _, [] => []
  | last, band :: bands =>
    (if Chart.actionable band ∧ last ≠ some band then [band] else []) ++ enteredBands (some band) bands

theorem lastReading_concat (es : List Entry) (e : Entry) :
    lastReading s (es ++ [e]) = (e.reading s).or (lastReading s es) := by
  unfold lastReading readings
  rw [List.filterMap_append]
  cases h : e.reading s with
  | none => simp [h]
  | some r => simp [h]

theorem refreshedSince_concat (es : List Entry) (e : Entry) :
    refreshedSince s (es ++ [e]) =
      (e.reading s).elim (e.drivesRefresh || refreshedSince s es) (fun _ => false) := by
  unfold refreshedSince
  rw [List.reverse_append, List.reverse_singleton, List.singleton_append, List.takeWhile_cons]
  cases h : e.reading s with
  | none => simp
  | some r => simp

end History

/-- A deadline that is there stands in a band. -/
theorem horizonState_ne_unknown (deadline : Int) (horizonSecs : ℕ) (nowSecs : Int) :
    horizonState (some deadline) horizonSecs nowSecs ≠ .unknown := by
  unfold horizonState
  dsimp only
  split
  · simp
  · split
    · simp
    · simp

theorem band_ne_unknown {s : Settings} {es : List Entry} {r : Reading} (h : r ∈ readings s es) :
    r.band ≠ .unknown := by
  obtain ⟨e, -, he⟩ := List.mem_filterMap.mp h
  cases e with
  | pollRead observed source nowSecs =>
    cases observed with
    | none => cases he
    | some deadline =>
      cases he
      exact horizonState_ne_unknown _ _ _
  | restashRead observed grantReplaced nowSecs =>
    cases observed with
    | none => cases he
    | some deadline =>
      cases he
      exact horizonState_ne_unknown _ _ _
  | _ => cases he

def Notice.band : Notice → Option ExpiryHorizon
  | .horizon state _ _ => some state
  | _ => none

namespace Chart

variable (c : Chart) (s : Settings)

/-- The latch after a reading in a band. -/
def latched (band : ExpiryHorizon) : Option ExpiryHorizon :=
  if actionable band then some band else none

/-- The chart without what polls and refreshes count. -/
def track : Chart :=
  { c with
    consec401 := 0
    quarantined := false
    recoverySuccesses := 0
    unrecoverableSignaled := false
    consecutiveRefreshFailures := 0 }

/-- What an entry does to the deadline that is tracked, and which band it signals. -/
structure Tracks (c c' : Chart) (reading : Option Reading) (drives : Bool) (ns : List Notice) :
    Prop where
  deadline : c'.deadline = reading.elim c.deadline (fun r => some r.deadline)
  source : c'.source = reading.elim c.source (fun r => some r.source)
  ownRefresh : c'.ownRefresh = reading.elim (drives || c.ownRefresh) (fun _ => false)
  latch : c'.signaledHorizon = reading.elim c.signaledHorizon (fun r => latched r.band)
  bands : ns.filterMap Notice.band = reading.elim [] (fun r =>
    if actionable r.band ∧ c.signaledHorizon ≠ some r.band then [r.band] else [])

theorem tracks_of_track {c c' : Chart} {ns : List Notice} (h : c'.track = c.track)
    (hns : ns.filterMap Notice.band = []) : Tracks c c' none false ns := by
  have hdeadline : c'.track.deadline = c.track.deadline := by rw [h]
  have hsource : c'.track.source = c.track.source := by rw [h]
  have hown : c'.track.ownRefresh = c.track.ownRefresh := by rw [h]
  have hlatch : c'.track.signaledHorizon = c.track.signaledHorizon := by rw [h]
  exact ⟨hdeadline, hsource, hown, hlatch, hns⟩

theorem track_polled (result : Except Error Usage) : (c.polled s result).track = c.track := by
  unfold polled
  cases classifyPoll result with
  | unauthorized =>
    dsimp only
    unfold unauthorized
    dsimp only
    split <;> rfl
  | live =>
    dsimp only
    unfold live
    dsimp only
    split
    · rfl
    · split <;> rfl
  | scopeMissing => rfl
  | transient => rfl

theorem bands_polled (result : Except Error Usage) :
    (c.pollNotices s result).filterMap Notice.band = [] := by
  unfold pollNotices
  cases classifyPoll result with
  | unauthorized =>
    dsimp only
    unfold unauthorizedNotices
    rw [List.filterMap_append]
    have hmonitor : (if c.quarantined then [] else
        [Notice.unauthorized (saturatingAdd32 c.consec401 1)]).filterMap Notice.band = [] := by
      split <;> rfl
    rw [hmonitor]
    split <;> rfl
  | live =>
    dsimp only
    split <;> rfl
  | scopeMissing => rfl
  | transient => rfl

theorem signal_latch {state : ExpiryHorizon} (h : state ≠ .unknown) :
    (c.signal state).signaledHorizon = latched state := by
  cases state with
  | unknown => exact absurd rfl h
  | beyond => rfl
  | within => rfl
  | lapsed => rfl

theorem signal_kept (state : ExpiryHorizon) :
    (c.signal state).deadline = c.deadline ∧ (c.signal state).source = c.source ∧
      (c.signal state).ownRefresh = c.ownRefresh := by
  cases state <;> exact ⟨rfl, rfl, rfl⟩

theorem tracks_read (deadline : Int) (source : CredentialReadSource) (p : ExpiryProvenance)
    (g : Option Bool) (nowSecs : Int) (drives : Bool) :
    Tracks c (c.read s deadline source nowSecs)
      (some ⟨deadline, source, horizonState (some deadline) s.credentialExpiryHorizonSecs nowSecs⟩)
      drives (c.readNotices s deadline p g nowSecs) := by
  have hkept := signal_kept
    { c with deadline := some deadline, source := some source, ownRefresh := false }
    (horizonState (some deadline) s.credentialExpiryHorizonSecs nowSecs)
  have hlatch := signal_latch
    { c with deadline := some deadline, source := some source, ownRefresh := false }
    (horizonState_ne_unknown deadline s.credentialExpiryHorizonSecs nowSecs)
  refine ⟨hkept.1, hkept.2.1, hkept.2.2, hlatch, ?_⟩
  unfold readNotices signals
  dsimp only
  rw [List.filterMap_append]
  have hobserved : (if c.deadline ≠ some deadline ∨ p = .canonicalRestash then
      [Notice.observed p c.deadline deadline g] else []).filterMap Notice.band = [] := by
    split <;> rfl
  rw [hobserved, List.nil_append]
  generalize horizonState (some deadline) s.credentialExpiryHorizonSecs nowSecs = state
  by_cases hs : actionable state = true ∧ c.signaledHorizon ≠ some state
  · have hb : (actionable state && decide (c.signaledHorizon ≠ some state)) = true := by simpa using hs
    rw [if_pos hb]
    exact (if_pos hs).symm
  · have hb : ¬ (actionable state && decide (c.signaledHorizon ≠ some state)) = true := by
      simpa using hs
    rw [if_neg hb]
    exact (if_neg hs).symm

theorem tracks_enter (e : Entry) :
    Tracks c (c.enter s e) (e.reading s) e.drivesRefresh (c.notices s e) := by
  cases e with
  | polled result => exact tracks_of_track (track_polled c s result) (bands_polled c s result)
  | refreshed outcome =>
    refine ⟨rfl, rfl, rfl, rfl, ?_⟩
    have hsilent : (c.refreshNotices outcome).filterMap Notice.band = [] := by
      unfold refreshNotices
      split <;> rfl
    exact hsilent
  | lifted =>
    apply tracks_of_track
    · have hlift : c.lift.track = c.track := by
        unfold lift
        split <;> rfl
      exact hlift
    · have hsilent : c.liftNotices.filterMap Notice.band = [] := by
        unfold liftNotices
        split <;> rfl
      exact hsilent
  | probeDropped =>
    apply tracks_of_track
    · unfold enter
      dsimp only
      split <;> rfl
    · rfl
  | ownRefreshed => exact ⟨rfl, rfl, rfl, rfl, rfl⟩
  | pollRead observed source nowSecs =>
    cases observed with
    | none => exact tracks_of_track rfl rfl
    | some deadline => exact tracks_read c s deadline source _ none nowSecs false
  | restashRead observed grantReplaced nowSecs =>
    cases observed with
    | none => exact tracks_of_track rfl rfl
    | some deadline => exact tracks_read c s deadline .canonical .canonicalRestash grantReplaced nowSecs false

/-- The chart tracks the history of its readings. -/
theorem tracked_after (es : List Entry) :
    (({} : Chart).after s es).deadline = (lastReading s es).map (·.deadline) ∧
    (({} : Chart).after s es).source = (lastReading s es).map (·.source) ∧
    (({} : Chart).after s es).ownRefresh = refreshedSince s es ∧
    (({} : Chart).after s es).signaledHorizon = (lastReading s es).bind (fun r => latched r.band) := by
  induction es using List.reverseRecOn with
  | nil => exact ⟨rfl, rfl, rfl, rfl⟩
  | append_singleton es e ih =>
    obtain ⟨hdeadline, hsource, hown, hlatch⟩ := ih
    have htracks := tracks_enter (({} : Chart).after s es) s e
    rw [after_concat, htracks.deadline, htracks.source, htracks.ownRefresh, htracks.latch,
      lastReading_concat, refreshedSince_concat, hdeadline, hsource, hown, hlatch]
    cases e.reading s with
    | none => exact ⟨rfl, rfl, rfl, rfl⟩
    | some r => exact ⟨rfl, rfl, rfl, rfl⟩

theorem provenance_after (es : List Entry) (source : CredentialReadSource) :
    (({} : Chart).after s es).provenance source = dictated s es source := by
  obtain ⟨hdeadline, hsource, hown, -⟩ := tracked_after s es
  unfold provenance dictated
  rw [hdeadline, hsource, hown]
  cases lastReading s es with
  | none => rfl
  | some last => simp

theorem latched_eq_some_iff {last : Option ExpiryHorizon} {band : ExpiryHorizon}
    (h : actionable band = true) : last.bind latched = some band ↔ last = some band := by
  cases last with
  | none => simp
  | some b =>
    by_cases hb : actionable b = true
    · simp [latched, hb]
    · have hne : b ≠ band := by
        intro heq
        exact hb (heq ▸ h)
      simp [latched, hb, hne]

theorem latched_eq_none_iff {band : ExpiryHorizon} (h : band ≠ .unknown) :
    latched band = none ↔ band = .beyond := by
  cases band with
  | unknown => exact absurd rfl h
  | beyond => simp [latched, actionable]
  | within => simp [latched, actionable]
  | lapsed => simp [latched, actionable]

/-- The bands that are signalled are those that are entered. -/
theorem bands_course (es : List Entry) : ∀ (c : Chart) (last : Option ExpiryHorizon),
    c.signaledHorizon = last.bind latched →
      (c.course s es).filterMap Notice.band = enteredBands last ((readings s es).map (·.band)) := by
  induction es with
  | nil =>
    intro c last _
    rfl
  | cons e es ih =>
    intro c last hlast
    have htracks := tracks_enter c s e
    rw [course, List.filterMap_append, htracks.bands]
    unfold readings
    rw [List.filterMap_cons]
    have hlatch := htracks.latch
    cases hr : e.reading s with
    | none =>
      rw [hr] at hlatch
      exact ih (c.enter s e) last (hlatch.trans hlast)
    | some r =>
      rw [hr] at hlatch
      have hentered : (if actionable r.band = true ∧ c.signaledHorizon ≠ some r.band then [r.band]
          else []) =
          if actionable r.band = true ∧ last ≠ some r.band then [r.band] else [] := by
        by_cases hb : actionable r.band = true
        · simp only [hlast, ne_eq, latched_eq_some_iff hb]
        · simp [hb]
      rw [ih (c.enter s e) (some r.band) hlatch]
      exact congrArg (· ++ enteredBands (some r.band) _) hentered

end Chart

section Accounts

variable [SerdeJson] (d : Daemon) (ops : List HealthOp) (i : ℕ)

/-- What a poll that reads a deadline emits, by the history of the account. -/
def pollEvents (es : List Entry) (deadline : Int) (source : CredentialReadSource) (nowSecs : Int) :
    List Event :=
  let horizonSecs := d.settings.credentialExpiryHorizonSecs
  let band := horizonState (some deadline) horizonSecs nowSecs
  let last := lastReading d.settings es
  (if last.map (·.deadline) = some deadline then []
  else [.credentialExpiryObserved (d.account i).accountUuid (dictated d.settings es source)
    (last.map (·.deadline)) deadline none]) ++
  if Chart.actionable band ∧ last.map (·.band) ≠ some band then
    [.credentialExpiryHorizon (d.account i).accountUuid band deadline horizonSecs]
  else []

omit [SerdeJson] in
theorem readNotices_after (es : List Entry) (deadline : Int) (source : CredentialReadSource)
    (nowSecs : Int) :
    ((({} : Chart).after d.settings es).readNotices d.settings deadline
      ((({} : Chart).after d.settings es).provenance source) none nowSecs).map
        (Notice.event (d.account i)) = pollEvents d i es deadline source nowSecs := by
  obtain ⟨hdeadline, -, -, hlatch⟩ := Chart.tracked_after d.settings es
  have hlast : (lastReading d.settings es).bind (fun r => Chart.latched r.band) =
      ((lastReading d.settings es).map (·.band)).bind Chart.latched := by
    cases lastReading d.settings es <;> rfl
  rw [hlast] at hlatch
  have hpoll : dictated d.settings es source ≠ .canonicalRestash := by
    unfold dictated
    cases lastReading d.settings es with
    | none => simp
    | some last =>
      dsimp only
      split
      · simp
      · split
        · simp
        · simp
  unfold Chart.readNotices pollEvents Chart.signals
  dsimp only
  rw [Chart.provenance_after, hdeadline, hlatch, List.map_append]
  generalize horizonState (some deadline) d.settings.credentialExpiryHorizonSecs nowSecs = band
  congr 1
  · by_cases hsame : (lastReading d.settings es).map (·.deadline) = some deadline
    · rw [if_pos hsame, if_neg (not_or.mpr ⟨not_not.mpr hsame, hpoll⟩)]
      rfl
    · rw [if_neg hsame, if_pos (Or.inl hsame)]
      rfl
  · have hcond : (Chart.actionable band && decide
        (((lastReading d.settings es).map (·.band)).bind Chart.latched ≠ some band)) = true ↔
        Chart.actionable band = true ∧ (lastReading d.settings es).map (·.band) ≠ some band := by
      by_cases hb : Chart.actionable band = true
      · simp only [hb, Bool.true_and, decide_eq_true_eq, true_and, ne_eq,
          Chart.latched_eq_some_iff hb]
      · simp [hb]
    by_cases hb : Chart.actionable band = true ∧ (lastReading d.settings es).map (·.band) ≠ some band
    · rw [if_pos (hcond.mpr hb), if_pos hb]
      rfl
    · rw [if_neg (mt hcond.mp hb), if_neg hb]
      rfl

theorem polled_events (deadline : Int) (source : CredentialReadSource) (nowSecs : Int)
    (hfresh : d.Fresh) :
    ((d.runHealth ops).applyHealth
      (.expiryPolled i (some deadline) source nowSecs)).events.filter Event.isHealth =
    (d.runHealth ops).events.filter Event.isHealth ++
      pollEvents d i (entriesOf i (d.healthHistory ops)) deadline source nowSecs := by
  have hemitted : ((d.runHealth ops).applyHealth
      (.expiryPolled i (some deadline) source nowSecs)).events.filter Event.isHealth =
      (d.runHealth ops).events.filter Event.isHealth ++
        (((d.runHealth ops).accounts i).health.chart.readNotices (d.runHealth ops).settings deadline
          (((d.runHealth ops).accounts i).health.chart.provenance source) none nowSecs).map
            (Notice.event ((d.runHealth ops).account i)) :=
    congrArg Clinic.events
      (Daemon.notePolledExpiry_clinic (d := d.runHealth ops) i (some deadline) source nowSecs)
  have haccount : (d.runHealth ops).account i = d.account i := by
    unfold Daemon.account
    rw [Daemon.runHealth_roster]
  have hchart := d.runHealth_chart ops i
  rw [Daemon.chart_of_fresh hfresh] at hchart
  have hevents := readNotices_after d i (entriesOf i (d.healthHistory ops)) deadline source nowSecs
  rw [← hchart] at hevents
  rw [hemitted, Daemon.runHealth_settings, haccount, hevents]

/-- Over every run, a poll reports a deadline exactly when it is not the one last read, and tags it as
the history since then dictates; one that reads none changes nothing. The baseline has its source, and
a band is signalled once each time it is entered. -/
theorem expiry_provenance (hfresh : d.Fresh) :
    let d' := d.runHealth ops
    let es := entriesOf i (d.healthHistory ops)
    let last := lastReading d.settings es
    (∀ source nowSecs, d'.applyHealth (.expiryPolled i none source nowSecs) = d') ∧
    (∀ deadline source nowSecs,
      (d'.applyHealth (.expiryPolled i (some deadline) source nowSecs)).events.filter Event.isHealth =
        d'.events.filter Event.isHealth ++ pollEvents d i es deadline source nowSecs) ∧
    (d'.accounts i).health.refreshTokenExpiresAtBaseline = last.map (·.deadline) ∧
    (d'.accounts i).health.refreshTokenExpiresAtBaselineSource = last.map (·.source) ∧
    (noticesOf i (d.healthLog ops)).filterMap Notice.band =
      enteredBands none ((readings d.settings es).map (·.band)) ∧
    ((d'.accounts i).health.signaledExpiryHorizon = none ↔
      ∀ r, last = some r → r.band = .beyond) := by
  intro d' es last
  have hchart := d.runHealth_chart ops i
  have hlog := d.noticesOf_healthLog ops i
  rw [Daemon.chart_of_fresh hfresh] at hchart hlog
  obtain ⟨hdeadline, hsource, -, hlatch⟩ := Chart.tracked_after d.settings es
  rw [← hchart] at hdeadline hsource hlatch
  refine ⟨fun _ _ => rfl, fun deadline source nowSecs => polled_events d ops i deadline source nowSecs hfresh,
    hdeadline, hsource, ?_, ?_⟩
  · rw [hlog]
    exact Chart.bands_course d.settings es {} none rfl
  · have hlast : (d'.accounts i).health.signaledExpiryHorizon =
        last.bind (fun r => Chart.latched r.band) := hlatch
    rw [hlast]
    cases hr : last with
    | none => simp
    | some r =>
      have hknown := band_ne_unknown (List.mem_of_getLast? hr)
      simp [Chart.latched_eq_none_iff hknown]

end Accounts

section Sample

local instance provenanceJson : SerdeJson := sampleJson

/-- A deadline that was read, and a refresh that did not come to run. -/
def failedSince : List HealthOp :=
  [.expiryPolled 0 (some 1000000) .stash 0, failedObservation]

/-- The tag of a refresh of the daemon's own, although none has re-stashed anything. -/
theorem my_refresh_without_restash :
    startedDaemon.Fresh ∧
    entriesOf 0 (startedDaemon.healthHistory failedSince) =
      [.pollRead (some 1000000) .stash 0, .refreshed .error] ∧
    ((startedDaemon.runHealth failedSince).applyHealth
      (.expiryPolled 0 (some 2000000) .stash 0)).events =
        [.credentialExpiryObserved "A" .firstObservation none 1000000 none,
          .credentialExpiryObserved "A" .myRefresh (some 1000000) 2000000 none] :=
  ⟨startedDaemon_fresh, rfl, by decide⟩

/-- A deadline within the horizon, read twice. -/
def nearDeadline : List HealthOp :=
  [.expiryPolled 0 (some 1000) .stash 0, .expiryPolled 0 (some 1000) .stash 500]

theorem expiry_provenance_nearDeadline :
    enteredBands none ((readings startedDaemon.settings
      (entriesOf 0 (startedDaemon.healthHistory nearDeadline))).map (·.band)) = [.within] ∧
    (noticesOf 0 (startedDaemon.healthLog nearDeadline)).filterMap Notice.band = [.within] := by
  have hentered : enteredBands none ((readings startedDaemon.settings
      (entriesOf 0 (startedDaemon.healthHistory nearDeadline))).map (·.band)) = [.within] := by decide
  have hbands := (expiry_provenance startedDaemon nearDeadline 0 startedDaemon_fresh).2.2.2.2.1
  exact ⟨hentered, hbands.trans hentered⟩

end Sample

end Sessiometer
