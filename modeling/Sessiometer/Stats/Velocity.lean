import Sessiometer.Daemon.Listed
import Sessiometer.Effects.Runs
import Sessiometer.Store.Samples

/-! # The velocity that the samples tell

The session rate of an account, replayed over its stored samples, beside the one that the daemon keeps as
it polls. -/

namespace Sessiometer.Stats

open Effects

/-! ## The replay -/

/-- A rate, and the intervals blended since the last reset. -/
abbrev Ema := Option (ℚ × ℕ)

def replayInterval (alpha : ℚ) (ema : Ema) (prev next : Int × ℚ) : Ema :=
  let elapsed := next.1 - prev.1
  if elapsed ≤ 0 ∨ next.2 < prev.2 then none
  else
    let instant := (next.2 - prev.2) / elapsed
    some (match ema with
      | some (prevRate, n) => (alpha * instant + (1 - alpha) * prevRate, n + 1)
      | none => (instant, 1))

def replayEma (series : List (Int × ℚ)) (alpha : ℚ) : Ema :=
  (series.zip series.tail).foldl (fun ema pair => replayInterval alpha ema pair.1 pair.2) none

/-- `blended >= MIN_VELOCITY_SAMPLES`. -/
def sustained (ema : Ema) : Option ℚ :=
  match ema with
  | some (rate, blended) => if minVelocitySamples ≤ blended then some rate else none
  | none => none

def replayVelocityEma (series : List (Int × ℚ)) (alpha : ℚ) : Option ℚ :=
  sustained (replayEma series alpha)

/-- The rows of `account_velocity`: the account's samples inside the window, by time. -/
def accountRows (samples : List Sample) (handle : String) (start stop : Int) : List Sample :=
  (samples.filter (fun s => decide (s.acct = handle) && decide (start ≤ s.ts) && decide (s.ts < stop))).mergeSort
    (fun s t => decide (s.ts ≤ t.ts))

def sessionSeries (rows : List Sample) : List (Int × ℚ) :=
  rows.filterMap (fun s => s.session.map (fun v => (s.ts, v)))

/-! ## The polls -/

/-- A successful poll, on the second. -/
structure PollAt where
  reading : PolledReading
  at' : ℕ

def usageProvider : String := "claude"

/-- `append_sample_for_poll`. -/
def PollAt.sample (p : PollAt) (label : String) : Sample where
  ts := p.at'
  provider := usageProvider
  acct := label
  session := p.reading.usage.session
  weekly := p.reading.usage.weekly
  sessionResetsAt := p.reading.usage.sessionResetsAt
  weeklyResetsAt := p.reading.usage.weeklyResetsAt
  severity := p.reading.severity

/-- What a poll of the account reads and writes of its slot. -/
structure Measured where
  reading : Option (Usage × Nanos) := none
  velocity : Option VelocityEma := none
  mark : Option SessionHighWater := none

def measured (a : AccountRuntime) : Measured where
  reading := a.lastReading.bind (fun usage => a.lastReadingAt.map (usage, ·))
  velocity := a.sessionVelocity
  mark := a.sessionHighWater

/-- A poll of the account, or anything that leaves its measurements and the weight alone. -/
inductive PollStep (i : ℕ) : Daemon → Option PollAt → Daemon → Prop
  | polled {d : Daemon} (active : Option ℕ) (p : PollAt) :
      PollStep i d (some p) (d.noteReading i active (.ok p.reading.usage) (secs p.at'))
  | elsewhere {d d' : Daemon} : measured (d'.accounts i) = measured (d.accounts i) →
      d'.settings.sessionVelocityEmaAlpha = d.settings.sessionVelocityEmaAlpha → PollStep i d none d'

def polls (tr : List (Option PollAt)) : List PollAt := tr.filterMap id

/-- One poll after the other. -/
def Chronological (ps : List PollAt) : Prop := ps.Pairwise (fun p q => p.at' < q.at')

/-! ## What the daemon retains -/

/-- `note_session_velocity`, on the slot alone. -/
def noteRate (alpha : ℚ) (velocity : Option VelocityEma) (prev next : ℚ) (elapsedSecs : ℕ) :
    Option VelocityEma :=
  if elapsedSecs = 0 ∨ next < prev then none
  else some (match velocity with
    | some v => ⟨alpha * ((next - prev) / elapsedSecs) + (1 - alpha) * v.rate, v.samples + 1⟩
    | none => ⟨(next - prev) / elapsedSecs, 1⟩)

namespace Measured

variable (m : Measured)

def noteInterval (alpha : ℚ) (next : Usage) (now : Nanos) : Option VelocityEma :=
  match m.reading with
  | none => m.velocity
  | some (prev, prevAt) =>
    if isStaleLow m.mark prev || isStaleLow m.mark next then m.velocity
    else match prev.session, next.session with
      | some a, some b => noteRate alpha m.velocity a b (asSecs (saturatingDurationSince now prevAt))
      | _, _ => m.velocity

def fold (alpha : ℚ) (next : Usage) (now : Nanos) : Measured where
  reading := some (next, now)
  velocity := if next.session.isNone then none else m.noteInterval alpha next now
  mark := SessionHighWater.fold m.mark next

end Measured

section Folds

variable (d : Daemon) (i : ℕ) (active : Option ℕ) (next : Usage) (now : Nanos)

theorem measured_setAccount {f : AccountRuntime → AccountRuntime}
    (hf : ∀ a, measured (f a) = measured a) :
    measured ((d.setAccount i f).accounts i) = measured (d.accounts i) :=
  d.setAccount_kept i measured hf i

theorem emit_accounts (e : Event) : (d.emit e).accounts = d.accounts := rfl

theorem emitIf_settings (c : Bool) (e : Event) : (d.emitIf c e).settings = d.settings := by
  unfold Daemon.emitIf
  split <;> rfl

theorem measured_noteSessionVelocity (prev next : ℚ) (elapsedSecs : ℕ) :
    measured ((d.noteSessionVelocity i prev next elapsedSecs).accounts i) =
      { measured (d.accounts i) with
        velocity := noteRate d.settings.sessionVelocityEmaAlpha (d.accounts i).sessionVelocity prev next
          elapsedSecs } := by
  unfold Daemon.noteSessionVelocity noteRate
  by_cases h : elapsedSecs = 0 ∨ next < prev
  · rw [if_pos h, if_pos h, Daemon.setAccount_self]
    rfl
  · rw [if_neg h, if_neg h]
    dsimp only
    rw [Daemon.setAccount_self]
    rfl

theorem measured_noteInterval : measured ((d.noteInterval i next now).accounts i) =
    { measured (d.accounts i) with
      velocity := (measured (d.accounts i)).noteInterval d.settings.sessionVelocityEmaAlpha next now } := by
  unfold Daemon.noteInterval Measured.noteInterval measured
  cases hreading : (d.accounts i).lastReading with
  | none => simp [hreading]
  | some prev =>
    cases hat : (d.accounts i).lastReadingAt with
    | none => simp [hreading, hat]
    | some prevAt =>
      simp only [Option.bind_some, Option.map_some]
      by_cases hstale : (isStaleLow (d.accounts i).sessionHighWater prev ||
          isStaleLow (d.accounts i).sessionHighWater next) = true
      · rw [if_pos hstale, if_pos hstale, emitIf_accounts, hreading, hat]
        rfl
      · rw [if_neg hstale, if_neg hstale]
        cases hprev : prev.session with
        | none =>
          dsimp only
          rw [emitIf_accounts, hreading, hat]
          rfl
        | some a =>
          cases hnext : next.session with
          | none =>
            dsimp only
            rw [emitIf_accounts, hreading, hat]
            rfl
          | some b =>
            change measured ((Daemon.noteSessionVelocity _ i a b _).accounts i) = _
            rw [measured_noteSessionVelocity, emitIf_accounts, emitIf_settings]
            unfold measured
            rw [hreading, hat]
            rfl

theorem noteBlindWindow_accounts : (d.noteBlindWindow i active next now).accounts = d.accounts := by
  unfold Daemon.noteBlindWindow
  cases d.lastGood with
  | none => rfl
  | some anchor => exact emitIf_accounts _ _ _

theorem measured_noteBlindEpisode (result : Except Error Usage) :
    measured ((d.noteBlindEpisode i active result now).accounts i) = measured (d.accounts i) := by
  unfold Daemon.noteBlindEpisode
  cases hanchor : (d.accounts i).blindAnchor with
  | none =>
    cases result with
    | ok fresh => rfl
    | error e =>
      cases hreading : (d.accounts i).lastReading with
      | none => rfl
      | some prev =>
        cases hat : (d.accounts i).lastReadingAt with
        | none => rfl
        | some prevAt =>
          dsimp only
          rw [emit_accounts]
          exact measured_setAccount d i (by intro a; rfl)
  | some anchor =>
    cases result with
    | ok fresh =>
      dsimp only
      exact measured_setAccount _ i (by intro a; rfl)
    | error e => rfl

theorem measured_noteLandingOvershoot (result : Except Error Usage) :
    measured ((d.noteLandingOvershoot i active result now).accounts i) = measured (d.accounts i) := by
  have hclear : ∀ d' : Daemon, measured ((d'.clearParkedLanding i).accounts i) =
      measured (d'.accounts i) := fun d' => measured_setAccount d' i (by intro a; rfl)
  unfold Daemon.noteLandingOvershoot
  cases (d.accounts i).parkedLanding with
  | none => rfl
  | some parked =>
    dsimp only
    split
    · exact hclear d
    · cases result with
      | error e => rfl
      | ok fresh =>
        cases hsession : fresh.session with
        | none =>
          dsimp only
          rw [hsession]
          exact hclear d
        | some session =>
          dsimp only
          rw [hsession]
          dsimp only
          split
          · exact hclear _
          · rfl

/-- A reading is folded into the slot of its account. -/
theorem measured_noteReading : measured ((d.noteReading i active (.ok next) now).accounts i) =
    (measured (d.accounts i)).fold d.settings.sessionVelocityEmaAlpha next now := by
  unfold Daemon.noteReading
  dsimp only
  rw [storeReading_accounts, Function.update_self]
  have hmeasured := measured_noteInterval d i next now
  rw [← noteBlindWindow_accounts (d.noteInterval i next now) i active next now,
    ← measured_noteBlindEpisode _ i active now (.ok next),
    ← measured_noteLandingOvershoot _ i active now (.ok next)] at hmeasured
  generalize (((d.noteInterval i next now).noteBlindWindow i active next now).noteBlindEpisode i active
    (.ok next) now).noteLandingOvershoot i active (.ok next) now = noted at hmeasured ⊢
  have hvelocity := congrArg Measured.velocity hmeasured
  have hmark := congrArg Measured.mark hmeasured
  change (noted.accounts i).sessionVelocity = _ at hvelocity
  change (noted.accounts i).sessionHighWater = _ at hmark
  unfold measured AccountRuntime.stored Measured.fold
  dsimp only
  rw [hvelocity, hmark]
  rfl

theorem noteReading_settings (result : Except Error Usage) :
    (d.noteReading i active result now).settings = d.settings :=
  congrArg Frame.settings (d.noteReading_frame i active result now)

end Folds

/-! ## The two estimators -/

theorem zip_tail_append {α : Type} {l : List α} {y : α} (x : α) (hy : l.getLast? = some y) :
    (l ++ [x]).zip (l ++ [x]).tail = l.zip l.tail ++ [(y, x)] := by
  induction l with
  | nil => simp at hy
  | cons a l ih =>
    cases l with
    | nil =>
      simp only [List.getLast?_singleton, Option.some.injEq] at hy
      simp [hy]
    | cons b l =>
      rw [List.getLast?_cons_cons] at hy
      have hzip := ih hy
      simp only [List.cons_append, List.tail_cons] at hzip ⊢
      rw [List.zip_cons_cons, hzip]
      rfl

theorem replayEma_append {alpha : ℚ} {series : List (Int × ℚ)} {last : Int × ℚ} (next : Int × ℚ)
    (hlast : series.getLast? = some last) :
    replayEma (series ++ [next]) alpha = replayInterval alpha (replayEma series alpha) last next := by
  unfold replayEma
  rw [zip_tail_append next hlast, List.foldl_append]
  rfl

/-- What the polls leave of a slot that was empty. -/
def measuredAfter (alpha : ℚ) (ps : List PollAt) : Measured :=
  ps.foldl (fun m p => m.fold alpha p.reading.usage (secs p.at')) {}

def pollSeries (ps : List PollAt) : List (Int × ℚ) :=
  ps.filterMap (fun p => p.reading.usage.session.map (fun v => ((p.at' : Int), v)))

def retained (velocity : Option VelocityEma) : Ema := velocity.map (fun v => (v.rate, v.samples))

/-- What both estimators make the same of: an interval between two readings that are not stale, or a drop
while there is no rate to lose; and no session window at all, while there is no rate to lose. -/
def Comparable (m : Measured) (last : Option ℚ) (next : Usage) : Prop :=
  match next.session with
  | none => m.velocity = none
  | some session => ∀ prev, last = some prev →
    (∃ reading at', m.reading = some (reading, at') ∧ reading.session = some prev ∧
      isStaleLow m.mark reading = false ∧ isStaleLow m.mark next = false) ∨
    m.velocity = none ∧ session < prev

section Agreement

variable {alpha : ℚ} {ps : List PollAt} {p : PollAt}

theorem measuredAfter_append : measuredAfter alpha (ps ++ [p]) =
    (measuredAfter alpha ps).fold alpha p.reading.usage (secs p.at') := by
  simp [measuredAfter]

theorem measuredAfter_reading : (measuredAfter alpha ps).reading =
    ps.getLast?.map (fun p => (p.reading.usage, secs p.at')) := by
  induction ps using List.reverseRecOn with
  | nil => rfl
  | append_singleton ps p _ =>
    rw [measuredAfter_append, List.getLast?_concat]
    rfl

theorem pollSeries_append : pollSeries (ps ++ [p]) =
    pollSeries ps ++ (p.reading.usage.session.map (fun v => ((p.at' : Int), v))).toList := by
  unfold pollSeries
  rw [List.filterMap_append]
  cases h : p.reading.usage.session with
  | none => simp [h]
  | some v => simp [h]

theorem pollSeries_last {t : Int} {v : ℚ} (h : (pollSeries ps).getLast? = some (t, v)) :
    ∃ q ∈ ps, (q.at' : Int) = t ∧ q.reading.usage.session = some v := by
  have hmem := List.mem_of_getLast? h
  obtain ⟨q, hq, hpoint⟩ := List.mem_filterMap.mp hmem
  obtain ⟨v', hv', heq⟩ := Option.map_eq_some_iff.mp hpoint
  cases heq
  exact ⟨q, hq, rfl, hv'⟩

/-- A session reading is the last point of the series. -/
theorem pollSeries_of_last {reading : Usage} {at' : Nanos} {v : ℚ}
    (hreading : (measuredAfter alpha ps).reading = some (reading, at')) (hv : reading.session = some v) :
    ∃ t : ℕ, (pollSeries ps).getLast? = some ((t : Int), v) ∧ at' = secs t := by
  rw [measuredAfter_reading] at hreading
  induction ps using List.reverseRecOn with
  | nil => cases hreading
  | append_singleton ps p _ =>
    rw [List.getLast?_concat] at hreading
    cases hreading
    refine ⟨p.at', ?_, rfl⟩
    rw [pollSeries_append, hv]
    simp

theorem asSecs_between (a b : ℕ) : asSecs (saturatingDurationSince (secs b) (secs a)) = b - a := by
  unfold asSecs saturatingDurationSince secs
  rw [← Nat.sub_mul]
  exact Nat.mul_div_cancel _ (by decide)

theorem retained_noteRate {velocity : Option VelocityEma} {a b : ℕ} {u v : ℚ} (hab : a < b) :
    retained (noteRate alpha velocity u v (b - a)) =
      replayInterval alpha (retained velocity) ((a : Int), u) ((b : Int), v) := by
  have helapsed : ((b : Int) - a) = ((b - a : ℕ) : Int) := by omega
  unfold noteRate replayInterval
  dsimp only
  rw [helapsed]
  by_cases hdrop : v < u
  · rw [if_pos (.inr hdrop), if_pos (.inr hdrop)]
    rfl
  · have hnot : ¬ (b - a = 0 ∨ v < u) := by
      rintro (h | h)
      · omega
      · exact hdrop h
    have hnot' : ¬ (((b - a : ℕ) : Int) ≤ 0 ∨ v < u) := by
      rintro (h | h)
      · omega
      · exact hdrop h
    rw [if_neg hnot, if_neg hnot']
    cases velocity with
    | none => simp [retained]
    | some vel => simp [retained]

theorem retained_eq_none {velocity : Option VelocityEma} : retained velocity = none ↔ velocity = none := by
  simp [retained]

/-- An interval leaves the replay as it is for a drop with nothing to lose only. -/
theorem replayInterval_eq_self {ema : Ema} {prev next : Int × ℚ} (hlater : prev.1 < next.1) :
    replayInterval alpha ema prev next = ema ↔ ema = none ∧ next.2 < prev.2 := by
  unfold replayInterval
  dsimp only
  by_cases hdrop : next.2 < prev.2
  · rw [if_pos (.inr hdrop)]
    constructor
    · intro h
      exact ⟨h.symm, hdrop⟩
    · intro h
      exact h.1.symm
  · have hnot : ¬ (next.1 - prev.1 ≤ 0 ∨ next.2 < prev.2) := by
      rintro (h | h)
      · omega
      · exact hdrop h
    rw [if_neg hnot]
    constructor
    · intro h
      cases ema with
      | none => cases h
      | some e =>
        have hn := congrArg Prod.snd (Option.some.inj h)
        dsimp only at hn
        omega
    · intro h
      exact absurd h.2 hdrop

/-- The two readings of an interval that the daemon blends. -/
def Measured.Pairs (m : Measured) (prev : ℚ) (next : Usage) : Prop :=
  ∃ reading at', m.reading = some (reading, at') ∧ reading.session = some prev ∧
    isStaleLow m.mark reading = false ∧ isStaleLow m.mark next = false

theorem noteInterval_of_not_pairs {m : Measured} {next : Usage} {now : Nanos}
    (h : ∀ prev, ¬ m.Pairs prev next) : m.noteInterval alpha next now = m.velocity := by
  unfold Measured.noteInterval
  cases hreading : m.reading with
  | none => rfl
  | some x =>
    obtain ⟨reading, at'⟩ := x
    dsimp only
    split
    · rfl
    · next hfresh =>
      cases hprev : reading.session with
      | none => rfl
      | some prev =>
        have hstale : isStaleLow m.mark reading = false ∧ isStaleLow m.mark next = false := by
          simpa using hfresh
        exact absurd ⟨reading, at', hreading, hprev, hstale.1, hstale.2⟩ (h prev)

theorem noteInterval_of_pairs {m : Measured} {prev session : ℚ} {next reading : Usage} {now at' : Nanos}
    (hreading : m.reading = some (reading, at')) (hprev : reading.session = some prev)
    (hstale : isStaleLow m.mark reading = false) (hstale' : isStaleLow m.mark next = false)
    (hsession : next.session = some session) : m.noteInterval alpha next now =
      noteRate alpha m.velocity prev session (asSecs (saturatingDurationSince now at')) := by
  unfold Measured.noteInterval
  rw [hreading]
  dsimp only
  rw [hstale, hstale', hprev, hsession]
  rfl

/-- The two estimators keep on agreeing over a poll exactly if it is one they make the same of. -/
theorem agrees_iff_comparable
    (hagree : replayEma (pollSeries ps) alpha = retained (measuredAfter alpha ps).velocity)
    (hlater : ∀ q ∈ ps, q.at' < p.at') :
    replayEma (pollSeries (ps ++ [p])) alpha = retained (measuredAfter alpha (ps ++ [p])).velocity ↔
      Comparable (measuredAfter alpha ps) ((pollSeries ps).getLast?.map Prod.snd) p.reading.usage := by
  have hreads : ∀ prev, (measuredAfter alpha ps).Pairs prev p.reading.usage →
      (pollSeries ps).getLast?.map Prod.snd = some prev := by
    rintro prev ⟨reading, at', hreading, hprev, -⟩
    obtain ⟨t, hlast, -⟩ := pollSeries_of_last hreading hprev
    rw [hlast]
    rfl
  rw [measuredAfter_append, pollSeries_append]
  unfold Comparable
  cases hsession : p.reading.usage.session with
  | none =>
    have hvelocity : ((measuredAfter alpha ps).fold alpha p.reading.usage (secs p.at')).velocity = none := by
      simp [Measured.fold, hsession]
    rw [hvelocity]
    simp only [Option.map_none, Option.toList_none, List.append_nil]
    rw [hagree]
    exact retained_eq_none
  | some session =>
    have hvelocity : ((measuredAfter alpha ps).fold alpha p.reading.usage (secs p.at')).velocity =
        (measuredAfter alpha ps).noteInterval alpha p.reading.usage (secs p.at') := by
      simp [Measured.fold, hsession]
    rw [hvelocity]
    simp only [Option.map_some, Option.toList_some]
    cases hlast : (pollSeries ps).getLast? with
    | none =>
      have hempty : pollSeries ps = [] := List.getLast?_eq_none_iff.mp hlast
      have hnone : (measuredAfter alpha ps).velocity = none := by
        rw [hempty] at hagree
        exact retained_eq_none.mp hagree.symm
      have hkept : (measuredAfter alpha ps).noteInterval alpha p.reading.usage (secs p.at') =
          (measuredAfter alpha ps).velocity := by
        apply noteInterval_of_not_pairs
        intro prev hpairs
        have hprev := hreads prev hpairs
        rw [hlast] at hprev
        cases hprev
      rw [hkept, hnone, hempty]
      exact ⟨fun _ prev h => absurd h (by simp), fun _ => rfl⟩
    | some last =>
      obtain ⟨t, prev⟩ := last
      obtain ⟨q, hq, ht, -⟩ := pollSeries_last hlast
      have hlt := hlater q hq
      have hbefore : t < p.at' := by omega
      rw [replayEma_append _ hlast, hagree]
      simp only [Option.map_some, Option.some.injEq, forall_eq']
      by_cases hpairs : (measuredAfter alpha ps).Pairs prev p.reading.usage
      · refine ⟨fun _ => .inl hpairs, fun _ => ?_⟩
        obtain ⟨reading, at', hreading, hprev, hstale, hstale'⟩ := hpairs
        obtain ⟨t', hlast', rfl⟩ := pollSeries_of_last hreading hprev
        rw [hlast] at hlast'
        cases hlast'
        rw [noteInterval_of_pairs hreading hprev hstale hstale' hsession, asSecs_between]
        exact (retained_noteRate (by omega)).symm
      · have hkept : (measuredAfter alpha ps).noteInterval alpha p.reading.usage (secs p.at') =
            (measuredAfter alpha ps).velocity := by
          apply noteInterval_of_not_pairs
          intro prev' hpairs'
          have hprev := hreads prev' hpairs'
          rw [hlast] at hprev
          cases hprev
          exact hpairs hpairs'
        rw [hkept, replayInterval_eq_self hbefore, retained_eq_none]
        constructor
        · exact .inr
        · rintro (h | h)
          · exact absurd h hpairs
          · exact h

end Agreement

/-! ## Runs -/

/-- Every poll is one that the two estimators make the same of. -/
def Steady (alpha : ℚ) (ps : List PollAt) : Prop :=
  ∀ before p after, ps = before ++ p :: after →
    Comparable (measuredAfter alpha before) ((pollSeries before).getLast?.map Prod.snd) p.reading.usage

theorem agrees_iff_steady {alpha : ℚ} {ps : List PollAt} (hchron : Chronological ps) :
    (∀ before after, ps = before ++ after →
      replayEma (pollSeries before) alpha = retained (measuredAfter alpha before).velocity) ↔
    Steady alpha ps := by
  have hlater : ∀ before p after, ps = before ++ p :: after → ∀ q ∈ before, q.at' < p.at' := by
    rintro before p after rfl q hq
    exact (List.pairwise_append.mp hchron).2.2 q hq p (by simp)
  constructor
  · intro h before p after hps
    apply (agrees_iff_comparable (h before (p :: after) hps) (hlater before p after hps)).mp
    apply h (before ++ [p]) after
    rw [hps, List.append_assoc]
    rfl
  · intro h before
    induction before using List.reverseRecOn with
    | nil => exact fun _ _ => rfl
    | append_singleton before p ih =>
      intro after hps
      rw [List.append_assoc] at hps
      exact (agrees_iff_comparable (ih _ hps) (hlater before p after hps)).mpr (h before p after hps)

theorem runs_measured {i : ℕ} {d d' : Daemon} {tr : List (Option PollAt)}
    (hfresh : measured (d.accounts i) = {}) (hr : Runs (PollStep i) d tr d') :
    measured (d'.accounts i) = measuredAfter d.settings.sessionVelocityEmaAlpha (polls tr) ∧
      d'.settings.sessionVelocityEmaAlpha = d.settings.sessionVelocityEmaAlpha := by
  apply hr.invariant (I := fun tr s => measured (s.accounts i) =
    measuredAfter d.settings.sessionVelocityEmaAlpha (polls tr) ∧
      s.settings.sessionVelocityEmaAlpha = d.settings.sessionVelocityEmaAlpha)
  · exact ⟨hfresh, rfl⟩
  · rintro tr s l s' ⟨hmeasured, halpha⟩ hs
    cases hs with
    | polled active p =>
      have hpolls : polls (tr ++ [some p]) = polls tr ++ [p] := by simp [polls]
      rw [hpolls, measuredAfter_append, measured_noteReading, noteReading_settings, hmeasured, halpha]
      exact ⟨rfl, rfl⟩
    | elsewhere hsame hweight =>
      have hpolls : polls (tr ++ [none]) = polls tr := by simp [polls]
      rw [hpolls, hsame, hweight]
      exact ⟨hmeasured, halpha⟩

/-- The samples of the polls are the rows of the account. -/
theorem accountRows_samples {ps : List PollAt} (label : String) {start stop : Int}
    (hchron : Chronological ps) (hwindow : ∀ p ∈ ps, start ≤ p.at' ∧ (p.at' : Int) < stop) :
    accountRows (ps.map (fun p => p.sample label)) label start stop =
      ps.map (fun p => p.sample label) := by
  have hkept : (ps.map (fun p => p.sample label)).filter (fun s =>
      decide (s.acct = label) && decide (start ≤ s.ts) && decide (s.ts < stop)) =
        ps.map (fun p => p.sample label) := by
    apply List.filter_eq_self.mpr
    intro s hs
    obtain ⟨p, hp, rfl⟩ := List.mem_map.mp hs
    have hp' := hwindow p hp
    simp [PollAt.sample, hp'.1, hp'.2]
  unfold accountRows
  rw [hkept]
  apply List.mergeSort_of_pairwise
  rw [List.pairwise_map]
  apply hchron.imp
  intro p q h
  have hle : p.at' ≤ q.at' := by omega
  simpa [PollAt.sample] using hle

theorem sessionSeries_samples (ps : List PollAt) (label : String) :
    sessionSeries (ps.map (fun p => p.sample label)) = pollSeries ps := by
  unfold sessionSeries pollSeries
  rw [List.filterMap_map]
  rfl

theorem sustained_retained (a : AccountRuntime) :
    sustained (retained a.sessionVelocity) = a.sustainedSessionVelocity.map (·.rate) := by
  unfold AccountRuntime.sustainedSessionVelocity sustained retained
  cases a.sessionVelocity with
  | none => rfl
  | some v =>
    dsimp only [Option.map_some]
    by_cases h : minVelocitySamples ≤ v.samples
    · simp [h]
    · simp [h]
      omega

/-- Over polls that the two estimators make the same of, and over no others, the replay of the samples
stays what the daemon retains, and so is its sustained rate. -/
theorem replay_agrees (label : String) {i : ℕ} {d d' : Daemon} {tr : List (Option PollAt)}
    {start stop : Int} (hfresh : measured (d.accounts i) = {}) (hr : Runs (PollStep i) d tr d')
    (hchron : Chronological (polls tr))
    (hwindow : ∀ p ∈ polls tr, start ≤ p.at' ∧ (p.at' : Int) < stop) :
    (Steady d.settings.sessionVelocityEmaAlpha (polls tr) →
      replayVelocityEma
        (sessionSeries (accountRows ((polls tr).map (fun p => p.sample label)) label start stop))
        d.settings.sessionVelocityEmaAlpha = (d'.accounts i).sustainedSessionVelocity.map (·.rate)) ∧
    ((∀ before after, polls tr = before ++ after →
      replayEma (sessionSeries (before.map (fun p => p.sample label)))
        d.settings.sessionVelocityEmaAlpha =
          retained (measuredAfter d.settings.sessionVelocityEmaAlpha before).velocity) ↔
      Steady d.settings.sessionVelocityEmaAlpha (polls tr)) ∧
    (d'.accounts i).sessionVelocity =
      (measuredAfter d.settings.sessionVelocityEmaAlpha (polls tr)).velocity := by
  have hmeasured := (runs_measured hfresh hr).1
  have hvelocity : (d'.accounts i).sessionVelocity =
      (measuredAfter d.settings.sessionVelocityEmaAlpha (polls tr)).velocity :=
    congrArg Measured.velocity hmeasured
  refine ⟨?_, ?_, hvelocity⟩
  · intro hsteady
    have hagree := (agrees_iff_steady hchron).mpr hsteady (polls tr) [] (by simp)
    rw [accountRows_samples label hchron hwindow, sessionSeries_samples]
    unfold replayVelocityEma
    rw [hagree, ← hvelocity, sustained_retained]
  · rw [← agrees_iff_steady hchron]
    simp only [sessionSeries_samples]

/-- A climb over three polls, and then a stale answer of the same window. -/
def climb : List PollAt :=
  [⟨⟨⟨some (50 / 100), none, none, some 9000⟩, none⟩, 0⟩,
   ⟨⟨⟨some (60 / 100), none, none, some 9000⟩, none⟩, 60⟩,
   ⟨⟨⟨some (70 / 100), none, none, some 9000⟩, none⟩, 120⟩]

def staleAnswer : PollAt := ⟨⟨⟨some (60 / 100), none, none, some 9000⟩, none⟩, 180⟩

theorem runs_polls (d : Daemon) (i : ℕ) (ps : List PollAt) : ∃ d', Runs (PollStep i) d (ps.map some) d' := by
  induction ps using List.reverseRecOn with
  | nil => exact ⟨d, .refl⟩
  | append_singleton ps p ih =>
    obtain ⟨d', hd'⟩ := ih
    refine ⟨d'.noteReading i (some i) (.ok p.reading.usage) (secs p.at'), ?_⟩
    rw [List.map_append]
    exact .snoc hd' (.polled (some i) p)

theorem polls_map_some (ps : List PollAt) : polls (ps.map some) = ps := by
  simp [polls, List.filterMap_map]

theorem chronological_climb : Chronological (climb ++ [staleAnswer]) := by
  unfold Chronological
  decide

theorem steady_climb : Steady sampleDaemon.settings.sessionVelocityEmaAlpha climb := by
  rintro before p after h
  have hlength := congrArg List.length h
  rw [List.length_append, List.length_cons] at hlength
  change 3 = _ at hlength
  have hbefore : before = climb.take before.length := by rw [h, List.take_left]
  have hp : climb[before.length]? = some p := by rw [h]; simp
  obtain hn | hn | hn : before.length = 0 ∨ before.length = 1 ∨ before.length = 2 := by omega
  · rw [hn] at hbefore hp
    cases hp
    rw [hbefore]
    exact fun prev hprev => by cases hprev
  · rw [hn] at hbefore hp
    cases hp
    rw [hbefore]
    rintro prev ⟨⟩
    exact .inl ⟨_, _, rfl, rfl, by decide +kernel, by decide +kernel⟩
  · rw [hn] at hbefore hp
    cases hp
    rw [hbefore]
    rintro prev ⟨⟩
    exact .inl ⟨_, _, rfl, rfl, by decide +kernel, by decide +kernel⟩

theorem replay_agrees_climb : ∃ d', Runs (PollStep 0) sampleDaemon (climb.map some) d' ∧
    replayVelocityEma (sessionSeries (accountRows (climb.map (fun p => p.sample "A")) "A" 0 1000))
      sampleDaemon.settings.sessionVelocityEmaAlpha =
        (d'.accounts 0).sustainedSessionVelocity.map (·.rate) := by
  obtain ⟨d', hr⟩ := runs_polls sampleDaemon 0 climb
  refine ⟨d', hr, ?_⟩
  have hpolls := polls_map_some climb
  have hchron : Chronological (polls (climb.map some)) := by
    rw [hpolls]
    exact (List.pairwise_append.mp chronological_climb).1
  have hwindow : ∀ p ∈ polls (climb.map some), (0 : Int) ≤ p.at' ∧ (p.at' : Int) < 1000 := by
    rw [hpolls]
    decide
  have hagree := (replay_agrees "A" rfl hr hchron hwindow).1
  rw [hpolls] at hagree
  exact hagree steady_climb

/-- After a stale answer the daemon keeps its rate, and the replay has none. -/
theorem stale_answer_resets : ∃ d', Runs (PollStep 0) sampleDaemon ((climb ++ [staleAnswer]).map some) d' ∧
    Chronological (climb ++ [staleAnswer]) ∧
    replayVelocityEma (sessionSeries (accountRows
      ((climb ++ [staleAnswer]).map (fun p => p.sample "A")) "A" 0 1000))
        sampleDaemon.settings.sessionVelocityEmaAlpha = none ∧
    (d'.accounts 0).sustainedSessionVelocity.map (·.rate) = some (1 / 600) := by
  obtain ⟨d', hr⟩ := runs_polls sampleDaemon 0 (climb ++ [staleAnswer])
  refine ⟨d', hr, chronological_climb, ?_, ?_⟩
  · have hwindow : ∀ p ∈ climb ++ [staleAnswer], (0 : Int) ≤ p.at' ∧ (p.at' : Int) < 1000 := by decide
    rw [accountRows_samples "A" chronological_climb hwindow]
    decide +kernel
  · have hvelocity := congrArg Measured.velocity (runs_measured rfl hr).1
    rw [polls_map_some] at hvelocity
    have hretained : (measuredAfter sampleDaemon.settings.sessionVelocityEmaAlpha
        (climb ++ [staleAnswer])).velocity = some ⟨1 / 600, 2⟩ := by decide +kernel
    have hsession : (d'.accounts 0).sessionVelocity = some ⟨1 / 600, 2⟩ := hvelocity.trans hretained
    unfold AccountRuntime.sustainedSessionVelocity
    rw [hsession]
    rfl

end Sessiometer.Stats
