import Sessiometer.Daemon.Course
import Sessiometer.Daemon.HighWater
import Sessiometer.Pacing.Average
import Sessiometer.Stats.Velocity

/-! # The session velocity over a run

The rate that the daemon retains of an account is the exponential average of the climbs since it was last
cleared, whatever was polled, failed or swapped in between. -/

namespace Sessiometer.Stats

open Effects

/-! ## What the polls tell -/

/-- The counter as the source stores it, in 32 bits: it stays at its greatest value. -/
def storedSamples (v : VelocityEma) : ℕ := min v.samples u32Max

theorem storedSamples_next (v : VelocityEma) (rate : ℚ) :
    storedSamples ⟨rate, v.samples + 1⟩ = saturatingAdd32 (storedSamples v) 1 := by
  unfold saturatingAdd32
  change min (v.samples + 1) u32Max = min (min v.samples u32Max + 1) u32Max
  omega

/-- What a poll makes of the estimate. -/
inductive Effect where
  | sample (rate : ℚ)
  | clear
  | keep

def served (before : List Answer) : List Usage := before.filterMap (·.result.toOption)

/-- What the last poll read, if it was answered. -/
def lastServed (before : List Answer) : Option (Usage × Nanos) :=
  before.getLast?.bind (fun p => p.result.toOption.map (·, p.at'))

/-- Between two readings with a session window, of polls that follow each other. -/
def intervalEffect (mark : Option SessionHighWater) (prev next : Usage) (prevSession session : ℚ)
    (elapsedSecs : ℕ) : Effect :=
  if isStaleLow mark prev || isStaleLow mark next then .keep
  else if elapsedSecs = 0 ∨ session < prevSession then .clear
  else .sample ((session - prevSession) / elapsedSecs)

def effectOf (before : List Answer) (p : Answer) : Effect :=
  match p.result with
  | .error _ => .keep
  | .ok next =>
    match next.session, lastServed before with
    | none, _ => .clear
    | some _, none => .keep
    | some session, some (prev, prevAt) =>
      match prev.session with
      | none => .keep
      | some prevSession =>
        intervalEffect (markOf (served before)) prev next prevSession session
          (asSecs (saturatingDurationSince p.at' prevAt))

def Effect.onto (samples : List ℚ) : Effect → List ℚ
  | .sample rate => samples ++ [rate]
  | .clear => []
  | .keep => samples

/-- The climbs since the estimate was last cleared, from what was polled before and what is left. -/
def climbsFrom (before : List Answer) (samples : List ℚ) : List Answer → List ℚ
  | [] => samples
  | p :: rest => climbsFrom (before ++ [p]) ((effectOf before p).onto samples) rest

def climbs (ps : List Answer) : List ℚ := climbsFrom [] [] ps

/-- The estimate over climbs. -/
def estimate (alpha : ℚ) (samples : List ℚ) : Option VelocityEma :=
  (Pacing.average alpha samples).map (⟨·, samples.length⟩)

/-- A poll of the account, or anything that leaves its measurements and the weight alone. -/
inductive VelocityStep (i : ℕ) : Daemon → Option Answer → Daemon → Prop
  | polled {d : Daemon} (active : Option ℕ) (p : Answer) :
      VelocityStep i d (some p) (d.noteReading i active p.result p.at')
  | elsewhere {d d' : Daemon} : measured (d'.accounts i) = measured (d.accounts i) →
      d'.settings.sessionVelocityEmaAlpha = d.settings.sessionVelocityEmaAlpha →
      VelocityStep i d none d'

def answers (tr : List (Option Answer)) : List Answer := tr.filterMap id

/-! ## One poll -/

section Polls

variable {before ps : List Answer} {p : Answer} {samples : List ℚ}

theorem climbsFrom_snoc :
    climbsFrom before samples (ps ++ [p]) =
      (effectOf (before ++ ps) p).onto (climbsFrom before samples ps) := by
  induction ps generalizing before samples with
  | nil => simp [climbsFrom]
  | cons q ps ih =>
    rw [List.cons_append, climbsFrom, climbsFrom, ih, List.append_assoc, List.singleton_append]

theorem climbs_snoc : climbs (ps ++ [p]) = (effectOf ps p).onto (climbs ps) := climbsFrom_snoc

theorem served_snoc : served (ps ++ [p]) = served ps ++ p.result.toOption.toList := by
  unfold served
  rw [List.filterMap_append]
  cases h : p.result.toOption with
  | none => simp [h]
  | some usage => simp [h]

theorem lastServed_snoc : lastServed (ps ++ [p]) = p.result.toOption.map (·, p.at') := by
  simp [lastServed]

/-- A climb is not negative. -/
theorem sample_nonneg {rate : ℚ} (h : effectOf before p = .sample rate) : 0 ≤ rate := by
  unfold effectOf intervalEffect at h
  split at h
  · cases h
  · split at h
    · cases h
    · cases h
    · split at h
      · cases h
      · split at h
        · cases h
        · split at h
          · cases h
          · next hclimb =>
            rw [not_or, not_lt] at hclimb
            cases h
            have hrise := sub_nonneg.mpr hclimb.2
            positivity

theorem climbs_nonneg (ps : List Answer) : ∀ x ∈ climbs ps, 0 ≤ x := by
  induction ps using List.reverseRecOn with
  | nil => simp [climbs, climbsFrom]
  | append_singleton ps p ih =>
    rw [climbs_snoc]
    intro x hx
    cases heffect : effectOf ps p with
    | sample rate =>
      rw [heffect] at hx
      rcases List.mem_append.mp hx with hx | hx
      · exact ih x hx
      · rw [List.mem_singleton.mp hx]
        exact sample_nonneg heffect
    | clear =>
      rw [heffect] at hx
      cases hx
    | keep =>
      rw [heffect] at hx
      exact ih x hx

end Polls

/-! ## The estimate -/

section Estimate

variable {alpha : ℚ} {samples : List ℚ} {v : VelocityEma}

theorem estimate_eq_none : estimate alpha samples = none ↔ samples = [] := by
  unfold estimate
  rw [Option.map_eq_none_iff, Pacing.average_eq_none]

theorem estimate_eq_some :
    estimate alpha samples = some v ↔
      Pacing.average alpha samples = some v.rate ∧ v.samples = samples.length := by
  unfold estimate
  rw [Option.map_eq_some_iff]
  constructor
  · rintro ⟨rate, hrate, rfl⟩
    exact ⟨hrate, rfl⟩
  · rintro ⟨hrate, hlength⟩
    refine ⟨v.rate, hrate, ?_⟩
    rw [← hlength]

theorem estimate_snoc (rate : ℚ) : estimate alpha (samples ++ [rate]) =
    some (match estimate alpha samples with
      | some v => ⟨alpha * rate + (1 - alpha) * v.rate, v.samples + 1⟩
      | none => ⟨rate, 1⟩) := by
  rw [estimate, Pacing.average_snoc, Option.map_some, List.length_append, List.length_singleton]
  cases h : estimate alpha samples with
  | none =>
    rw [estimate_eq_none.mp h]
    rfl
  | some v =>
    obtain ⟨hrate, hlength⟩ := estimate_eq_some.mp h
    rw [hrate]
    dsimp only
    rw [hlength]
    rfl

theorem noteRate_estimate (prev next : ℚ) (elapsedSecs : ℕ) :
    noteRate alpha (estimate alpha samples) prev next elapsedSecs =
      estimate alpha ((if elapsedSecs = 0 ∨ next < prev then Effect.clear
        else .sample ((next - prev) / elapsedSecs)).onto samples) := by
  unfold noteRate
  by_cases h : elapsedSecs = 0 ∨ next < prev
  · rw [if_pos h, if_pos h]
    rfl
  · rw [if_neg h, if_neg h]
    exact (estimate_snoc _).symm

/-- The slot of an account that was polled so. -/
def slotAfter (alpha : ℚ) (ps : List Answer) : Measured where
  reading := lastServed ps
  velocity := estimate alpha (climbs ps)
  mark := markOf (served ps)

theorem velocity_slotAfter (ps : List Answer) (next : Usage) (now : Nanos) :
    (if next.session.isNone then none else (slotAfter alpha ps).noteInterval alpha next now) =
      estimate alpha (climbs (ps ++ [⟨.ok next, now⟩])) := by
  rw [climbs_snoc]
  unfold effectOf Measured.noteInterval
  dsimp only [slotAfter]
  cases next.session with
  | none => rfl
  | some session =>
    cases hlast : lastServed ps with
    | none => rfl
    | some x =>
      obtain ⟨prev, prevAt⟩ := x
      cases hprev : prev.session with
      | none =>
        dsimp only
        simp only [hprev, Option.isNone_some, Bool.false_eq_true, if_false, ite_self]
        rfl
      | some prevSession =>
        simp only [hprev, intervalEffect, Option.isNone_some, Bool.false_eq_true, if_false]
        by_cases hstale : (isStaleLow (markOf (served ps)) prev ||
            isStaleLow (markOf (served ps)) next) = true
        · rw [if_pos hstale, if_pos hstale]
          rfl
        · rw [if_neg hstale, if_neg hstale]
          exact noteRate_estimate _ _ _

theorem fold_slotAfter (ps : List Answer) (next : Usage) (now : Nanos) :
    (slotAfter alpha ps).fold alpha next now = slotAfter alpha (ps ++ [⟨.ok next, now⟩]) := by
  unfold Measured.fold
  rw [velocity_slotAfter]
  dsimp only [slotAfter]
  rw [lastServed_snoc, served_snoc]
  simp [markOf, Except.toOption]

end Estimate

/-! ## Runs -/

section Runs

variable {i : ℕ} {d d' : Daemon} {tr : List (Option Answer)}

/-- A failed poll forgets the reading and keeps the rest. -/
theorem measured_noteReading_error (d : Daemon) (i : ℕ) (active : Option ℕ) (e : Error) (now : Nanos) :
    measured ((d.noteReading i active (.error e) now).accounts i) =
      { measured (d.accounts i) with reading := none } := by
  unfold Daemon.noteReading
  dsimp only
  rw [storeReading_accounts, Function.update_self]
  have hmeasured := (measured_noteLandingOvershoot (d.noteBlindEpisode i active (.error e) now) i active
    now (.error e)).trans (measured_noteBlindEpisode d i active now (.error e))
  generalize ((d.noteBlindEpisode i active (.error e) now).noteLandingOvershoot i active
    (.error e) now).accounts i = a at hmeasured ⊢
  have hvelocity := congrArg Measured.velocity hmeasured
  have hmark := congrArg Measured.mark hmeasured
  change a.sessionVelocity = _ at hvelocity
  change a.sessionHighWater = _ at hmark
  unfold measured AccountRuntime.stored
  dsimp only
  rw [hvelocity, hmark]
  rfl

theorem slotAfter_noteReading {alpha : ℚ} {ps : List Answer} (p : Answer) (active : Option ℕ)
    (hslot : measured (d.accounts i) = slotAfter alpha ps)
    (halpha : d.settings.sessionVelocityEmaAlpha = alpha) :
    measured ((d.noteReading i active p.result p.at').accounts i) = slotAfter alpha (ps ++ [p]) := by
  obtain ⟨result, now⟩ := p
  cases result with
  | ok next =>
    dsimp only
    rw [measured_noteReading, hslot, halpha, fold_slotAfter]
  | error e =>
    dsimp only
    rw [measured_noteReading_error, hslot]
    unfold slotAfter
    rw [climbs_snoc, lastServed_snoc, served_snoc]
    simp [effectOf, Effect.onto, Except.toOption]

theorem runs_slotAfter (hfresh : measured (d.accounts i) = {}) (hr : Runs (VelocityStep i) d tr d') :
    measured (d'.accounts i) = slotAfter d.settings.sessionVelocityEmaAlpha (answers tr) ∧
      d'.settings.sessionVelocityEmaAlpha = d.settings.sessionVelocityEmaAlpha := by
  apply hr.invariant (I := fun tr s => measured (s.accounts i) =
    slotAfter d.settings.sessionVelocityEmaAlpha (answers tr) ∧
      s.settings.sessionVelocityEmaAlpha = d.settings.sessionVelocityEmaAlpha)
  · exact ⟨hfresh, rfl⟩
  · rintro tr s l s' ⟨hslot, halpha⟩ hs
    cases hs with
    | polled active p =>
      have hanswers : answers (tr ++ [some p]) = answers tr ++ [p] := by simp [answers]
      rw [hanswers, noteReading_settings]
      exact ⟨slotAfter_noteReading p active hslot halpha, halpha⟩
    | elsewhere hsame hweight =>
      have hanswers : answers (tr ++ [none]) = answers tr := by simp [answers]
      rw [hanswers, hsame, hweight]
      exact ⟨hslot, halpha⟩

/-- A recorded swap leaves the estimate alone. -/
theorem velocityStep_swapRecorded (d : Daemon) (i target : ℕ) (at' : Nanos) :
    VelocityStep i d none (d.swapRecorded target at') := by
  refine .elsewhere ?_ rfl
  exact Daemon.setAccount_kept (({ d with active := some target } : Daemon).invalidatePollSchedule) target
    measured (f := fun a => { a with parkedLanding := none }) (by intro a; rfl) i

theorem noteInterval_other (d : Daemon) {i j : ℕ} (hi : i ≠ j) (next : Usage) (now : Nanos) :
    (d.noteInterval j next now).accounts i = d.accounts i := by
  unfold Daemon.noteInterval
  split
  · dsimp only
    split
    · exact congrFun (emitIf_accounts _ _ _) i
    · split
      · unfold Daemon.noteSessionVelocity
        split
        · rw [Daemon.setAccount_of_ne _ _ hi, emitIf_accounts]
        · rw [Daemon.setAccount_of_ne _ _ hi, emitIf_accounts]
      · exact congrFun (emitIf_accounts _ _ _) i
  · rfl

/-- So does a poll of another account. -/
theorem velocityStep_other (d : Daemon) {i j : ℕ} (hi : i ≠ j) (active : Option ℕ) (p : Answer) :
    VelocityStep i d none (d.noteReading j active p.result p.at') := by
  have hcompared : ∀ s : Daemon, s.accounts i = d.accounts i →
      (((s.noteBlindEpisode j active p.result p.at').noteLandingOvershoot j active p.result
        p.at').storeReading j active p.result p.at').accounts i = d.accounts i := by
    intro s hs
    rw [storeReading_accounts, Function.update_of_ne hi, noteLandingOvershoot_other _ hi,
      noteBlindEpisode_other s hi, hs]
  refine .elsewhere ?_ (congrArg Settings.sessionVelocityEmaAlpha (noteReading_settings ..))
  apply congrArg measured
  unfold Daemon.noteReading
  cases hresult : p.result with
  | error e =>
    rw [hresult] at hcompared
    exact hcompared d rfl
  | ok next =>
    rw [hresult] at hcompared
    apply hcompared
    rw [noteBlindWindow_accounts, noteInterval_other d hi]

end Runs

/-! ## The estimate over a run -/

/-- What a poll does to the estimate, from what was polled before it. -/
structure PollEffect (before : List Answer) (p : Answer) (old new : Option VelocityEma) : Prop where
  failed : ∀ e, p.result = .error e → new = old
  windowless : ∀ next, p.result = .ok next → next.session = none → new = none
  stale : ∀ next prev prevAt, p.result = .ok next → next.session ≠ none →
    lastServed before = some (prev, prevAt) →
    (isStaleLow (markOf (served before)) prev = true ∨ isStaleLow (markOf (served before)) next = true) →
    new = old
  drop : ∀ next prev prevAt prevSession session, p.result = .ok next → next.session = some session →
    lastServed before = some (prev, prevAt) → prev.session = some prevSession →
    isStaleLow (markOf (served before)) prev = false → isStaleLow (markOf (served before)) next = false →
    session < prevSession → new = none
  still : ∀ prev prevAt, lastServed before = some (prev, prevAt) →
    asSecs (saturatingDurationSince p.at' prevAt) = 0 → new = old ∨ new = none

section Effects

variable {alpha : ℚ} {before : List Answer} {p : Answer}

theorem intervalEffect_stale {mark : Option SessionHighWater} {prev next : Usage} {a b : ℚ} {e : ℕ}
    (h : isStaleLow mark prev = true ∨ isStaleLow mark next = true) :
    intervalEffect mark prev next a b e = .keep := by
  unfold intervalEffect
  rw [if_pos (by simpa using h)]

theorem intervalEffect_fresh {mark : Option SessionHighWater} {prev next : Usage} {a b : ℚ} {e : ℕ}
    (hprev : isStaleLow mark prev = false) (hnext : isStaleLow mark next = false)
    (h : e = 0 ∨ b < a) : intervalEffect mark prev next a b e = .clear := by
  unfold intervalEffect
  rw [if_neg (by simp [hprev, hnext]), if_pos h]

theorem effectOf_still {prev : Usage} {prevAt : Nanos} (hlast : lastServed before = some (prev, prevAt))
    (h : asSecs (saturatingDurationSince p.at' prevAt) = 0) :
    effectOf before p = .keep ∨ effectOf before p = .clear := by
  unfold effectOf
  cases p.result with
  | error e => exact .inl rfl
  | ok next =>
    dsimp only
    rw [hlast]
    cases next.session with
    | none => exact .inr rfl
    | some session =>
      dsimp only
      cases prev.session with
      | none => exact .inl rfl
      | some prevSession =>
        dsimp only
        by_cases hstale : isStaleLow (markOf (served before)) prev = true ∨
            isStaleLow (markOf (served before)) next = true
        · exact .inl (intervalEffect_stale hstale)
        · rw [not_or, Bool.not_eq_true, Bool.not_eq_true] at hstale
          exact .inr (intervalEffect_fresh hstale.1 hstale.2 (.inl h))

theorem pollEffect_estimate : PollEffect before p (estimate alpha (climbs before))
    (estimate alpha (climbs (before ++ [p]))) := by
  rw [climbs_snoc]
  have hkeep : effectOf before p = .keep →
      estimate alpha ((effectOf before p).onto (climbs before)) = estimate alpha (climbs before) := by
    intro h
    rw [h]
    rfl
  have hclear : effectOf before p = .clear →
      estimate alpha ((effectOf before p).onto (climbs before)) = none := by
    intro h
    rw [h]
    rfl
  constructor
  · intro e he
    apply hkeep
    simp [effectOf, he]
  · intro next hnext hsession
    apply hclear
    simp [effectOf, hnext, hsession]
  · intro next prev prevAt hnext hsession hlast hstale
    apply hkeep
    obtain ⟨session, hsession⟩ := Option.ne_none_iff_exists'.mp hsession
    unfold effectOf
    simp only [hnext, hsession, hlast]
    cases prev.session with
    | none => rfl
    | some prevSession => exact intervalEffect_stale hstale
  · intro next prev prevAt prevSession session hnext hsession hlast hprev hfresh hfresh' hdrop
    apply hclear
    unfold effectOf
    simp only [hnext, hsession, hlast, hprev]
    exact intervalEffect_fresh hfresh hfresh' (.inr hdrop)
  · intro prev prevAt hlast hstill
    rcases effectOf_still hlast hstill with h | h
    · exact .inl (hkeep h)
    · exact .inr (hclear h)

end Effects

/-- Over every run from a slot that is empty, the rate is between zero and the greatest climb since the
estimate was last cleared, its samples count these climbs as far as 32 bits go, and each poll does to it
what it should. -/
theorem session_velocity_spec {i : ℕ} {d d' : Daemon} {tr : List (Option Answer)}
    (hfresh : measured (d.accounts i) = {}) (hpos : 0 < d.settings.sessionVelocityEmaAlpha)
    (hle : d.settings.sessionVelocityEmaAlpha ≤ 1) (hr : Runs (VelocityStep i) d tr d') :
    (∀ v, (d'.accounts i).sessionVelocity = some v →
      0 ≤ v.rate ∧ (∃ x ∈ climbs (answers tr), v.rate ≤ x) ∧
        storedSamples v = min (climbs (answers tr)).length u32Max) ∧
    ((d'.accounts i).sessionVelocity = none ↔ climbs (answers tr) = []) ∧
    ∀ p s, VelocityStep i d' (some p) s →
      PollEffect (answers tr) p (d'.accounts i).sessionVelocity (s.accounts i).sessionVelocity := by
  have hvelocity : ∀ {tr s}, Runs (VelocityStep i) d tr s → (s.accounts i).sessionVelocity =
      estimate d.settings.sessionVelocityEmaAlpha (climbs (answers tr)) := by
    intro tr s hs
    exact congrArg Measured.velocity (runs_slotAfter hfresh hs).1
  refine ⟨?_, ?_, ?_⟩
  · intro v hv
    rw [hvelocity hr] at hv
    obtain ⟨hrate, hlength⟩ := estimate_eq_some.mp hv
    refine ⟨Pacing.le_average hpos.le hle (climbs_nonneg _) hrate,
      Pacing.exists_average_le hpos.le hle hrate, ?_⟩
    unfold storedSamples
    rw [hlength]
  · rw [hvelocity hr, estimate_eq_none]
  · intro p s hs
    have hanswers : answers (tr ++ [some p]) = answers tr ++ [p] := by simp [answers]
    rw [hvelocity hr, hvelocity (hr.snoc hs), hanswers]
    exact pollEffect_estimate

theorem runs_answers (d : Daemon) (i : ℕ) (ps : List Answer) :
    ∃ d', Runs (VelocityStep i) d (ps.map some) d' := by
  induction ps using List.reverseRecOn with
  | nil => exact ⟨d, .refl⟩
  | append_singleton ps p ih =>
    obtain ⟨d', hd'⟩ := ih
    refine ⟨d'.noteReading i (some i) p.result p.at', ?_⟩
    rw [List.map_append]
    exact .snoc hd' (.polled (some i) p)

theorem answers_map_some (ps : List Answer) : answers (ps.map some) = ps := by
  simp [answers, List.filterMap_map]

/-- A served reading, at a minute. -/
def servedAt (session : Option ℚ) (window : Option Int) (minute : ℕ) : Answer :=
  ⟨.ok ⟨session, none, none, window⟩, secs (60 * minute)⟩

def failedAt (minute : ℕ) : Answer := ⟨.error .io, secs (60 * minute)⟩

/-- Two climbs of one window, whose rates are blended. -/
def twoClimbs : List Answer :=
  [servedAt (some (50 / 100)) (some 9000) 0, servedAt (some (60 / 100)) (some 9000) 1,
    servedAt (some (80 / 100)) (some 9000) 2]

theorem session_velocity_spec_climbs : ∃ d', Runs (VelocityStep 0) sampleDaemon (twoClimbs.map some) d' ∧
    climbs (answers (twoClimbs.map some)) = [1 / 600, 1 / 300] ∧
    ∀ v, (d'.accounts 0).sessionVelocity = some v →
      0 ≤ v.rate ∧ (∃ x ∈ climbs (answers (twoClimbs.map some)), v.rate ≤ x) ∧
        storedSamples v = min (climbs (answers (twoClimbs.map some))).length u32Max := by
  obtain ⟨d', hr⟩ := runs_answers sampleDaemon 0 twoClimbs
  exact ⟨d', hr, by decide +kernel,
    (session_velocity_spec rfl (by decide +kernel) (by decide +kernel) hr).1⟩

/-! ## Where the estimate stops short -/

/-- Polls of an account that stands still, in no window that is known. -/
def standing (n : ℕ) : List Answer := (List.range n).map (servedAt (some (1 / 2)) none)

theorem standing_succ (n : ℕ) : standing (n + 1) = standing n ++ [servedAt (some (1 / 2)) none n] := by
  simp [standing, List.range_succ]

theorem markOf_standing (n : ℕ) : markOf (served (standing n)) = none := by
  induction n with
  | zero => rfl
  | succ n ih =>
    rw [standing_succ, served_snoc]
    exact markOf_snoc.trans (by rw [ih]; rfl)

theorem climbs_standing (n : ℕ) : climbs (standing (n + 1)) = List.replicate n 0 := by
  induction n with
  | zero => rfl
  | succ n ih =>
    rw [standing_succ, climbs_snoc, ih, List.replicate_succ']
    have heffect : effectOf (standing (n + 1)) (servedAt (some (1 / 2)) none (n + 1)) = .sample 0 := by
      have helapsed : asSecs (saturatingDurationSince (secs (60 * (n + 1))) (secs (60 * n))) = 60 := by
        rw [asSecs_between]
        omega
      unfold effectOf
      rw [markOf_standing, standing_succ, lastServed_snoc]
      simp [servedAt, intervalEffect, isStaleLow, Except.toOption, helapsed]
    rw [heffect]
    rfl

/-- A climb, and a stale answer that a reading without a session window follows. -/
def staleThenWindowless : List Answer :=
  [servedAt (some (50 / 100)) (some 9000) 0, servedAt (some (70 / 100)) (some 9000) 1,
    servedAt (some (60 / 100)) (some 9000) 2]

/-- A climb, and a failed poll that a lower reading of the next window follows. -/
def climbThenFailed : List Answer :=
  [servedAt (some (50 / 100)) (some 9000) 0, servedAt (some (60 / 100)) (some 9000) 1, failedAt 2]

/-- The samples are counted up to the greatest number of 32 bits; an interval from a stale answer to a
reading without a session window clears the estimate; a drop across a failed poll does not. -/
theorem session_velocity_overstated :
    (∃ tr d', Runs (VelocityStep 0) sampleDaemon tr d' ∧ ∃ v,
      (d'.accounts 0).sessionVelocity = some v ∧ storedSamples v ≠ (climbs (answers tr)).length) ∧
    (∃ tr d' p s, Runs (VelocityStep 0) sampleDaemon tr d' ∧ VelocityStep 0 d' (some p) s ∧
      (∃ prev prevAt, lastServed (answers tr) = some (prev, prevAt) ∧
        isStaleLow (markOf (served (answers tr))) prev = true) ∧
      (s.accounts 0).sessionVelocity ≠ (d'.accounts 0).sessionVelocity) ∧
    ∃ tr d' p s prev next, Runs (VelocityStep 0) sampleDaemon tr d' ∧ VelocityStep 0 d' (some p) s ∧
      (served (answers tr)).getLast? = some prev ∧ p.result = .ok next ∧
      (∃ a b, prev.session = some a ∧ next.session = some b ∧ b < a) ∧
      isStaleLow (markOf (served (answers tr))) prev = false ∧
      isStaleLow (markOf (served (answers tr))) next = false ∧
      (s.accounts 0).sessionVelocity ≠ none := by
  have hvelocity : ∀ {ps d'}, Runs (VelocityStep 0) sampleDaemon (ps.map some) d' →
      (d'.accounts 0).sessionVelocity = estimate sampleDaemon.settings.sessionVelocityEmaAlpha (climbs ps) := by
    intro ps d' hr
    have hslot := (runs_slotAfter rfl hr).1
    rw [answers_map_some] at hslot
    exact congrArg Measured.velocity hslot
  have hnext : ∀ (ps : List Answer) (p : Answer) {d' : Daemon},
      Runs (VelocityStep 0) sampleDaemon (ps.map some) d' →
      Runs (VelocityStep 0) sampleDaemon ((ps ++ [p]).map some) (d'.noteReading 0 (some 0) p.result p.at') := by
    intro ps p d' hr
    rw [List.map_append]
    exact .snoc hr (.polled (some 0) p)
  refine ⟨?_, ?_, ?_⟩
  · obtain ⟨d', hr⟩ := runs_answers sampleDaemon 0 (standing (u32Max + 2))
    have hv := hvelocity hr
    cases hestimate : (d'.accounts 0).sessionVelocity with
    | none =>
      rw [hestimate] at hv
      have hnil := estimate_eq_none.mp hv.symm
      rw [climbs_standing, List.replicate_succ] at hnil
      cases hnil
    | some v =>
      refine ⟨_, d', hr, v, hestimate, ?_⟩
      rw [hestimate] at hv
      have hlength := (estimate_eq_some.mp hv.symm).2
      rw [answers_map_some]
      unfold storedSamples
      rw [hlength, climbs_standing, List.length_replicate]
      omega
  · obtain ⟨d', hr⟩ := runs_answers sampleDaemon 0 staleThenWindowless
    refine ⟨_, d', servedAt none none 3, _, hr, .polled (some 0) _, ?_, ?_⟩
    · rw [answers_map_some]
      exact ⟨_, _, rfl, by decide +kernel⟩
    · rw [hvelocity hr, hvelocity (hnext _ (servedAt none none 3) hr)]
      decide +kernel
  · obtain ⟨d', hr⟩ := runs_answers sampleDaemon 0 climbThenFailed
    refine ⟨_, d', servedAt (some (10 / 100)) (some 30000) 3, _, ⟨some (60 / 100), none, none, some 9000⟩,
      ⟨some (10 / 100), none, none, some 30000⟩, hr, .polled (some 0) _, ?_, rfl,
      ⟨_, _, rfl, rfl, by decide +kernel⟩, ?_, ?_, ?_⟩
    · rw [answers_map_some]
      rfl
    · rw [answers_map_some]
      decide +kernel
    · rw [answers_map_some]
      decide +kernel
    · rw [hvelocity (hnext _ (servedAt (some (10 / 100)) (some 30000) 3) hr)]
      decide +kernel

end Sessiometer.Stats
