import Sessiometer.Daemon.LockedSwap
import Sessiometer.Daemon.Roster

/-! # The two copies of the roster

Every tick compares the roster on disk with the live one, by size, and reports what has changed of the
comparison. -/

namespace Sessiometer

open Effects

/-! ## The check -/

inductive RosterReloadOutcome where
  | adopted
  | refused
  | failed
  | diverged
  | undetermined
  | converged
deriving DecidableEq

inductive RosterReloadReason where
  | reloadDisabled
  | shrink
  | absent
  | unreadable
  | countMismatch
deriving DecidableEq

/-- The event of a reload, or of a check. -/
structure RosterReload where
  outcome : RosterReloadOutcome
  previous : Option ℕ
  incoming : Option ℕ
  reason : Option RosterReloadReason
deriving DecidableEq

inductive RosterCheckVerdict where
  | agrees
  | diverged (previous incoming : ℕ)
  | absent (previous : ℕ)
  | undetermined (previous : ℕ)
deriving DecidableEq

/-- Why a configuration does not load. -/
inductive LoadError where
  | configNotFound
  | unusable
deriving DecidableEq

/-- What `load_path` makes of the file, as far as the roster goes. -/
abbrev LoadedRoster := Except LoadError (List Account)

/-- The verdict, and how many accounts the file presents. -/
def rosterCheckVerdict (previous : ℕ) (configPath : Option LoadedRoster) : RosterCheckVerdict × Option ℕ :=
  match configPath with
  | none => (.agrees, none)
  | some (.ok roster) =>
    (if roster.length = previous then .agrees else .diverged previous roster.length, some roster.length)
  | some (.error .configNotFound) => (if 0 < previous then .absent previous else .agrees, none)
  | some (.error .unusable) => (.undetermined previous, none)

def RosterCheckVerdict.event (previous : ℕ) (observed : Option ℕ) : RosterCheckVerdict → RosterReload
  | .agrees => ⟨.converged, some previous, observed, none⟩
  | .diverged previous incoming => ⟨.diverged, some previous, some incoming, some .countMismatch⟩
  | .absent previous => ⟨.diverged, some previous, none, some .absent⟩
  | .undetermined previous => ⟨.undetermined, some previous, none, some .unreadable⟩

/-- The daemon and its surroundings, what the configured path holds if there is one, the latch of the
check with the ticks it counts, and the events of reloads and checks in the log. -/
structure Checked where
  daemon : Daemon
  world : World
  configPath : Option LoadedRoster
  ticks : ℕ := 0
  rosterCheck : RosterCheckVerdict := .agrees
  log : List RosterReload := []

namespace Checked

/-- What the file and the daemon have to say to each other now. -/
def verdict (s : Checked) : RosterCheckVerdict :=
  (rosterCheckVerdict s.daemon.roster.length s.configPath).1

def checkRosterDivergence (s : Checked) : Checked :=
  if s.ticks ≤ 1 then s
  else
    let previous := s.daemon.roster.length
    let (verdict, observed) := rosterCheckVerdict previous s.configPath
    if verdict = s.rosterCheck then { s with rosterCheck := verdict }
    else { s with rosterCheck := verdict, log := s.log ++ [verdict.event previous observed] }

def beginTick (s : Checked) : Checked := { s with ticks := s.ticks + 1 }

/-- `adopt_roster_reload`. -/
def adoptRosterReload (s : Checked) (intent : ReloadIntent) : Checked :=
  let previous := some s.daemon.roster.length
  match s.configPath with
  | none => { s with log := s.log ++ [⟨.refused, previous, none, some .reloadDisabled⟩] }
  | some (.ok roster) =>
    { s with
      daemon := s.daemon.reconcileRoster roster intent
      log := s.log ++ [
        if s.daemon.rosterState.refuses roster intent then
          ⟨.refused, previous, some roster.length, some .shrink⟩
        else ⟨.adopted, previous, some roster.length, none⟩] }
  | some (.error .configNotFound) => { s with log := s.log ++ [⟨.failed, previous, none, some .absent⟩] }
  | some (.error .unusable) => { s with log := s.log ++ [⟨.failed, previous, none, some .unreadable⟩] }

end Checked

inductive CheckTurn where
  | tick
  | between
deriving DecidableEq

section Steps

variable [SerdeJson] [Sha256]

/-- A tick, which checks before anything else; what the daemon does between ticks, and the reloads among
it that are reported; and what others do to the file. -/
inductive CheckStep (D : Device Seams World) : Checked → CheckTurn → Checked → Prop
  | ticked {s : Checked} {d' : Daemon} {w' : World} {events : List Event} {decision : Option Decision} :
      DaemonStep D (s.beginTick.checkRosterDivergence.daemon, s.world) (.tick events decision) (d', w') →
      CheckStep D s .tick { s.beginTick.checkRosterDivergence with daemon := d', world := w' }
  | between {s : Checked} {d' : Daemon} {w' : World} : DaemonStep D (s.daemon, s.world) .between (d', w') →
      CheckStep D s .between { s with daemon := d', world := w' }
  | reloaded {s : Checked} (intent : ReloadIntent) : CheckStep D s .between (s.adoptRosterReload intent)
  | rewritten {s : Checked} (loaded : LoadedRoster) : s.configPath.isSome = true →
      CheckStep D s .between { s with configPath := some loaded }

end Steps

/-! ## The log -/

/-- The verdict that an event of the check reports. -/
def RosterReload.verdict? (r : RosterReload) : Option RosterCheckVerdict :=
  match r.outcome, r.previous, r.incoming with
  | .converged, _, _ => some .agrees
  | .diverged, some previous, some incoming => some (.diverged previous incoming)
  | .diverged, some previous, none => some (.absent previous)
  | .undetermined, some previous, _ => some (.undetermined previous)
  | _, _, _ => none

/-- The verdict that the log has last reported. It leaves an episode open unless the copies agree. -/
def reported (log : List RosterReload) : RosterCheckVerdict :=
  (log.filterMap RosterReload.verdict?).getLast?.getD .agrees

theorem verdict?_event (verdict : RosterCheckVerdict) (previous : ℕ) (observed : Option ℕ) :
    (verdict.event previous observed).verdict? = some verdict := by
  cases verdict <;> rfl

theorem event_converged {verdict : RosterCheckVerdict} {previous : ℕ} {observed : Option ℕ} :
    (verdict.event previous observed).outcome = .converged ↔ verdict = .agrees := by
  cases verdict <;> simp [RosterCheckVerdict.event]

theorem reported_append (log : List RosterReload) (r : RosterReload) :
    reported (log ++ [r]) = r.verdict?.getD (reported log) := by
  unfold reported
  rw [List.filterMap_append]
  cases hr : r.verdict? with
  | none => simp [hr]
  | some verdict => simp [hr]

/-- The copies agree as far as the check can see. -/
theorem verdict_agrees_iff {s : Checked} (harmed : s.configPath.isSome = true) : s.verdict = .agrees ↔
    (∃ roster, s.configPath = some (.ok roster) ∧ roster.length = s.daemon.roster.length) ∨
    s.configPath = some (.error .configNotFound) ∧ s.daemon.roster = [] := by
  obtain ⟨loaded, hloaded⟩ := Option.isSome_iff_exists.mp harmed
  unfold Checked.verdict rosterCheckVerdict
  rw [hloaded]
  cases loaded with
  | ok roster =>
    by_cases hlen : roster.length = s.daemon.roster.length
    · simp [hlen]
    · simp [hlen]
  | error e =>
    cases e with
    | unusable => simp
    | configNotFound =>
      by_cases hpos : 0 < s.daemon.roster.length
      · have hne : s.daemon.roster ≠ [] := List.ne_nil_of_length_pos hpos
        simp [hpos, hne]
      · have hnil : s.daemon.roster = [] := List.eq_nil_of_length_eq_zero (by omega)
        simp [hnil]

theorem check_eq (s : Checked) : s.checkRosterDivergence =
    if s.ticks ≤ 1 then s
    else { s with
      rosterCheck := s.verdict
      log := if s.verdict = s.rosterCheck then s.log
        else s.log ++ [s.verdict.event s.daemon.roster.length
          (rosterCheckVerdict s.daemon.roster.length s.configPath).2] } := by
  unfold Checked.checkRosterDivergence Checked.verdict
  by_cases hfirst : s.ticks ≤ 1
  · rw [if_pos hfirst, if_pos hfirst]
  · rw [if_neg hfirst, if_neg hfirst]
    dsimp only
    by_cases hsame : (rosterCheckVerdict s.daemon.roster.length s.configPath).1 = s.rosterCheck
    · rw [if_pos hsame, if_pos hsame]
    · rw [if_neg hsame, if_neg hsame]

/-- The check moves its latch and the log, and nothing else. -/
theorem check_frame (s : Checked) : s.checkRosterDivergence.daemon = s.daemon ∧
    s.checkRosterDivergence.configPath = s.configPath ∧ s.checkRosterDivergence.world = s.world := by
  rw [check_eq]
  split
  · exact ⟨rfl, rfl, rfl⟩
  · exact ⟨rfl, rfl, rfl⟩

theorem reported_reload (s : Checked) (intent : ReloadIntent) :
    reported (s.adoptRosterReload intent).log = reported s.log ∧
    ∃ r : RosterReload, (s.adoptRosterReload intent).log = s.log ++ [r] ∧ r.outcome ≠ .converged := by
  have hsilent : ∀ r : RosterReload, r.verdict? = none → r.outcome ≠ .converged →
      (s.adoptRosterReload intent).log = s.log ++ [r] →
      reported (s.adoptRosterReload intent).log = reported s.log ∧
      ∃ r : RosterReload, (s.adoptRosterReload intent).log = s.log ++ [r] ∧ r.outcome ≠ .converged := by
    intro r hnone houtcome hlog
    refine ⟨?_, r, hlog, houtcome⟩
    rw [hlog, reported_append, hnone]
    rfl
  unfold Checked.adoptRosterReload at hsilent ⊢
  cases hpath : s.configPath with
  | none =>
    rw [hpath] at hsilent
    exact hsilent _ rfl (by simp) rfl
  | some loaded =>
    rw [hpath] at hsilent
    cases loaded with
    | ok roster =>
      by_cases hrefuses : s.daemon.rosterState.refuses roster intent
      · simp only [if_pos hrefuses] at hsilent ⊢
        exact hsilent _ rfl (by simp) rfl
      · simp only [if_neg hrefuses] at hsilent ⊢
        exact hsilent _ rfl (by simp) rfl
    | error e =>
      cases e with
      | configNotFound => exact hsilent _ rfl (by simp) rfl
      | unusable => exact hsilent _ rfl (by simp) rfl

/-! ## Runs -/

section Runs

variable [SerdeJson] [Sha256] {D : Device Seams World} {s₀ s s' : Checked} {tr : List CheckTurn}

omit [SerdeJson] [Sha256] in
/-- A check under a latch that holds what is reported reports the verdict, if it is another one. -/
theorem check_log (hsecond : 1 < s.ticks) (hlatch : s.rosterCheck = reported s.log) :
    s.checkRosterDivergence.rosterCheck = s.verdict ∧
    (s.verdict = reported s.log → s.checkRosterDivergence.log = s.log) ∧
    (s.verdict ≠ reported s.log → ∃ r : RosterReload, s.checkRosterDivergence.log = s.log ++ [r] ∧
      r.verdict? = some s.verdict ∧ (r.outcome = .converged ↔ s.verdict = .agrees)) := by
  have hnot : ¬ s.ticks ≤ 1 := by omega
  rw [check_eq, if_neg hnot, hlatch]
  refine ⟨rfl, ?_, ?_⟩
  · intro hsame
    exact if_pos hsame
  · intro hother
    exact ⟨_, if_neg hother, verdict?_event .., event_converged⟩

/-- The latch of the check holds what the log has last reported, and the ticks are counted. -/
theorem runs_latched (hticks : s₀.ticks = 0) (hcheck : s₀.rosterCheck = .agrees) (hlog : s₀.log = [])
    (hr : Runs (CheckStep D) s₀ tr s) : s.rosterCheck = reported s.log ∧ s.ticks = tr.count .tick := by
  apply hr.invariant (I := fun tr s => s.rosterCheck = reported s.log ∧ s.ticks = tr.count .tick)
  · rw [hcheck, hlog]
    exact ⟨rfl, hticks⟩
  · rintro tr s l s' ⟨hlatch, hcount⟩ hs
    cases hs with
    | ticked hstep =>
      have hticks' : s.beginTick.checkRosterDivergence.ticks = s.ticks + 1 := by
        rw [check_eq]
        split
        · rfl
        · rfl
      refine ⟨?_, by simp [hticks', hcount]⟩
      by_cases hsecond : 1 < s.beginTick.ticks
      · obtain ⟨hcheck, hsame, hother⟩ := check_log hsecond hlatch
        dsimp only
        rw [hcheck]
        by_cases heq : s.beginTick.verdict = reported s.beginTick.log
        · rw [hsame heq]
          exact heq
        · obtain ⟨r, happend, hr, -⟩ := hother heq
          rw [happend, reported_append, hr]
          rfl
      · have hfirst : s.beginTick.checkRosterDivergence = s.beginTick := by
          rw [check_eq, if_pos (by omega)]
        dsimp only
        rw [hfirst]
        exact hlatch
    | between hstep => exact ⟨hlatch, by simp [hcount]⟩
    | reloaded intent =>
      have hkeeps : (s.adoptRosterReload intent).rosterCheck = s.rosterCheck ∧
          (s.adoptRosterReload intent).ticks = s.ticks := by
        unfold Checked.adoptRosterReload
        dsimp only
        split <;> exact ⟨rfl, rfl⟩
      rw [hkeeps.1, hkeeps.2, (reported_reload s intent).1]
      exact ⟨hlatch, by simp [hcount]⟩
    | rewritten loaded harmed => exact ⟨hlatch, by simp [hcount]⟩

/-- From the second tick on the log tells, after each tick, what the sizes of the two copies tell; a tick
reports what it does not yet tell, and a converged event is what ends an open episode. The check leaves
the tick as it is, and the file. -/
theorem divergence_reported (hticks : s₀.ticks = 0) (hcheck : s₀.rosterCheck = .agrees)
    (hlog : s₀.log = []) (hr : Runs (CheckStep D) s₀ tr s) :
    (∀ s', CheckStep D s .tick s' →
      (.tick ∉ tr → s'.log = s.log) ∧
      (.tick ∈ tr → reported s'.log = s.verdict ∧
        (s.verdict = reported s.log → s'.log = s.log) ∧
        (s.verdict ≠ reported s.log → ∃ r : RosterReload, s'.log = s.log ++ [r] ∧
          r.verdict? = some s.verdict)) ∧
      s'.configPath = s.configPath ∧ ∃ events decision,
        DaemonStep D (s.daemon, s.world) (.tick events decision) (s'.daemon, s'.world)) ∧
    (∀ s', CheckStep D s .between s' → reported s'.log = reported s.log) ∧
    (∀ l s', CheckStep D s l s' → ((∃ r : RosterReload, s'.log = s.log ++ [r] ∧ r.outcome = .converged) ↔
      l = .tick ∧ .tick ∈ tr ∧ reported s.log ≠ .agrees ∧ s.verdict = .agrees)) ∧
    (s.configPath.isSome = true → (s.verdict = .agrees ↔
      (∃ roster, s.configPath = some (.ok roster) ∧ roster.length = s.daemon.roster.length) ∨
      s.configPath = some (.error .configNotFound) ∧ s.daemon.roster = [])) := by
  obtain ⟨hlatch, hcount⟩ := runs_latched hticks hcheck hlog hr
  have hsecond : .tick ∈ tr → 1 < s.beginTick.ticks := by
    intro htick
    have hpos := List.count_pos_iff.mpr htick
    unfold Checked.beginTick
    dsimp only
    omega
  have hfirst : .tick ∉ tr → s.beginTick.checkRosterDivergence.log = s.log := by
    intro htick
    have hzero := List.count_eq_zero.mpr htick
    have hle : s.beginTick.ticks ≤ 1 := by
      unfold Checked.beginTick
      dsimp only
      omega
    rw [check_eq, if_pos hle]
    rfl
  have hsilent : ∀ log : List RosterReload, log = s.log → ¬ ∃ r : RosterReload, log = s.log ++ [r] ∧
      r.outcome = .converged := by
    rintro log rfl ⟨r, happend, -⟩
    simp at happend
  refine ⟨?_, ?_, ?_, verdict_agrees_iff⟩
  · intro s' hs
    cases hs with
    | @ticked d' w' events decision hstep =>
      obtain ⟨hdaemon, hpath, -⟩ := check_frame s.beginTick
      refine ⟨hfirst, ?_, hpath, events, decision, ?_⟩
      · intro htick
        obtain ⟨-, hsame, hother⟩ := check_log (hsecond htick) hlatch
        refine ⟨?_, hsame, ?_⟩
        · by_cases heq : s.beginTick.verdict = reported s.beginTick.log
          · dsimp only
            rw [hsame heq]
            exact heq.symm
          · obtain ⟨r, happend, hr, -⟩ := hother heq
            dsimp only
            rw [happend, reported_append, hr]
            rfl
        · intro heq
          obtain ⟨r, happend, hr, -⟩ := hother heq
          exact ⟨r, happend, hr⟩
      · rw [hdaemon] at hstep
        exact hstep
  · intro s' hs
    cases hs with
    | between hstep => rfl
    | reloaded intent => exact (reported_reload s intent).1
    | rewritten loaded harmed => rfl
  · intro l s' hs
    cases hs with
    | @ticked d' w' events decision hstep =>
      dsimp only
      by_cases htick : .tick ∈ tr
      · obtain ⟨-, hsame, hother⟩ := check_log (hsecond htick) hlatch
        by_cases heq : s.beginTick.verdict = reported s.beginTick.log
        · have hnone := hsilent _ (hsame heq)
          have hverdict : s.verdict = reported s.log := heq
          rw [iff_false_left hnone]
          rintro ⟨-, -, hopen, hagrees⟩
          exact hopen (hverdict.symm.trans hagrees)
        · obtain ⟨r, happend, -, hconverged⟩ := hother heq
          have hverdict : s.verdict ≠ reported s.log := heq
          constructor
          · rintro ⟨r', happend', hr'⟩
            have hlast := List.append_cancel_left (happend.symm.trans happend')
            cases hlast
            have hagrees := hconverged.mp hr'
            exact ⟨rfl, htick, fun hclosed => hverdict (hagrees.trans hclosed.symm), hagrees⟩
          · rintro ⟨-, -, -, hagrees⟩
            exact ⟨r, happend, hconverged.mpr hagrees⟩
      · rw [iff_false_left (hsilent _ (hfirst htick))]
        rintro ⟨-, hmem, -⟩
        exact htick hmem
    | between hstep =>
      rw [iff_false_left (hsilent _ rfl)]
      rintro ⟨h, -⟩
      cases h
    | reloaded intent =>
      obtain ⟨-, r, happend, hr⟩ := reported_reload s intent
      constructor
      · rintro ⟨r', happend', hr'⟩
        have hlast := List.append_cancel_left (happend.symm.trans happend')
        cases hlast
        exact absurd hr' hr
      · rintro ⟨h, -⟩
        cases h
    | rewritten loaded harmed =>
      rw [iff_false_left (hsilent _ rfl)]
      rintro ⟨h, -⟩
      cases h

end Runs

section Sample

local instance divergenceJson : SerdeJson := sampleJson

local instance divergenceSha : Sha256 := ⟨fun _ => 0⟩

/-- The sample daemon over a configured path. -/
def overFile (loaded : LoadedRoster) : Checked where
  daemon := sampleDaemon
  world := sampleWorld ⟨[1]⟩ "A"
  configPath := some loaded

/-- Under a locked keychain a daemon ticks and waits. -/
theorem exists_lockedTick (d : Daemon) (w : World) : ∃ events,
    DaemonStep (surroundings 0) (d, w) (.tick events none) (d.beginTick.lockedTick, w) := by
  have hread : Exec (surroundings 0) (attempt CredentialStore.read |>.run d.beginTick) w
      (.error (.keychainLocked "read"), d.beginTick) w := by
    apply exec_perform_iff.mpr
    refine ⟨.error (.keychainLocked "read"), w, ⟨rfl, ?_⟩, exec_pure_iff.mpr ⟨rfl, rfl⟩⟩
    intro h
    cases h
  have hnow : Exec (surroundings 0) (clockNow.run d.beginTick) w (w.clock, d.beginTick) w :=
    exec_perform_iff.mpr ⟨w.clock, w, ⟨le_refl w.clock, rfl⟩, exec_pure_iff.mpr ⟨rfl, rfl⟩⟩
  have hobserve : Exec (surroundings 0) (observeTick.run d) w (none, d.beginTick.lockedTick) w := by
    unfold observeTick
    rw [exec_modify_bind]
    apply exec_state_bind.mpr
    refine ⟨w.clock, d.beginTick, w, hnow, ?_⟩
    rw [exec_get_bind]
    apply exec_state_bind.mpr
    exact ⟨_, d.beginTick, w, hread, exec_state_pure⟩
  exact ⟨_, .locked hobserve⟩

/-- A tick under a locked keychain, with its check. -/
def Checked.lockedTick (s : Checked) : Checked :=
  { s.beginTick.checkRosterDivergence with
    daemon := s.beginTick.checkRosterDivergence.daemon.beginTick.lockedTick }

theorem checkStep_lockedTick (s : Checked) : CheckStep (surroundings 0) s .tick s.lockedTick := by
  obtain ⟨events, hstep⟩ := exists_lockedTick s.beginTick.checkRosterDivergence.daemon s.world
  have hworld : s.beginTick.checkRosterDivergence.world = s.world := (check_frame s.beginTick).2.2
  have hticked := CheckStep.ticked hstep
  rw [← hworld] at hticked
  exact hticked

theorem runs_lockedTicks (loaded : LoadedRoster) :
    Runs (CheckStep (surroundings 0)) (overFile loaded) [.tick, .tick] (overFile loaded).lockedTick.lockedTick :=
  .snoc (runs_single (checkStep_lockedTick _)) (checkStep_lockedTick _)

/-- A second tick finds the file gone, and says so. -/
theorem divergence_reported_absent :
    reported (overFile (.error .configNotFound)).lockedTick.lockedTick.log = .absent 3 := by
  have hreported := (divergence_reported rfl rfl rfl
    (runs_single (checkStep_lockedTick (overFile (.error .configNotFound))))).1 _ (checkStep_lockedTick _)
  exact (hreported.2.1 (by simp)).1

/-- Three other accounts on disk are no divergence. -/
theorem substitution_unreported : ∃ s : Checked,
    Runs (CheckStep (surroundings 0))
      (overFile (.ok [sampleAccount "X", sampleAccount "Y", sampleAccount "Z"])) [.tick, .tick] s ∧
    s.configPath = some (.ok [sampleAccount "X", sampleAccount "Y", sampleAccount "Z"]) ∧
    s.daemon.roster = [sampleAccount "A", sampleAccount "B", sampleAccount "C"] ∧ s.log = [] :=
  ⟨_, runs_lockedTicks _, rfl, rfl, rfl⟩

end Sample

end Sessiometer
