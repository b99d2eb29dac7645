import Mathlib.Data.List.Count
import Sessiometer.Pacing.Rounds
import Sessiometer.Daemon.Rehearsal

/-! # The poll schedule

A round of peers with the active account before each. It is built from who is active and who is in
the rotation, and starts over when the active account changes. -/

namespace Sessiometer

open Effects Pacing

/-! ## The list that is built -/

section Build

variable (d : Daemon)

/-- The others that are enabled and not quarantined. -/
def Daemon.IsPeer (i : ℕ) : Prop :=
  i < d.roster.length ∧ d.active ≠ some i ∧ d.inRotation i = true

def Daemon.peers (active : Option ℕ) : List ℕ :=
  (List.range d.roster.length).filter (fun i => decide (active ≠ some i) && d.inRotation i)

theorem buildPollSchedule_eq (active : Option ℕ) : d.buildPollSchedule active =
    match active with
    | none => d.peers none
    | some a => if d.peers (some a) = [] then [a] else interleave a (d.peers (some a)) := by
  unfold Daemon.buildPollSchedule
  cases active <;> rfl

theorem mem_peers_iff {i : ℕ} : i ∈ d.peers d.active ↔ d.IsPeer i := by
  unfold Daemon.peers Daemon.IsPeer
  rw [List.mem_filter, List.mem_range, Bool.and_eq_true, decide_eq_true_eq]

theorem nodup_peers (active : Option ℕ) : (d.peers active).Nodup :=
  List.nodup_range.filter _

/-- The active account comes first. -/
theorem head_buildPollSchedule (a : ℕ) : (d.buildPollSchedule (some a))[0]? = some a := by
  rw [buildPollSchedule_eq]
  dsimp only
  split
  · rfl
  · next hpeers =>
    obtain ⟨b, peers, hcons⟩ := List.exists_cons_of_ne_nil hpeers
    rw [hcons]
    rfl

variable {d} {i : ℕ}

theorem count_buildPollSchedule (hi : d.IsPeer i) : (d.buildPollSchedule d.active).count i = 1 := by
  have hmem := (mem_peers_iff d).mpr hi
  rw [buildPollSchedule_eq]
  cases hactive : d.active with
  | none =>
    rw [hactive] at hmem
    exact List.count_eq_one_of_mem (nodup_peers d none) hmem
  | some a =>
    rw [hactive] at hmem
    dsimp only
    rw [if_neg (List.ne_nil_of_mem hmem)]
    apply count_interleave (nodup_peers d (some a)) hmem
    rintro rfl
    exact hi.2.1 hactive

theorem preceded_buildPollSchedule {a k : ℕ} (hactive : d.active = some a) (ha : i ≠ a)
    (h : (d.buildPollSchedule d.active)[k]? = some i) :
    ∃ j, k = j + 1 ∧ (d.buildPollSchedule d.active)[j]? = some a := by
  rw [buildPollSchedule_eq, hactive] at h ⊢
  dsimp only at h ⊢
  split at h
  · next hpeers =>
    cases k with
    | zero =>
      cases h
      exact absurd rfl ha
    | succ k => cases h
  · next hpeers =>
    rw [if_neg hpeers]
    exact preceded_interleave h ha

end Build

/-! ## The round of a daemon -/

def Daemon.round (d : Daemon) : Round ℕ := ⟨d.pollSchedule, d.pollPos⟩

/-- What the round is built for. -/
def Daemon.rota (d : Daemon) : Option ℕ × List Account := (d.active, d.roster)

def PollLog.consultation (x : PollLog) : Consultation ℕ (Option ℕ × List Account) :=
  ⟨x.consulted.round, x.consulted.buildPollSchedule x.consulted.active, x.consulted.rota⟩

/-- The consulted schedule is spent, and built anew. -/
def PollLog.Rebuilds (x : PollLog) : Prop := x.consulted.pollSchedule.length ≤ x.consulted.pollPos

section Round

variable {d d' : Daemon}

theorem round_of_latches (h : d'.latches = d.latches) : d'.round = d.round :=
  congrArg (fun l : Latches => (⟨l.pollSchedule, l.pollPos⟩ : Round ℕ)) h

theorem rota_of_latches (h : d'.latches = d.latches) : d'.rota = d.rota :=
  congrArg (fun l : Latches => (l.active, l.roster)) h

theorem round_refillPollSchedule (d : Daemon) (active : Option ℕ) :
    (d.refillPollSchedule active).round = d.round.refill (d.buildPollSchedule active) := by
  unfold Daemon.refillPollSchedule Round.refill
  by_cases h : d.pollSchedule.length ≤ d.pollPos
  · rw [if_pos h, if_pos (show d.round.Spent from h)]
    rfl
  · rw [if_neg h, if_neg (show ¬ d.round.Spent from h)]

theorem nextPollIndex_eq (d : Daemon) (active : Option ℕ) :
    (d.nextPollIndex active).1 = (d.round.next (d.buildPollSchedule active)).1 ∧
      (d.nextPollIndex active).2.round = (d.round.next (d.buildPollSchedule active)).2 := by
  unfold Round.next
  rw [← round_refillPollSchedule]
  exact ⟨rfl, rfl⟩

theorem scheduled_eq_pick (x : PollLog) : x.scheduled = x.consultation.pick :=
  (nextPollIndex_eq x.consulted x.consulted.active).1

/-- Whatever changes who is active starts the round over, and so does a new roster. -/
theorem Move.passes {k : Phase} (h : Move k d d') : Passes d.rota d.round d'.rota d'.round := by
  cases h with
  | idle hd => exact .inl ⟨rota_of_latches hd, round_of_latches hd⟩
  | redesignated next anchor _ _ hd =>
    unfold Passes
    rw [rota_of_latches hd, round_of_latches hd]
    unfold Daemon.settleActive
    split
    · exact .inr rfl
    · next hsame =>
      have hnext : next = d.active := not_ne_iff.mp hsame
      rw [hnext]
      exact .inl ⟨rfl, rfl⟩
  | swapRecorded => exact .inr rfl
  | livenessNoted state =>
    unfold Daemon.noteCanonicalLiveness
    cases state with
    | scrubbed => dsimp only; split <;> exact .refl _ _
    | present => dsimp only; split <;> exact .refl _ _
    | unknown => exact .refl _ _
  | gapNoted threshold now _ =>
    unfold Daemon.noteObservationGapOf
    dsimp only
    repeat' split
    all_goals exact .refl _ _
  | adoptWindowRolled at' =>
    unfold Daemon.rollScrubAdoptWindow
    split
    · split <;> exact .refl _ _
    · exact .refl _ _
  | adoptExhaustionNoted active _ =>
    unfold Daemon.noteScrubAdoptExhausted
    split <;> exact .refl _ _
  | adopted target at' => exact .refl _ _
  | allExhaustedSignaled => exact .refl _ _
  | activeDeadSignaled => exact .refl _ _
  | reloaded newRoster intent =>
    by_cases hrefuses : d.rosterState.refuses newRoster intent
    · rw [d.reconcileRoster_of_refuses hrefuses]
      exact .refl _ _
    · rw [d.reconcileRoster_of_adopts hrefuses]
      exact .inr rfl

theorem Moves.passes {k : Phase} (h : Moves k d d') : Passes d.rota d.round d'.rota d'.round := by
  induction h with
  | refl => exact .refl _ _
  | tail _ hmove ih => exact ih.trans hmove.passes

theorem Polled.round {p q : Daemon} {x : Option Answer} {t : Nanos} (h : Polled p x q t) :
    q.rota = p.rota ∧ q.round = (p.round.next (p.buildPollSchedule p.active)).2 := by
  obtain ⟨hactive, hroster⟩ := h.keeps
  refine ⟨Prod.ext hactive hroster, ?_⟩
  rw [← (nextPollIndex_eq p p.active).2]
  exact congrArg (fun l : Latches => (⟨l.pollSchedule, l.pollPos⟩ : Round ℕ)) h.unpolled

theorem Round.emptied_of_passes {c c' : Option ℕ × List Account} {r r' : Round ℕ}
    (h : Passes c r c' r') (hr : r = .emptied) : r' = .emptied := by
  rcases h with ⟨-, hsame⟩ | hemptied
  · rw [hsame, hr]
  · exact hemptied

/-- An empty round has the active account first. -/
theorem scheduled_of_emptied {x : PollLog} (h : x.consulted.round = .emptied) {i : ℕ}
    (hi : x.consulted.active = some i) : x.scheduled = some i := by
  have hspent : x.consultation.Rebuilds := by
    unfold Consultation.Rebuilds PollLog.consultation
    rw [h]
    exact Round.spent_emptied
  rw [scheduled_eq_pick, Consultation.pick_of_rebuilds _ hspent]
  unfold PollLog.consultation
  dsimp only
  rw [hi]
  exact head_buildPollSchedule x.consulted i

theorem settle_round (d : Daemon) (action : TickAction) :
    (d.settle action).rota = d.rota ∧ (d.settle action).round = d.round := by
  have hsettled := settle_latches d action
  exact ⟨congrArg (fun l : Latches => (l.active, l.roster)) hsettled,
    congrArg (fun l : Latches => (⟨l.pollSchedule, l.pollPos⟩ : Round ℕ)) hsettled⟩

/-- What a turn does to the round: before its poll, with it, and after it. -/
theorem Course.passes {l : Turn} {log : Option PollLog} {t t' : Nanos} (h : Course d t l log d' t') :
    match log with
    | none => Passes d.rota d.round d'.rota d'.round
    | some x => Passes d.rota d.round x.consulted.rota x.consulted.round ∧
        x.folded.rota = x.consulted.rota ∧
        x.folded.round = (x.consulted.round.next (x.consulted.buildPollSchedule
          x.consulted.active)).2 ∧
        Passes x.folded.rota x.folded.round d'.rota d'.round := by
  cases h with
  | between hmoves => exact hmoves.passes
  | reloaded newRoster intent => exact (Move.reloaded newRoster intent).passes
  | locked hd =>
    exact .inl ⟨rota_of_latches (d := d.beginTick) hd, round_of_latches (d := d.beginTick) hd⟩
  | @observed r r' e t₁ _ x _ action _ _ hp hpolled _ hr hr' he =>
    obtain ⟨hrota, hround⟩ := hpolled.round
    obtain ⟨hrota', hround'⟩ := settle_round e action
    refine ⟨hp.passes, hrota, hround, ?_⟩
    rw [hrota', hround']
    exact (hr.passes.trans hr'.moves.passes).trans he.passes

theorem Course.walked {l : Turn} {log : Option PollLog} {t t' : Nanos} (h : Course d t l log d' t')
    {xs : List (Consultation ℕ (Option ℕ × List Account))} (hd : Walked xs d.rota d.round) :
    Walked (xs ++ log.toList.map PollLog.consultation) d'.rota d'.round := by
  have hpasses := h.passes
  cases log with
  | none =>
    rw [Option.toList_none, List.map_nil, List.append_nil]
    exact hd.passes hpasses
  | some x =>
    obtain ⟨hbefore, hrota, hround, hafter⟩ := hpasses
    rw [Option.toList_some, List.map_singleton]
    apply Walked.passes _ hafter
    rw [hrota, hround]
    exact (hd.passes hbefore).consult _

end Round

/-! ## Runs -/

section Runs

variable [SerdeJson] [Sha256] {pid : ℕ} {s s' : Daemon × World}
  {tr : List (Turn × Option PollLog)}

theorem walked_run (hrun : Runs (LoadedStep ((surroundings pid).under Elapses)) s tr s')
    (h₀ : s.1.round.Spent) :
    Walked ((pollLogs tr).map PollLog.consultation) s'.1.rota s'.1.round := by
  apply hrun.invariant (I := fun tr s =>
    Walked ((pollLogs tr).map PollLog.consultation) s.1.rota s.1.round)
  · exact .start h₀
  · rintro tr ⟨d, w⟩ ⟨l, log⟩ ⟨d', w'⟩ hd ⟨hstep, -⟩
    rw [pollLogs_snoc, List.map_append]
    exact (course_of_logged hstep).walked hd

/-- After a round is emptied, the next poll finds it so. -/
theorem emptied_run (hrun : Runs (LoadedStep ((surroundings pid).under Elapses)) s tr s')
    (h₀ : s.1.round = .emptied) :
    pollLogs tr = [] ∧ s'.1.round = .emptied ∨
      ∃ y rest, pollLogs tr = y :: rest ∧ y.consulted.round = .emptied := by
  apply hrun.invariant (I := fun tr s => pollLogs tr = [] ∧ s.1.round = .emptied ∨
    ∃ y rest, pollLogs tr = y :: rest ∧ y.consulted.round = .emptied)
  · exact .inl ⟨rfl, h₀⟩
  · rintro tr ⟨d, w⟩ ⟨l, log⟩ ⟨d', w'⟩ hd ⟨hstep, -⟩
    have hpasses := (course_of_logged hstep).passes
    rw [pollLogs_snoc]
    rcases hd with ⟨hnone, hemptied⟩ | ⟨y, rest, hlogs, hemptied⟩
    · rw [hnone]
      cases log with
      | none => exact .inl ⟨rfl, Round.emptied_of_passes hpasses hemptied⟩
      | some x => exact .inr ⟨x, [], rfl, Round.emptied_of_passes hpasses.1 hemptied⟩
    · rw [hlogs]
      exact .inr ⟨y, rest ++ log.toList, rfl, hemptied⟩

/-- The active account that a turn leaves, if it is not the one of its poll, or without a poll not the
one before. -/
def Redesignates (d : Daemon) (log : Option PollLog) (d' : Daemon) : Prop :=
  match log with
  | none => d'.active ≠ d.active
  | some x => d'.active ≠ x.folded.active

omit [SerdeJson] [Sha256] in
theorem emptied_of_redesignates {d d' : Daemon} {l : Turn} {log : Option PollLog} {t t' : Nanos}
    (h : Course d t l log d' t') (hr : Redesignates d log d') : d'.round = .emptied := by
  have hpasses := h.passes
  cases log with
  | none =>
    rcases hpasses with ⟨hrota, -⟩ | hemptied
    · exact absurd (congrArg Prod.fst hrota) hr
    · exact hemptied
  | some x =>
    rcases hpasses.2.2.2 with ⟨hrota, -⟩ | hemptied
    · exact absurd (congrArg Prod.fst hrota) hr
    · exact hemptied

/-- Each peer once, and the active account right before it. -/
def Sweeps (d : Daemon) (picks : List (Option ℕ)) : Prop :=
  ∀ i, d.IsPeer i → picks.count (some i) = 1 ∧ ∀ a, d.active = some a →
    ∀ k, picks[k]? = some (some i) → ∃ j, k = j + 1 ∧ picks[j]? = some (some a)

omit [SerdeJson] [Sha256] in
theorem sweeps_build (d : Daemon) : Sweeps d ((d.buildPollSchedule d.active).map some) := by
  intro i hi
  refine ⟨?_, ?_⟩
  · rw [List.count_map_of_injective _ some (Option.some_injective ℕ)]
    exact count_buildPollSchedule hi
  · intro a ha k hk
    have hne : i ≠ a := by
      rintro rfl
      exact hi.2.1 ha
    rw [List.getElem?_map, Option.map_eq_some_iff] at hk
    obtain ⟨i', hk, hi'⟩ := hk
    cases hi'
    obtain ⟨j, hj, hget⟩ := preceded_buildPollSchedule ha hne hk
    refine ⟨j, hj, ?_⟩
    rw [List.getElem?_map, hget, Option.map_some]

/-- The polls since a schedule was built: they walk it in its order, for the same active account and
roster, and each goes to the active account or to one that was a peer when it was built. -/
structure FollowsBuild (x : PollLog) (mid : List PollLog) : Prop where
  picked : (x :: mid).map PollLog.scheduled = (List.range (mid.length + 1)).map
    (fun k => (x.consulted.buildPollSchedule x.consulted.active)[k]?)
  same : ∀ z ∈ mid, z.consulted.active = x.consulted.active ∧ z.consulted.roster = x.consulted.roster
  included : ∀ z ∈ x :: mid, ∀ i, z.scheduled = some i →
    x.consulted.active = some i ∨ x.consulted.IsPeer i

omit [SerdeJson] [Sha256] in
theorem map_scheduled (logs : List PollLog) :
    logs.map PollLog.scheduled = (logs.map PollLog.consultation).map Consultation.pick := by
  rw [List.map_map]
  exact List.map_congr_left (fun x _ => scheduled_eq_pick x)

omit [SerdeJson] [Sha256] in
theorem followsBuild_of_underway {x : PollLog} {mid : List PollLog} {c : Option ℕ × List Account}
    {r : Round ℕ} (h : Underway x.consultation (mid.map PollLog.consultation) c r) :
    FollowsBuild x mid := by
  have hpicked : (x :: mid).map PollLog.scheduled = (List.range (mid.length + 1)).map
      (fun k => (x.consulted.buildPollSchedule x.consulted.active)[k]?) := by
    rw [map_scheduled, List.map_cons, h.picked, List.length_map]
    rfl
  refine ⟨hpicked, ?_, ?_⟩
  · intro z hz
    have hcontext := h.context _ (List.mem_map_of_mem hz)
    exact ⟨congrArg Prod.fst hcontext, congrArg Prod.snd hcontext⟩
  · intro z hz i hi
    have hmem : some i ∈ (x :: mid).map PollLog.scheduled := hi ▸ List.mem_map_of_mem hz
    rw [hpicked] at hmem
    obtain ⟨k, -, hk⟩ := List.mem_map.mp hmem
    rcases mem_buildPollSchedule (List.mem_of_getElem? hk) with hactive | hpeer
    · exact .inl hactive
    · exact .inr hpeer

omit [SerdeJson] [Sha256] in
theorem sweeps_of_underway {x : PollLog} {mid : List PollLog} {c : Option ℕ × List Account}
    {r : Round ℕ} (h : Underway x.consultation (mid.map PollLog.consultation) c r)
    (hspent : r.Spent) (hkept : r ≠ .emptied) :
    Sweeps x.consulted ((x :: mid).map PollLog.scheduled) := by
  by_cases hbuild : x.consulted.buildPollSchedule x.consulted.active = []
  · intro i hi
    have hcount := count_buildPollSchedule hi
    rw [hbuild] at hcount
    cases hcount
  · rw [map_scheduled, List.map_cons, h.whole hbuild hspent hkept]
    exact sweeps_build x.consulted

/-- The contract of the poll schedule over every run. When the active account changes, the next tick
that polls has the new one first. Since a schedule was built, the polls walk it in its order, which is
for one active account and one roster, and none goes to an account that was neither active nor a peer
when it was built. Up to the next build they have swept the peers, unless the schedule was started over
before it was walked through. And whatever is scheduled is in the roster. -/
theorem poll_schedule_contract (pid : ℕ) (s s' : Daemon × World)
    (tr : List (Turn × Option PollLog)) (h₀ : s.1.Started)
    (hrun : Runs (LoadedStep ((surroundings pid).under Elapses)) s tr s') :
    (∀ tr₁ l log tr₂ s₁ s₂, tr = tr₁ ++ (l, log) :: tr₂ →
      Runs (LoadedStep ((surroundings pid).under Elapses)) s tr₁ s₁ →
      LoadedStep ((surroundings pid).under Elapses) s₁ (l, log) s₂ →
      Runs (LoadedStep ((surroundings pid).under Elapses)) s₂ tr₂ s' →
      (∀ x i, log = some x → x.consulted.active ≠ s₁.1.active → x.consulted.active = some i →
        x.scheduled = some i) ∧
      (Redesignates s₁.1 log s₂.1 → ∀ y rest i, pollLogs tr₂ = y :: rest →
        y.consulted.active = some i → y.scheduled = some i)) ∧
    (∀ before x mid after, pollLogs tr = before ++ x :: mid ++ after → x.Rebuilds →
      (∀ z ∈ mid, ¬ z.Rebuilds) →
      FollowsBuild x mid ∧ ∀ y rest, after = y :: rest → y.Rebuilds → y.consulted.round ≠ .emptied →
        Sweeps x.consulted ((x :: mid).map PollLog.scheduled)) ∧
    ∀ x ∈ pollLogs tr, ∀ i, x.scheduled = some i → i < x.consulted.roster.length := by
  have hspent : s.1.round.Spent := by
    rw [show s.1.round = .emptied from
      congrArg (fun l : Latches => (⟨l.pollSchedule, l.pollPos⟩ : Round ℕ)) h₀.fresh]
    exact Round.spent_emptied
  refine ⟨?_, ?_, ?_⟩
  · rintro tr₁ l log tr₂ ⟨d₁, w₁⟩ ⟨d₂, w₂⟩ - - ⟨hstep, -⟩ hrun₂
    have hcourse := course_of_logged hstep
    refine ⟨?_, ?_⟩
    · rintro x i rfl hchanged hi
      rcases hcourse.passes.1 with ⟨hrota, -⟩ | hemptied
      · exact absurd (congrArg Prod.fst hrota) hchanged
      · exact scheduled_of_emptied hemptied hi
    · intro hredesignates y rest i hlogs hi
      have hemptied := emptied_of_redesignates hcourse hredesignates
      rcases emptied_run hrun₂ hemptied with ⟨hnone, -⟩ | ⟨y', rest', hlogs', hfound⟩
      · rw [hlogs] at hnone
        cases hnone
      · rw [hlogs] at hlogs'
        cases hlogs'
        exact scheduled_of_emptied hfound hi
  · intro before x mid after hlogs hx hmid
    have hwalked := walked_run hrun hspent
    have hmid' : ∀ z ∈ mid.map PollLog.consultation, ¬ z.Rebuilds := by
      intro z hz
      obtain ⟨y, hy, rfl⟩ := List.mem_map.mp hz
      exact hmid y hy
    rw [hlogs, List.map_append, List.map_append, List.map_cons] at hwalked
    refine ⟨?_, ?_⟩
    · cases after with
      | nil =>
        rw [List.map_nil, List.append_nil] at hwalked
        exact followsBuild_of_underway (hwalked.underway hx hmid')
      | cons y rest =>
        rw [List.map_cons] at hwalked
        exact followsBuild_of_underway (hwalked.front.underway hx hmid')
    · rintro y rest rfl hy hkept
      rw [List.map_cons] at hwalked
      exact sweeps_of_underway (hwalked.front.underway hx hmid') hy hkept
  · intro x hx i hi
    exact (nextPollIndex_listed (listed_logs hrun h₀ x hx)).2 i hi

end Runs

section Sample

local instance scheduleJson : SerdeJson := sampleJson

local instance scheduleSha : Sha256 := ⟨fun _ => 0⟩

/-- The first tick polls the active account. Before the second one somebody logs in to another. -/
def sweepTick : (Turn × Option PollLog) × (Daemon × World) :=
  rehearse (calmly 0) sampleDaemon (sampleWorld ⟨[1]⟩ "A")

def interruptedTick : (Turn × Option PollLog) × (Daemon × World) :=
  rehearse (calmly 0) sweepTick.2.1 (sampleWorld ⟨[2]⟩ "B")

theorem sweepTick_step : LoadedStep ((surroundings 0).under Elapses)
    (sampleDaemon, sampleWorld ⟨[1]⟩ "A") sweepTick.1 sweepTick.2 := by
  refine ⟨loggedStep_rehearse (calmly_refines 0) (le_refl (sampleWorld ⟨[1]⟩ "A").clock), ?_⟩
  rw [show sweepTick.2.1.roster = _ from roster_rehearse (calmly_refines 0)]
  exact sampleDaemon_started.loaded

theorem interruptedTick_step : LoadedStep ((surroundings 0).under Elapses) sweepTick.2
    interruptedTick.1 interruptedTick.2 := by
  have hclock : sweepTick.2.2.clock = 0 := by decide +kernel
  refine ⟨loggedStep_rehearse (calmly_refines 0) hclock.le, ?_⟩
  rw [show interruptedTick.2.1.roster = _ from roster_rehearse (calmly_refines 0)]
  exact sweepTick_step.2

theorem interrupted_run : Runs (LoadedStep ((surroundings 0).under Elapses))
    (sampleDaemon, sampleWorld ⟨[1]⟩ "A") [sweepTick.1, interruptedTick.1] interruptedTick.2 :=
  .snoc (runs_single sweepTick_step) interruptedTick_step

/-- A change of the active account starts the schedule over, and the peers that were left go without a
poll. -/
theorem poll_schedule_cut_short :
    ¬ ∀ (s s' : Daemon × World) (tr : List (Turn × Option PollLog)), s.1.Started →
      Runs (LoadedStep ((surroundings 0).under Elapses)) s tr s' →
      ∀ before x mid y rest, pollLogs tr = before ++ x :: mid ++ y :: rest → x.Rebuilds →
        (∀ z ∈ mid, ¬ z.Rebuilds) → y.Rebuilds →
        Sweeps x.consulted ((x :: mid).map PollLog.scheduled) := by
  intro hclaim
  have hfirst : sweepTick.1.2.map (fun x => (x.scheduled,
      decide (x.consulted.pollSchedule.length ≤ x.consulted.pollPos),
      decide (1 < x.consulted.roster.length), x.consulted.active, x.consulted.inRotation 1)) =
      some (some 0, true, true, some 0, true) := by decide +kernel
  have hsecond : interruptedTick.1.2.map
      (fun x => decide (x.consulted.pollSchedule.length ≤ x.consulted.pollPos)) = some true := by
    decide +kernel
  obtain ⟨x, hx, hfirst⟩ := Option.map_eq_some_iff.mp hfirst
  obtain ⟨y, hy, hsecond⟩ := Option.map_eq_some_iff.mp hsecond
  simp only [Prod.mk.injEq, decide_eq_true_eq] at hfirst
  obtain ⟨hscheduled, hrebuilds, hlisted, hactive, hrotation⟩ := hfirst
  have hlogs : pollLogs [sweepTick.1, interruptedTick.1] = [] ++ x :: [] ++ y :: [] := by
    unfold pollLogs
    rw [List.filterMap_cons_some hx, List.filterMap_cons_some hy]
    rfl
  have hpeer : x.consulted.IsPeer 1 := by
    refine ⟨hlisted, ?_, hrotation⟩
    rw [hactive]
    decide
  have hspent : y.consulted.pollSchedule.length ≤ y.consulted.pollPos :=
    decide_eq_true_eq.mp hsecond
  have hsweeps := hclaim _ _ _ sampleDaemon_started interrupted_run [] x [] y [] hlogs hrebuilds
    (by simp) hspent
  have hcount := (hsweeps 1 hpeer).1
  rw [List.map_singleton, hscheduled] at hcount
  revert hcount
  decide

/-- The tick that follows the login has the new active account first. -/
theorem poll_schedule_contract_interrupted : ∃ x, interruptedTick.1.2 = some x ∧
    x.consulted.active = some 1 ∧ x.scheduled = some 1 := by
  have hsecond : interruptedTick.1.2.map (fun x => x.consulted.active) = some (some 1) := by
    decide +kernel
  obtain ⟨x, hx, hactive⟩ := Option.map_eq_some_iff.mp hsecond
  have hbefore : sweepTick.2.1.active = some 0 := by decide +kernel
  have hchanged : x.consulted.active ≠ sweepTick.2.1.active := by
    rw [hactive, hbefore]
    decide
  have hcontract := (poll_schedule_contract 0 _ _ _ sampleDaemon_started interrupted_run).1
    [sweepTick.1] interruptedTick.1.1 interruptedTick.1.2 [] sweepTick.2 interruptedTick.2 rfl
    (runs_single sweepTick_step) interruptedTick_step .refl
  exact ⟨x, hx, hactive, hcontract.1 x 1 hx hchanged hactive⟩

end Sample

end Sessiometer
