import Sessiometer.Keyed.Rekey
import Sessiometer.Daemon.Course

/-! # A new roster

A reload replaces the roster, and everything that is kept by position is built anew by uuid. -/

namespace Sessiometer

open Effects Keyed

/-- What a roster loaded from the configuration promises: no uuid occurs twice. -/
def UniqueUuids (roster : List Account) : Prop := (roster.map (·.accountUuid)).Nodup

/-- What `reconcile_roster` reads and writes, with the accounts as the vector they are. -/
structure RosterState where
  roster : List Account
  accounts : List AccountRuntime
  active : Option ℕ
  lastGood : Option LastGood
  pollSchedule : List ℕ
  pollPos : ℕ

namespace RosterState

variable (s : RosterState)

def uuids : List String := s.roster.map (·.accountUuid)

def activeUuid : Option String := (s.active.bind (fun i => s.roster[i]?)).map (·.accountUuid)

/-- The state of the account under a uuid. -/
def stateOf (accountUuid : String) : Option AccountRuntime :=
  valueAt (·.accountUuid) s.roster s.accounts accountUuid

/-- Only an append was meant, and accounts would be lost. -/
def refuses (newRoster : List Account) (intent : ReloadIntent) : Prop :=
  intent = .appendOnly ∧ newRoster.length < s.roster.length

instance (newRoster : List Account) (intent : ReloadIntent) : Decidable (s.refuses newRoster intent) :=
  inferInstanceAs (Decidable (_ ∧ _))

/-- `reconcile_roster`: nothing, where an index of the vector is out of bounds. -/
def reconcile (newRoster : List Account) (intent : ReloadIntent) : Option RosterState :=
  if s.refuses newRoster intent then some s
  else do
    let accounts ← rekey (·.accountUuid) s.roster s.accounts (fun _ => {}) newRoster
    let active := s.activeUuid.bind (rosterPosition newRoster)
    pure {
      roster := newRoster
      accounts := accounts
      active := active
      lastGood := if active = none then none else s.lastGood
      pollSchedule := []
      pollPos := 0 }

end RosterState

/-- The adopted state: every account of the new roster has its own state, or a fresh one, and the
active account is who it was, or nobody. -/
structure Rekeyed (s s' : RosterState) (newRoster : List Account) : Prop where
  roster : s'.roster = newRoster
  sized : s'.accounts.length = newRoster.length
  placed : ∀ (i : ℕ) (account : Account), newRoster[i]? = some account →
    s'.accounts[i]? = s'.stateOf account.accountUuid
  persisting : ∀ uuid ∈ s'.uuids, uuid ∈ s.uuids → s'.stateOf uuid = s.stateOf uuid
  onboarded : ∀ uuid ∈ s'.uuids, uuid ∉ s.uuids → s'.stateOf uuid = some {}
  active : ∀ uuid, s.activeUuid = some uuid → uuid ∈ s'.uuids → s'.activeUuid = some uuid
  left : s'.active = none ↔ ∀ uuid, s.activeUuid = some uuid → uuid ∉ s'.uuids
  dropped : s'.active = none → s'.lastGood = none
  anchored : s'.active ≠ none → s'.lastGood = s.lastGood
  schedule : s'.pollSchedule = [] ∧ s'.pollPos = 0

section Reconcile

variable {s s' : RosterState} {newRoster : List Account} {intent : ReloadIntent}

theorem rosterPosition_eq (roster : List Account) (accountUuid : String) :
    rosterPosition roster accountUuid = position (·.accountUuid) roster accountUuid := rfl

/-- The active account of the new roster has the uuid that the old one had. -/
theorem activeUuid_of_position {i : ℕ} {uuid : String}
    (h : rosterPosition newRoster uuid = some i) (hs : s'.roster = newRoster)
    (hactive : s'.active = some i) : s'.activeUuid = some uuid := by
  obtain ⟨account, hget, hkey⟩ := getElem?_of_position ((rosterPosition_eq _ _).symm.trans h)
  unfold RosterState.activeUuid
  rw [hactive, hs, Option.bind_some, hget, Option.map_some, hkey]

theorem rekeyed_of_reconcile (hlen : s.accounts.length = s.roster.length)
    (hunique : UniqueUuids newRoster) (hadopts : ¬ s.refuses newRoster intent) :
    ∃ s', s.reconcile newRoster intent = some s' ∧ Rekeyed s s' newRoster := by
  obtain ⟨accounts, haccounts⟩ : ∃ accounts, rekey Account.accountUuid s.roster s.accounts
      (fun _ => ({} : AccountRuntime)) newRoster = some accounts :=
    exists_rekey hlen newRoster
  unfold RosterState.reconcile
  rw [if_neg hadopts, haccounts]
  refine ⟨_, rfl, rfl, length_rekey haccounts, ?_, ?_, ?_, ?_, ?_, ?_, ?_, rfl, rfl⟩
  · intro i account hget
    exact getElem?_eq_valueAt hunique hget accounts
  · intro uuid hnew hold
    exact valueAt_rekey haccounts hnew hold
  · intro uuid hnew hold
    obtain ⟨_, -, -, hfresh⟩ := valueAt_rekey_fresh haccounts hnew hold
    exact hfresh
  · intro uuid hactive hnew
    cases hp : rosterPosition newRoster uuid with
    | none => exact absurd hnew (position_eq_none_iff.mp hp)
    | some i =>
      apply activeUuid_of_position hp rfl
      dsimp only
      rw [hactive, Option.bind_some, hp]
  · dsimp only
    cases hactive : s.activeUuid with
    | none => simp
    | some uuid =>
      rw [Option.bind_some, rosterPosition_eq]
      constructor
      · rintro h uuid' ⟨⟩
        exact position_eq_none_iff.mp h
      · intro h
        exact position_eq_none_iff.mpr (h uuid rfl)
  · intro hnone
    exact if_pos hnone
  · intro hsome
    exact if_neg hsome

end Reconcile

/-! ## What the daemon does -/

namespace Daemon

variable (d : Daemon)

def rosterState : RosterState where
  roster := d.roster
  accounts := (List.range d.roster.length).map d.accounts
  active := d.active
  lastGood := d.lastGood
  pollSchedule := d.pollSchedule
  pollPos := d.pollPos

theorem length_rosterState : d.rosterState.accounts.length = d.rosterState.roster.length := by
  unfold rosterState
  rw [List.length_map, List.length_range]

theorem getElem?_rosterState {i : ℕ} (h : i < d.roster.length) :
    d.rosterState.accounts[i]? = some (d.accounts i) := by
  unfold rosterState
  rw [List.getElem?_map, List.getElem?_range h, Option.map_some]

/-- The vector that `carry_over` stands for. -/
theorem rekey_rosterState (newRoster : List Account) :
    rekey (·.accountUuid) d.roster d.rosterState.accounts (fun _ => ({} : AccountRuntime))
      newRoster = some ((List.range newRoster.length).map (d.carryOver newRoster)) := by
  obtain ⟨accounts, haccounts⟩ : ∃ accounts, rekey Account.accountUuid d.rosterState.roster
      d.rosterState.accounts (fun _ => ({} : AccountRuntime)) newRoster = some accounts :=
    exists_rekey d.length_rosterState newRoster
  have hroster : d.rosterState.roster = d.roster := rfl
  rw [hroster] at haccounts
  rw [haccounts]
  congr 1
  apply List.ext_getElem?
  intro i
  rw [getElem?_rekey haccounts, List.getElem?_map]
  cases hget : newRoster[i]? with
  | none =>
    have hle : newRoster.length ≤ i := List.getElem?_eq_none_iff.mp hget
    rw [List.getElem?_eq_none (by rw [List.length_range]; exact hle)]
    rfl
  | some account =>
    have hlt : i < newRoster.length := (List.getElem?_eq_some_iff.mp hget).1
    rw [List.getElem?_range hlt, Option.bind_some, Option.map_some]
    unfold slotFor carryOver
    rw [hget]
    dsimp only
    rw [rosterPosition_eq]
    cases hp : position (·.accountUuid) d.roster account.accountUuid with
    | none => rfl
    | some j => exact d.getElem?_rosterState (position_lt hp)

theorem reconcileRoster_of_refuses {newRoster : List Account} {intent : ReloadIntent}
    (h : d.rosterState.refuses newRoster intent) : d.reconcileRoster newRoster intent = d := by
  unfold reconcileRoster
  exact if_pos h

/-- The daemon that has adopted a roster. -/
theorem reconcileRoster_of_adopts {newRoster : List Account} {intent : ReloadIntent}
    (h : ¬ d.rosterState.refuses newRoster intent) :
    d.reconcileRoster newRoster intent =
      let active := d.rosterState.activeUuid.bind (rosterPosition newRoster)
      { d with
        roster := newRoster
        accounts := d.carryOver newRoster
        active := active
        lastGood := if active = none then none else d.lastGood
        pollSchedule := []
        pollPos := 0 } := by
  unfold reconcileRoster
  rw [if_neg (show ¬ (intent = .appendOnly ∧ newRoster.length < d.roster.length) from h)]
  have hactive : ((d.active.bind (fun i => d.roster[i]?)).map (·.accountUuid)).bind
      (rosterPosition newRoster) = d.rosterState.activeUuid.bind (rosterPosition newRoster) := rfl
  dsimp only
  rw [hactive]
  by_cases hnone : d.rosterState.activeUuid.bind (rosterPosition newRoster) = none
  · rw [if_pos hnone, if_pos hnone]
    rfl
  · rw [if_neg hnone, if_neg hnone]
    rfl

theorem rosterState_reconcileRoster (newRoster : List Account) (intent : ReloadIntent) :
    d.rosterState.reconcile newRoster intent =
      some (d.reconcileRoster newRoster intent).rosterState := by
  by_cases hrefuses : d.rosterState.refuses newRoster intent
  · rw [reconcileRoster_of_refuses d hrefuses]
    unfold RosterState.reconcile
    exact if_pos hrefuses
  · have hroster : d.rosterState.roster = d.roster := rfl
    unfold RosterState.reconcile
    rw [if_neg hrefuses, hroster, d.rekey_rosterState newRoster, reconcileRoster_of_adopts d hrefuses]
    rfl

end Daemon

/-! ## Runs -/

/-- The labels of the slots after a step: carried as the slots are, where the roster has changed. -/
def relabel (d d' : Daemon) (labels : List String) : List String :=
  if d'.roster = d.roster then labels
  else (rekey (·.accountUuid) d.roster labels (·.accountUuid) d'.roster).getD []

section Runs

variable [SerdeJson] [Sha256]

/-- A turn under a loaded configuration, beside a vector of labels that is carried like the
accounts. A label is the uuid that the slot was made for. -/
def LabelledStep (D : Device Seams World) (x : (Daemon × World) × List String) (l : Turn)
    (y : (Daemon × World) × List String) : Prop :=
  DaemonStep D x.1 l y.1 ∧ UniqueUuids y.1.1.roster ∧ y.2 = relabel x.1.1 y.1.1 x.2

variable {pid : ℕ} {d d' : Daemon} {w w' : World}

omit [SerdeJson] [Sha256] in
/-- Only a reload moves the roster. -/
theorem Move.roster {k : Phase} (h : Move k d d') (hk : k ≠ .reload) : d'.roster = d.roster := by
  cases h with
  | idle hd => exact Daemon.roster_of_latches hd
  | redesignated next anchor _ _ hd =>
    rw [Daemon.roster_of_latches hd]
    unfold Daemon.settleActive
    split <;> rfl
  | swapRecorded => rfl
  | livenessNoted state => exact roster_of_frame (d.noteCanonicalLiveness_frame state _)
  | gapNoted threshold now _ =>
    exact roster_of_frame (d.noteObservationGapOf_frame _ _ threshold now)
  | adoptWindowRolled at' => exact roster_of_frame (d.rollScrubAdoptWindow_frame at')
  | adoptExhaustionNoted active _ => exact roster_of_frame (d.noteScrubAdoptExhausted_frame active)
  | adopted target at' => rfl
  | allExhaustedSignaled => rfl
  | activeDeadSignaled => rfl
  | reloaded => exact absurd rfl hk

omit [SerdeJson] [Sha256] in
theorem Moves.roster {k : Phase} (h : Moves k d d') (hk : k ≠ .reload) : d'.roster = d.roster := by
  induction h with
  | refl => rfl
  | tail _ hmove ih => exact (hmove.roster hk).trans ih

omit [SerdeJson] [Sha256] in
theorem Course.roster {l : Turn} {log : Option PollLog} {t t' : Nanos}
    (h : Course d t l log d' t') :
    d'.roster = d.roster ∨ ∃ newRoster intent, d' = d.reconcileRoster newRoster intent := by
  cases h with
  | between hmoves => exact .inl (hmoves.roster (by intro h; cases h))
  | reloaded newRoster intent => exact .inr ⟨newRoster, intent, rfl⟩
  | locked hd => exact .inl (Daemon.roster_of_latches (d := d.beginTick) hd)
  | @observed r r' e t₁ _ log x action _ _ hp hpolled _ hq hr hr' =>
    refine .inl ?_
    rw [roster_of_frame (e.settle_frame action), hr'.roster (by intro h; cases h),
      hr.moves.roster (by intro h; cases h), hq.roster (by intro h; cases h), hpolled.keeps.2,
      hp.roster (by intro h; cases h)]
    rfl

omit [SerdeJson] [Sha256] in
theorem relabel_uuids (d d' : Daemon) :
    relabel d d' (d.roster.map (·.accountUuid)) = d'.roster.map (·.accountUuid) := by
  unfold relabel
  split
  · next hroster => rw [hroster]
  · rw [rekey_keys]
    rfl

theorem labels_run {x y : (Daemon × World) × List String} {tr : List Turn}
    (hrun : Runs (LabelledStep ((surroundings pid).under Elapses)) x tr y)
    (hx : x.2 = x.1.1.roster.map (·.accountUuid)) : y.2 = y.1.1.roster.map (·.accountUuid) := by
  apply hrun.state_invariant (I := fun y => y.2 = y.1.1.roster.map (·.accountUuid)) hx
  rintro y l z hy ⟨-, -, hz⟩
  rw [hz, hy]
  exact relabel_uuids y.1.1 z.1.1

end Runs

end Sessiometer
