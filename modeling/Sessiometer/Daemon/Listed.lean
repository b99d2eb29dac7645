import Sessiometer.Daemon.Roster

/-! # Positions in the roster

The active account and the schedule are kept by position. Over every run they stay positions of the
roster that is in force. -/

namespace Sessiometer

open Effects

/-- A daemon as it is started: it has a loaded roster, has polled nothing, and no episode is open. -/
structure Daemon.Started (d : Daemon) : Prop where
  loaded : UniqueUuids d.roster
  resolved : ∀ i, d.active = some i → i < d.roster.length
  fresh : d.latches =
    ({ roster := d.roster, settings := d.settings, active := d.active } : Daemon).latches

structure Daemon.Listed (d : Daemon) : Prop where
  active : ∀ i, d.active = some i → i < d.roster.length
  schedule : ∀ i ∈ d.pollSchedule, i < d.roster.length

/-- The edges that a poll emits. -/
def Event.ofPoll : Event → Bool
  | .exhaustedSlowPoll .. => true
  | .exhaustedSlowPollCleared _ => true
  | .blindEnter .. => true
  | .blindExit .. => true
  | _ => false

/-- The latches without those that a poll's answer is folded into. -/
def Daemon.unpolled (d : Daemon) : Latches :=
  { d.latches with
    lastGood := none
    slots := fun _ => ({} : AccountRuntime).slot
    edges := d.latches.edges.filter (fun e => !e.ofPoll) }

section Listed

variable {d d' : Daemon}

theorem Daemon.Started.listed (h : d.Started) : d.Listed := by
  refine ⟨h.resolved, ?_⟩
  intro i hi
  rw [show d.pollSchedule = [] from congrArg Latches.pollSchedule h.fresh] at hi
  cases hi

theorem pollSchedule_of_latches (h : d'.latches = d.latches) : d'.pollSchedule = d.pollSchedule :=
  congrArg Latches.pollSchedule h

theorem pollPos_of_latches (h : d'.latches = d.latches) : d'.pollPos = d.pollPos :=
  congrArg Latches.pollPos h

theorem unpolled_of_latches (h : d'.latches = d.latches) : d'.unpolled = d.unpolled :=
  congrArg (fun l : Latches =>
    { l with
      lastGood := none
      slots := fun _ => ({} : AccountRuntime).slot
      edges := l.edges.filter (fun e => !e.ofPoll) }) h

theorem Daemon.Listed.of_unpolled (hd : d.Listed) (h : d'.unpolled = d.unpolled) : d'.Listed := by
  have hroster : d'.roster = d.roster := congrArg Latches.roster h
  have hactive : d'.active = d.active := congrArg Latches.active h
  have hschedule : d'.pollSchedule = d.pollSchedule := congrArg Latches.pollSchedule h
  refine ⟨?_, ?_⟩
  · rw [hactive, hroster]
    exact hd.active
  · rw [hschedule, hroster]
    exact hd.schedule

theorem Daemon.Listed.of_latches (hd : d.Listed) (h : d'.latches = d.latches) : d'.Listed :=
  hd.of_unpolled (unpolled_of_latches h)

theorem settleActive_listed (hd : d.Listed) (activeBefore : Option ℕ) :
    (d.settleActive activeBefore).Listed := by
  unfold Daemon.settleActive
  split
  · exact ⟨hd.active, fun i hi => absurd hi List.not_mem_nil⟩
  · exact hd

theorem reconcileRoster_listed (hd : d.Listed) (newRoster : List Account) (intent : ReloadIntent) :
    (d.reconcileRoster newRoster intent).Listed := by
  by_cases hrefuses : d.rosterState.refuses newRoster intent
  · rw [d.reconcileRoster_of_refuses hrefuses]
    exact hd
  · rw [d.reconcileRoster_of_adopts hrefuses]
    refine ⟨?_, fun i hi => absurd hi List.not_mem_nil⟩
    intro i hi
    obtain ⟨uuid, -, hposition⟩ := Option.bind_eq_some_iff.mp hi
    exact getElem?_of_rosterPosition hposition

theorem Move.listed {k : Phase} (h : Move k d d') (hd : d.Listed) : d'.Listed := by
  cases h with
  | idle hd' => exact hd.of_latches hd'
  | redesignated next anchor hnext _ hd' =>
    apply Daemon.Listed.of_latches _ hd'
    apply settleActive_listed
    exact ⟨hnext, hd.schedule⟩
  | @swapRecorded _ _ target at' htarget _ =>
    refine ⟨?_, fun i hi => absurd hi List.not_mem_nil⟩
    rintro i ⟨⟩
    exact htarget
  | livenessNoted state =>
    unfold Daemon.noteCanonicalLiveness
    cases state with
    | scrubbed => dsimp only; split <;> exact ⟨hd.active, hd.schedule⟩
    | present => dsimp only; split <;> exact ⟨hd.active, hd.schedule⟩
    | unknown => exact hd
  | @gapNoted _ j threshold now _ =>
    unfold Daemon.noteObservationGapOf
    dsimp only
    repeat' split
    all_goals exact ⟨hd.active, hd.schedule⟩
  | adoptWindowRolled at' =>
    unfold Daemon.rollScrubAdoptWindow
    split
    · split <;> exact ⟨hd.active, hd.schedule⟩
    · exact ⟨hd.active, hd.schedule⟩
  | adoptExhaustionNoted active _ =>
    unfold Daemon.noteScrubAdoptExhausted
    split <;> exact ⟨hd.active, hd.schedule⟩
  | adopted target at' => exact ⟨hd.active, hd.schedule⟩
  | allExhaustedSignaled => exact ⟨hd.active, hd.schedule⟩
  | activeDeadSignaled => exact ⟨hd.active, hd.schedule⟩
  | reloaded newRoster intent => exact reconcileRoster_listed hd newRoster intent

theorem Moves.listed {k : Phase} (h : Moves k d d') (hd : d.Listed) : d'.Listed := by
  induction h with
  | refl => exact hd
  | tail _ hmove ih => exact hmove.listed ih

theorem mem_buildPollSchedule {active : Option ℕ} {i : ℕ} (h : i ∈ d.buildPollSchedule active) :
    active = some i ∨ i < d.roster.length ∧ active ≠ some i ∧ d.inRotation i = true := by
  have hpeer : ∀ i ∈ (List.range d.roster.length).filter
      (fun i => decide (active ≠ some i) && d.inRotation i),
      i < d.roster.length ∧ active ≠ some i ∧ d.inRotation i = true := by
    intro i hi
    obtain ⟨hrange, hin⟩ := List.mem_filter.mp hi
    obtain ⟨hne, hrotation⟩ := Bool.and_eq_true_iff.mp hin
    exact ⟨List.mem_range.mp hrange, of_decide_eq_true hne, hrotation⟩
  unfold Daemon.buildPollSchedule at h
  cases active with
  | none => exact .inr (hpeer i h)
  | some a =>
    dsimp only at h
    split at h
    · rw [List.mem_singleton.mp h]
      exact .inl rfl
    · obtain ⟨j, hj, hi⟩ := List.mem_flatMap.mp h
      rcases List.mem_pair.mp hi with rfl | rfl
      · exact .inl rfl
      · exact .inr (hpeer i hj)

theorem nextPollIndex_listed (hd : d.Listed) : (d.nextPollIndex d.active).2.Listed ∧
    ∀ i, (d.nextPollIndex d.active).1 = some i → i < d.roster.length := by
  have hfilled : (d.refillPollSchedule d.active).Listed := by
    unfold Daemon.refillPollSchedule
    split
    · refine ⟨hd.active, ?_⟩
      intro i hi
      rcases mem_buildPollSchedule hi with hactive | ⟨hlt, -⟩
      · exact hd.active i hactive
      · exact hlt
    · exact hd
  have hroster : (d.refillPollSchedule d.active).roster = d.roster := by
    unfold Daemon.refillPollSchedule
    split <;> rfl
  refine ⟨⟨hfilled.active, hfilled.schedule⟩, ?_⟩
  intro i hi
  rw [← hroster]
  exact hfilled.schedule i (List.mem_of_getElem? hi)

/-! ## What a poll leaves alone -/

theorem setAccount_unpolled (d : Daemon) (i : ℕ) (f : AccountRuntime → AccountRuntime) :
    (d.setAccount i f).unpolled = d.unpolled := rfl

theorem emit_unpolled (d : Daemon) {e : Event} (h : e.ofPoll = true ∨ e.isEdge = false) :
    (d.emit e).unpolled = d.unpolled := by
  have hedges : (d.emit e).latches.edges.filter (fun e => !e.ofPoll) =
      d.latches.edges.filter (fun e => !e.ofPoll) := by
    rcases h with h | h
    · have hnone : ([e].filter Event.isEdge).filter (fun e => !e.ofPoll) = [] := by
        rw [List.filter_filter, List.filter_cons_of_neg (by simp [h]), List.filter_nil]
      unfold Daemon.emit Daemon.latches
      dsimp only
      rw [List.filter_append, List.filter_append, hnone, List.append_nil]
    · rw [d.emit_latches h]
  exact congrArg (fun es => { d.unpolled with edges := es }) hedges

theorem emitIf_unpolled (d : Daemon) (c : Bool) {e : Event}
    (h : e.ofPoll = true ∨ e.isEdge = false) : (d.emitIf c e).unpolled = d.unpolled := by
  unfold Daemon.emitIf
  split
  · exact emit_unpolled d h
  · rfl

theorem noteBlindEpisode_unpolled (d : Daemon) (i : ℕ) (active : Option ℕ)
    (result : Except Error Usage) (now : Nanos) :
    (d.noteBlindEpisode i active result now).unpolled = d.unpolled := by
  unfold Daemon.noteBlindEpisode
  split
  · split
    · exact emit_unpolled _ (.inl rfl)
    · rfl
  · rw [setAccount_unpolled]
    exact emit_unpolled d (.inl rfl)
  · rfl
  · rfl

theorem storeReading_unpolled (d : Daemon) (i : ℕ) (active : Option ℕ)
    (result : Except Error Usage) (now : Nanos) :
    (d.storeReading i active result now).unpolled = d.unpolled := by
  unfold Daemon.storeReading
  cases result with
  | error e => rfl
  | ok fresh =>
    dsimp only
    split <;> rfl

theorem noteExhaustedPoll_unpolled (d : Daemon) (i : ℕ) (active : Option ℕ) (now : Nanos)
    (nowSecs : Int) : (d.noteExhaustedPoll i active now nowSecs).unpolled = d.unpolled := by
  unfold Daemon.noteExhaustedPoll
  split
  · rfl
  · dsimp only
    split
    · exact emitIf_unpolled _ _ (.inl rfl)
    · exact emitIf_unpolled _ _ (.inl rfl)

theorem BackoffNoted.unpolled {i : ℕ} {isActive : Bool} {result : Except Error Usage} {t : Nanos}
    (h : BackoffNoted i isActive result t d d') : d'.unpolled = d.unpolled := by
  cases h with
  | cleared _ hd =>
    rw [unpolled_of_latches hd]
    exact emitIf_unpolled _ _ (.inr rfl)
  | armed streak interval now _ _ hd =>
    rw [unpolled_of_latches hd]
    rfl

/-- A poll takes its account off the schedule. What it answers is kept elsewhere. -/
theorem Polled.unpolled {p q : Daemon} {x : Option Answer} {t : Nanos} (h : Polled p x q t) :
    q.unpolled = (p.nextPollIndex p.active).2.unpolled := by
  cases h with
  | skipped hq => exact unpolled_of_latches hq
  | polled result now nowSecs _ _ h₁ h₂ h₃ h₄ h₅ hq =>
    rw [unpolled_of_latches hq, noteExhaustedPoll_unpolled, unpolled_of_latches h₅,
      storeReading_unpolled, unpolled_of_latches h₄, noteBlindEpisode_unpolled,
      unpolled_of_latches h₃, h₂.unpolled, unpolled_of_latches h₁]

theorem BackoffNoted.other {i j : ℕ} {isActive : Bool} {result : Except Error Usage} {t : Nanos}
    (h : BackoffNoted i isActive result t d d') (hj : j ≠ i) :
    (d'.accounts j).slot = (d.accounts j).slot := by
  cases h with
  | cleared _ hd =>
    rw [Daemon.slot_of_latches hd]
    unfold Daemon.clearBackoff Daemon.setHealth
    rw [emitIf_accounts, Daemon.setAccount_of_ne d i hj]
  | armed streak interval now _ _ hd =>
    rw [Daemon.slot_of_latches hd]
    unfold Daemon.armBackoff Daemon.setHealth
    rw [Daemon.setAccount_of_ne d i hj]

theorem noteBlindEpisode_other (d : Daemon) {i j : ℕ} (hj : j ≠ i) (active : Option ℕ)
    (result : Except Error Usage) (now : Nanos) :
    (d.noteBlindEpisode i active result now).accounts j = d.accounts j := by
  unfold Daemon.noteBlindEpisode
  split
  · split
    · exact Function.update_of_ne hj _ _
    · rfl
  · exact Function.update_of_ne hj _ _
  · rfl
  · rfl

theorem noteLandingOvershoot_other (d : Daemon) {i j : ℕ} (hj : j ≠ i) (active : Option ℕ)
    (result : Except Error Usage) (now : Nanos) :
    (d.noteLandingOvershoot i active result now).accounts j = d.accounts j := by
  have hclear : ∀ d' : Daemon, d'.accounts j = d.accounts j →
      (d'.clearParkedLanding i).accounts j = d.accounts j := by
    intro d' h
    rw [← h]
    exact d'.setAccount_of_ne i hj _
  unfold Daemon.noteLandingOvershoot
  split
  · rfl
  · split
    · exact hclear d rfl
    · split
      · rfl
      · split
        · exact hclear d rfl
        · split
          · exact hclear _ rfl
          · rfl

/-- The account that an answer was stored on. -/
def AccountRuntime.stored (a : AccountRuntime) (result : Except Error Usage) (now : Nanos) :
    AccountRuntime :=
  match result with
  | .ok fresh =>
    { a with
      sessionHighWater := SessionHighWater.fold a.sessionHighWater fresh
      sessionVelocity := if fresh.session.isNone then none else a.sessionVelocity
      lastReading := some fresh
      lastReadingAt := some now }
  | .error _ => { a with lastReading := none, lastReadingAt := none }

theorem storeReading_accounts (d : Daemon) (i : ℕ) (active : Option ℕ)
    (result : Except Error Usage) (now : Nanos) :
    (d.storeReading i active result now).accounts =
      Function.update d.accounts i ((d.accounts i).stored result now) := by
  unfold Daemon.storeReading
  cases result with
  | error e => rfl
  | ok fresh =>
    dsimp only
    split <;> rfl

theorem noteExhaustedPoll_other (d : Daemon) {i j : ℕ} (hj : j ≠ i) (active : Option ℕ)
    (now : Nanos) (nowSecs : Int) :
    (d.noteExhaustedPoll i active now nowSecs).accounts j = d.accounts j := by
  unfold Daemon.noteExhaustedPoll Daemon.setHealth
  split
  · rfl
  · dsimp only
    split
    · rw [emitIf_accounts, d.setAccount_of_ne i hj]
    · rw [emitIf_accounts, d.setAccount_of_ne i hj]

/-- A poll leaves every other account alone. -/
theorem Polled.other {p q : Daemon} {x : Option Answer} {t : Nanos} (h : Polled p x q t) {j : ℕ}
    (hj : x = none ∨ (p.nextPollIndex p.active).1 ≠ some j) :
    (q.accounts j).slot = (p.accounts j).slot := by
  cases h with
  | skipped hq => rw [Daemon.slot_of_latches hq, nextPollIndex_accounts]
  | @polled _ _ i s₁ s₂ s₃ s₄ s₅ result now nowSecs _ hpick h₁ h₂ h₃ h₄ h₅ hq =>
    have hne : j ≠ i := by
      rintro rfl
      rcases hj with hx | hx
      · cases hx
      · exact hx hpick
    calc (q.accounts j).slot
      _ = ((s₅.noteExhaustedPoll i p.active now nowSecs).accounts j).slot :=
          Daemon.slot_of_latches hq j
      _ = (s₅.accounts j).slot := by rw [noteExhaustedPoll_other s₅ hne]
      _ = ((s₄.storeReading i p.active result now).accounts j).slot := Daemon.slot_of_latches h₅ j
      _ = (s₄.accounts j).slot := by rw [storeReading_accounts, Function.update_of_ne hne]
      _ = ((s₃.noteBlindEpisode i p.active result now).accounts j).slot :=
          Daemon.slot_of_latches h₄ j
      _ = (s₃.accounts j).slot := by rw [noteBlindEpisode_other s₃ hne]
      _ = (s₂.accounts j).slot := Daemon.slot_of_latches h₃ j
      _ = (s₁.accounts j).slot := h₂.other hne
      _ = (p.accounts j).slot := by rw [Daemon.slot_of_latches h₁, nextPollIndex_accounts]

/-- The polled account's reading is the answer. -/
theorem Polled.lastReading {p q : Daemon} {result : Except Error Usage} {at' t : Nanos} {i : ℕ}
    (h : Polled p (some ⟨result, at'⟩) q t) (hi : (p.nextPollIndex p.active).1 = some i) :
    (q.accounts i).lastReading = result.toOption := by
  cases h with
  | @polled _ _ j s₁ s₂ s₃ s₄ s₅ _ _ nowSecs _ hpick h₁ h₂ h₃ h₄ h₅ hq =>
    cases hpick.symm.trans hi
    calc (q.accounts i).lastReading
      _ = ((s₅.noteExhaustedPoll i p.active at' nowSecs).accounts i).lastReading :=
          lastReading_of_latches hq i
      _ = (s₅.accounts i).lastReading :=
          noteExhaustedPoll_kept AccountRuntime.lastReading (fun _ _ => rfl) s₅ i _ at' nowSecs i
      _ = ((s₄.storeReading i p.active result at').accounts i).lastReading :=
          lastReading_of_latches h₅ i
      _ = ((s₄.accounts i).stored result at').lastReading := by
          rw [storeReading_accounts, Function.update_self]
      _ = result.toOption := by cases result <;> rfl

theorem Polled.listed {p q : Daemon} {x : Option Answer} {t : Nanos} (h : Polled p x q t)
    (hp : p.Listed) : q.Listed :=
  (nextPollIndex_listed hp).1.of_unpolled h.unpolled

theorem emitIf_edge (d : Daemon) (c : Bool) {e : Event} (h : e.isEdge = true) :
    (d.emitIf c e).latches =
      { d.latches with edges := d.latches.edges ++ if c = true then [e] else [] } := by
  unfold Daemon.emitIf
  split
  · have hedges : (d.emit e).events.filter Event.isEdge = d.events.filter Event.isEdge ++ [e] := by
      unfold Daemon.emit
      rw [List.filter_append, List.filter_cons_of_pos h, List.filter_nil]
    exact congrArg (fun es => { d.latches with edges := es }) hedges
  · rw [List.append_nil]

/-- What a tick settles is the two terminal edges. -/
theorem settle_latches (d : Daemon) (action : TickAction) : (d.settle action).latches =
    { d.latches with
      signaledAllExhausted := decide (action = .noViableTarget) && d.signaledAllExhausted
      signaledActiveDeadNoTarget :=
        decide (action = .activeDeadNoTarget) && d.signaledActiveDeadNoTarget
      edges := d.latches.edges ++
        (if action ≠ .noViableTarget ∧ d.signaledAllExhausted = true then [.allExhaustedCleared]
          else []) ++
        if action ≠ .activeDeadNoTarget ∧ d.signaledActiveDeadNoTarget = true then
          [.activeDeadNoTargetCleared] else [] } := by
  have hdead : ∀ s : Daemon, (if action = .activeDeadNoTarget then s
      else { s.emitIf s.signaledActiveDeadNoTarget .activeDeadNoTargetCleared with
        signaledActiveDeadNoTarget := false }).latches =
      { s.latches with
        signaledActiveDeadNoTarget :=
          decide (action = .activeDeadNoTarget) && s.signaledActiveDeadNoTarget
        edges := s.latches.edges ++
          if action ≠ .activeDeadNoTarget ∧ s.signaledActiveDeadNoTarget = true then
            [.activeDeadNoTargetCleared] else [] } := by
    intro s
    by_cases h : action = .activeDeadNoTarget
    · simp [h, Daemon.latches]
    · rw [if_neg h]
      have hcleared := emitIf_edge s s.signaledActiveDeadNoTarget
        (e := .activeDeadNoTargetCleared) rfl
      have hlatches := congrArg (fun l => { l with signaledActiveDeadNoTarget := false }) hcleared
      simp only [h, decide_false, Bool.false_and, ne_eq, not_false_eq_true, true_and]
      exact hlatches
  unfold Daemon.settle
  dsimp only
  rw [Daemon.noteNearLimit_latches, hdead]
  by_cases h : action = .noViableTarget
  · simp [h, Daemon.latches]
  · rw [if_neg h]
    have hcleared := emitIf_edge d d.signaledAllExhausted (e := .allExhaustedCleared) rfl
    have hflag : (d.emitIf d.signaledAllExhausted .allExhaustedCleared).signaledActiveDeadNoTarget =
        d.signaledActiveDeadNoTarget := congrArg Latches.signaledActiveDeadNoTarget hcleared
    have hlatches := congrArg (fun l => { l with signaledAllExhausted := false }) hcleared
    simp only [h, decide_false, Bool.false_and, ne_eq, not_false_eq_true, true_and, hflag]
    exact congrArg (fun l : Latches =>
      { l with
        signaledActiveDeadNoTarget :=
          decide (action = TickAction.activeDeadNoTarget) && d.signaledActiveDeadNoTarget
        edges := l.edges ++
          if ¬ action = TickAction.activeDeadNoTarget ∧ d.signaledActiveDeadNoTarget = true then
            [Event.activeDeadNoTargetCleared] else [] }) hlatches

/-! ## A reload -/

theorem account_of_getElem? {i : ℕ} {account : Account} (h : d.roster[i]? = some account) :
    d.account i = account := by
  unfold Daemon.account
  rw [List.getD_eq_getElem?_getD, h, Option.getD_some]

theorem getElem?_account {i : ℕ} (h : i < d.roster.length) : d.roster[i]? = some (d.account i) := by
  rw [account_of_getElem? (List.getElem?_eq_getElem h), List.getElem?_eq_getElem h]

/-- Of two positions of a loaded roster only one has a uuid. -/
theorem eq_of_uuid (hunique : UniqueUuids d.roster) {i j : ℕ} (hi : i < d.roster.length)
    (hj : j < d.roster.length) (h : (d.account i).accountUuid = (d.account j).accountUuid) :
    i = j := by
  have hposition := Keyed.position_of_getElem? hunique (getElem?_account hi)
  rw [h, Keyed.position_of_getElem? hunique (getElem?_account hj)] at hposition
  exact (Option.some.inj hposition).symm

/-- A persisting account takes its state along. -/
theorem carryOver_of_uuid (hunique : UniqueUuids d.roster) {newRoster : List Account}
    {account : Account} {i j : ℕ} (hi : i < d.roster.length) (hj : newRoster[j]? = some account)
    (h : account.accountUuid = (d.account i).accountUuid) :
    d.carryOver newRoster j = d.accounts i := by
  have hposition : rosterPosition d.roster (d.account i).accountUuid = some i :=
    Keyed.position_of_getElem? hunique (getElem?_account hi)
  unfold Daemon.carryOver
  rw [hj]
  dsimp only
  rw [h, hposition]

/-- Every other account starts afresh. -/
theorem carryOver_cases (d : Daemon) (newRoster : List Account) (j : ℕ) :
    d.carryOver newRoster j = {} ∨ ∃ account i, newRoster[j]? = some account ∧
      rosterPosition d.roster account.accountUuid = some i ∧
      d.carryOver newRoster j = d.accounts i := by
  unfold Daemon.carryOver
  cases hget : newRoster[j]? with
  | none => exact .inl rfl
  | some account =>
    dsimp only
    cases hposition : rosterPosition d.roster account.accountUuid with
    | none => exact .inl rfl
    | some i => exact .inr ⟨account, i, rfl, hposition, rfl⟩

/-- Whoever is active under an adopted roster was active before. -/
theorem active_reconcileRoster {newRoster : List Account} {intent : ReloadIntent}
    (hadopts : ¬ d.rosterState.refuses newRoster intent) {j : ℕ}
    (hj : (d.reconcileRoster newRoster intent).active = some j) :
    ∃ i account, d.active = some i ∧ newRoster[j]? = some account ∧
      account.accountUuid = (d.account i).accountUuid := by
  rw [d.reconcileRoster_of_adopts hadopts] at hj
  obtain ⟨uuid, huuid, hposition⟩ := Option.bind_eq_some_iff.mp hj
  obtain ⟨old, hold, rfl⟩ := Option.map_eq_some_iff.mp huuid
  obtain ⟨i, hactive, hget⟩ := Option.bind_eq_some_iff.mp hold
  obtain ⟨account, haccount, hkey⟩ := Keyed.getElem?_of_position hposition
  refine ⟨i, account, hactive, haccount, ?_⟩
  rw [hkey, account_of_getElem? hget]

/-- Whoever was active stays so under an adopted roster that has the account. -/
theorem active_reconcileRoster_of_persists {newRoster : List Account} {intent : ReloadIntent}
    (hadopts : ¬ d.rosterState.refuses newRoster intent) (hunique : UniqueUuids newRoster)
    {account : Account} {i j : ℕ} (hactive : d.active = some i) (hj : newRoster[j]? = some account)
    (hi : rosterPosition d.roster account.accountUuid = some i) :
    (d.reconcileRoster newRoster intent).active = some j := by
  obtain ⟨old, hold, hkey⟩ := Keyed.getElem?_of_position hi
  have huuid : d.rosterState.activeUuid = some account.accountUuid := by
    unfold RosterState.activeUuid
    rw [show d.rosterState.active = some i from hactive, Option.bind_some,
      show d.rosterState.roster[i]? = some old from hold, Option.map_some, hkey]
  rw [d.reconcileRoster_of_adopts hadopts]
  dsimp only
  rw [huuid, Option.bind_some]
  exact Keyed.position_of_getElem? hunique hj

/-! ## Turns and runs -/

theorem Daemon.Listed.settle (hd : d.Listed) (action : TickAction) : (d.settle action).Listed := by
  have hlatches := settle_latches d action
  refine ⟨?_, ?_⟩
  · rw [show (d.settle action).active = d.active from congrArg Latches.active hlatches,
      show (d.settle action).roster = d.roster from congrArg Latches.roster hlatches]
    exact hd.active
  · rw [show (d.settle action).pollSchedule = d.pollSchedule from
        congrArg Latches.pollSchedule hlatches,
      show (d.settle action).roster = d.roster from congrArg Latches.roster hlatches]
    exact hd.schedule

theorem Course.listed {l : Turn} {log : Option PollLog} {t t' : Nanos} (h : Course d t l log d' t')
    (hd : d.Listed) : d'.Listed ∧ ∀ x, log = some x → x.consulted.Listed := by
  cases h with
  | between hmoves =>
    exact ⟨hmoves.listed hd, fun x hx => by cases hx⟩
  | reloaded newRoster intent =>
    exact ⟨reconcileRoster_listed hd newRoster intent, fun x hx => by cases hx⟩
  | locked hd' =>
    have hbegun : d.beginTick.Listed := ⟨hd.active, hd.schedule⟩
    exact ⟨hbegun.of_latches hd', fun x hx => by cases hx⟩
  | observed x _ action _ _ hp hpolled _ hq hr hr' =>
    have hbegun : d.beginTick.Listed := ⟨hd.active, hd.schedule⟩
    have hconsulted := hp.listed hbegun
    refine ⟨(hr'.listed (hr.moves.listed (hq.listed (hpolled.listed hconsulted)))).settle action, ?_⟩
    rintro x ⟨⟩
    exact hconsulted

end Listed

section Runs

variable [SerdeJson] [Sha256]

/-- A turn, told with its poll, that leaves a loaded roster in force. -/
def LoadedStep (D : Device Seams World) (s : Daemon × World) (l : Turn × Option PollLog)
    (s' : Daemon × World) : Prop :=
  LoggedStep D s l s' ∧ UniqueUuids s'.1.roster

variable {pid : ℕ} {s s' : Daemon × World} {tr : List (Turn × Option PollLog)}

theorem listed_run (hrun : Runs (LoadedStep ((surroundings pid).under Elapses)) s tr s')
    (h₀ : s.1.Started) : s'.1.Listed ∧ UniqueUuids s'.1.roster := by
  apply hrun.state_invariant (I := fun s => s.1.Listed ∧ UniqueUuids s.1.roster)
    ⟨h₀.listed, h₀.loaded⟩
  rintro ⟨d, w⟩ ⟨l, log⟩ ⟨d', w'⟩ ⟨hd, -⟩ ⟨hstep, hunique⟩
  exact ⟨((course_of_logged hstep).listed hd).1, hunique⟩

/-- The polls of a run, in order. -/
def pollLogs (tr : List (Turn × Option PollLog)) : List PollLog := tr.filterMap (·.2)

omit [SerdeJson] [Sha256] in
theorem pollLogs_snoc (l : Turn × Option PollLog) :
    pollLogs (tr ++ [l]) = pollLogs tr ++ l.2.toList := by
  unfold pollLogs
  rw [List.filterMap_append]
  cases hl : l.2 with
  | none => rw [List.filterMap_cons_none hl]; rfl
  | some x => rw [List.filterMap_cons_some hl]; rfl

theorem listed_logs (hrun : Runs (LoadedStep ((surroundings pid).under Elapses)) s tr s')
    (h₀ : s.1.Started) : ∀ x ∈ pollLogs tr, x.consulted.Listed := by
  have h : s'.1.Listed ∧ ∀ x ∈ pollLogs tr, x.consulted.Listed := by
    apply hrun.invariant (I := fun tr s => s.1.Listed ∧ ∀ x ∈ pollLogs tr, x.consulted.Listed)
    · refine ⟨h₀.listed, ?_⟩
      intro x hx
      cases hx
    · rintro tr ⟨d, w⟩ ⟨l, log⟩ ⟨d', w'⟩ ⟨hd, hlogs⟩ ⟨hstep, -⟩
      obtain ⟨hd', hconsulted⟩ := (course_of_logged hstep).listed hd
      refine ⟨hd', ?_⟩
      intro x hx
      rw [pollLogs_snoc] at hx
      rcases List.mem_append.mp hx with hx | hx
      · exact hlogs x hx
      · exact hconsulted x (Option.mem_toList.mp hx)
  exact h.2

end Runs

end Sessiometer
