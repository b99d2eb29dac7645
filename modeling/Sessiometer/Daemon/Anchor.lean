import Sessiometer.Daemon.Rehearsal

/-! # The anchor and its mark

The anchor of a blind window is the last reading of the active account, and is corrected by that
account's high-water mark as it is, with no look at the window. This is sound because one poll wrote
both. -/

namespace Sessiometer

open Effects

/-- The scheduled account answered with a reading. -/
structure PollLog.Reads (x : PollLog) (i : ℕ) (fresh : Usage) (at' : Nanos) : Prop where
  scheduled : x.scheduled = some i
  answer : x.answer = some ⟨.ok fresh, at'⟩

/-- The poll folds a reading into the mark of the account under a uuid. -/
def PollLog.Folds (x : PollLog) (uuid : String) : Prop :=
  ∃ i fresh at', x.Reads i fresh at' ∧ (x.consulted.account i).accountUuid = uuid

/-- The poll reads the active account, and so sets the anchor. -/
def PollLog.Anchors (x : PollLog) : Prop :=
  ∃ i fresh at', x.Reads i fresh at' ∧ x.consulted.active = some i

/-- The anchor is the reading `fresh` that `x` took of the active account, the mark was last folded
by the same reading, and no poll since has read that account, or set an anchor. -/
structure SetBy (polls : List PollLog) (d : Daemon) (anchor : LastGood) (i : ℕ) (x : PollLog)
    (fresh : Usage) : Prop where
  read : ∃ k, x.Reads k fresh anchor.at' ∧ x.consulted.active = some k ∧
    (x.consulted.account k).accountUuid = (d.account i).accountUuid ∧
    (d.accounts i).sessionHighWater =
      SessionHighWater.fold (x.consulted.accounts k).sessionHighWater fresh
  measured : anchor = ⟨fresh.session, fresh.weekly, anchor.at'⟩
  last : ∃ before after, polls = before ++ x :: after ∧
    ∀ y ∈ after, ¬ y.Anchors ∧ ¬ y.Folds (d.account i).accountUuid

/-- Whoever is active has the anchor that its mark was last folded with. Nobody has none. -/
structure Anchored (polls : List PollLog) (d : Daemon) : Prop where
  nobody : d.active = none → d.lastGood = none
  somebody : ∀ anchor i, d.lastGood = some anchor → d.active = some i →
    ∃ x fresh, SetBy polls d anchor i x fresh

section Correction

/-- A mark that a reading was just folded into names the window of that reading. -/
theorem appliesTo_fold {prev : Option SessionHighWater} {fresh : Usage} {mark : SessionHighWater}
    (h : SessionHighWater.fold prev fresh = some mark) : mark.appliesTo fresh = some mark.session := by
  have hself : ∀ window : Int, (window - window).natAbs ≤ sessionWindowMatchSecs := by
    intro window
    rw [Int.sub_self]
    exact Nat.zero_le _
  unfold SessionHighWater.fold at h
  cases hstamp : fresh.sessionResetsAt with
  | none =>
    rw [hstamp] at h
    cases h
  | some window =>
    cases hsession : fresh.session with
    | none =>
      rw [hstamp, hsession] at h
      cases h
    | some session =>
      rw [hstamp, hsession] at h
      have hmatches : mark.matchesWindow window = true := by
        cases prev with
        | none =>
          cases h
          exact decide_eq_true (hself window)
        | some prev =>
          dsimp only at h
          split at h
          · next hprev =>
            cases h
            exact hprev
          · cases h
            exact decide_eq_true (hself window)
      unfold SessionHighWater.appliesTo
      rw [hstamp]
      exact if_pos hmatches

/-- On the mark that the reading itself was folded into last, the correction that matches no window
is the one that does. -/
theorem plausibleAnchorSession_fold (prev : Option SessionHighWater) (fresh : Usage) :
    plausibleAnchorSession (SessionHighWater.fold prev fresh) fresh.session =
      (plausibleSession (SessionHighWater.fold prev fresh) fresh).session := by
  unfold plausibleAnchorSession plausibleSession
  cases hmark : SessionHighWater.fold prev fresh with
  | none =>
    cases hsession : fresh.session with
    | none => exact hsession.symm
    | some session => exact hsession.symm
  | some mark =>
    rw [Option.bind_some, appliesTo_fold hmark]
    cases hsession : fresh.session with
    | none => exact hsession.symm
    | some session =>
      dsimp only [Option.map_some]
      split
      · rfl
      · exact hsession.symm

end Correction

/-! ## What writes the two -/

/-- The anchor, and the mark of each account. -/
def Daemon.marks (d : Daemon) : Option LastGood × (ℕ → Option SessionHighWater) :=
  (d.lastGood, fun i => (d.accounts i).sessionHighWater)

section Marks

variable {d d' : Daemon}

theorem marks_of_latches (h : d'.latches = d.latches) : d'.marks = d.marks :=
  congrArg (fun l : Latches => (l.lastGood, fun i => (l.slots i).sessionHighWater)) h

theorem marks_of_accounts (hanchor : d'.lastGood = d.lastGood)
    (h : ∀ i, (d'.accounts i).sessionHighWater = (d.accounts i).sessionHighWater) :
    d'.marks = d.marks :=
  Prod.ext hanchor (funext h)

theorem noteBlindEpisode_marks (d : Daemon) (i : ℕ) (active : Option ℕ)
    (result : Except Error Usage) (now : Nanos) :
    (d.noteBlindEpisode i active result now).marks = d.marks := by
  apply marks_of_accounts
  · unfold Daemon.noteBlindEpisode
    split
    · split <;> rfl
    · rfl
    · rfl
    · rfl
  · exact noteBlindEpisode_kept _ (fun _ _ => rfl) d i active result now

theorem noteExhaustedPoll_marks (d : Daemon) (i : ℕ) (active : Option ℕ) (now : Nanos)
    (nowSecs : Int) : (d.noteExhaustedPoll i active now nowSecs).marks = d.marks := by
  apply marks_of_accounts
  · unfold Daemon.noteExhaustedPoll Daemon.emitIf
    split
    · rfl
    · dsimp only
      split <;> split <;> rfl
  · exact noteExhaustedPoll_kept _ (fun _ _ => rfl) d i active now nowSecs

theorem BackoffNoted.marks {i : ℕ} {isActive : Bool} {result : Except Error Usage} {t : Nanos}
    (h : BackoffNoted i isActive result t d d') : d'.marks = d.marks := by
  refine marks_of_accounts ?_ (h.kept Slot.sessionHighWater (fun _ _ _ => rfl))
  cases h with
  | cleared _ hd =>
    rw [Daemon.lastGood_of_latches hd]
    unfold Daemon.clearBackoff Daemon.emitIf
    split <;> rfl
  | armed streak interval now _ _ hd =>
    rw [Daemon.lastGood_of_latches hd]
    rfl

theorem nextPollIndex_marks (d : Daemon) (active : Option ℕ) :
    (d.nextPollIndex active).2.marks = d.marks := by
  apply marks_of_accounts
  · unfold Daemon.nextPollIndex Daemon.refillPollSchedule
    dsimp only
    split <;> rfl
  · intro j
    rw [nextPollIndex_accounts]

/-- The marks once an account has answered. -/
def foldMarks (marks : Option LastGood × (ℕ → Option SessionHighWater)) (i : ℕ) (isActive : Bool)
    (fresh : Usage) (at' : Nanos) : Option LastGood × (ℕ → Option SessionHighWater) :=
  (if isActive then some ⟨fresh.session, fresh.weekly, at'⟩ else marks.1,
    Function.update marks.2 i (SessionHighWater.fold (marks.2 i) fresh))

theorem storeReading_marks (d : Daemon) (i : ℕ) (active : Option ℕ) (fresh : Usage) (now : Nanos) :
    (d.storeReading i active (.ok fresh) now).marks =
      foldMarks d.marks i (decide (active = some i)) fresh now := by
  apply Prod.ext
  · unfold Daemon.storeReading foldMarks
    dsimp only
    by_cases h : active = some i
    · rw [if_pos h, if_pos (decide_eq_true h)]
      rfl
    · rw [if_neg h, if_neg (by rw [decide_eq_false h]; exact Bool.false_ne_true)]
      rfl
  · funext j
    unfold Daemon.marks foldMarks
    dsimp only
    rw [storeReading_accounts]
    by_cases hj : j = i
    · rw [hj, Function.update_self, Function.update_self]
      rfl
    · rw [Function.update_of_ne hj, Function.update_of_ne hj]

/-- One poll writes both, or neither. -/
theorem Polled.marks {p q : Daemon} {x : Option Answer} {t : Nanos} (h : Polled p x q t) :
    (q.marks = p.marks ∧ ∀ fresh at', x ≠ some ⟨.ok fresh, at'⟩) ∨
      ∃ i fresh at', (p.nextPollIndex p.active).1 = some i ∧ x = some ⟨.ok fresh, at'⟩ ∧
        q.marks = foldMarks p.marks i (decide (p.active = some i)) fresh at' := by
  cases h with
  | skipped hq =>
    refine .inl ⟨?_, ?_⟩
    · rw [marks_of_latches hq, nextPollIndex_marks]
    · intro fresh at' hx
      cases hx
  | @polled _ _ i s₁ s₂ s₃ s₄ s₅ result now nowSecs _ hpick h₁ h₂ h₃ h₄ h₅ hq =>
    have hmarks : s₄.marks = p.marks := by
      rw [marks_of_latches h₄, noteBlindEpisode_marks, marks_of_latches h₃, h₂.marks,
        marks_of_latches h₁, nextPollIndex_marks]
    have hstored : q.marks = (s₄.storeReading i p.active result now).marks := by
      rw [marks_of_latches hq, noteExhaustedPoll_marks, marks_of_latches h₅]
    cases result with
    | error e =>
      refine .inl ⟨?_, ?_⟩
      · rw [hstored, ← hmarks]
        refine marks_of_accounts rfl ?_
        exact s₄.setAccount_kept i AccountRuntime.sessionHighWater
          (f := fun a => { a with lastReading := none, lastReadingAt := none }) (fun _ => rfl)
      · intro fresh at' hx
        cases hx
    | ok fresh =>
      refine .inr ⟨i, fresh, now, hpick, rfl, ?_⟩
      rw [hstored, storeReading_marks, hmarks]

theorem noteObservationGapOf_marks (d : Daemon) (active : Option ℕ) (threshold now : Nanos)
    (i : ℕ) : (d.noteObservationGapOf active threshold now i).marks = d.marks := by
  apply marks_of_accounts
  · unfold Daemon.noteObservationGapOf
    dsimp only
    repeat' split
    all_goals rfl
  · exact noteObservationGapOf_kept _ (fun _ _ => rfl) d i active threshold now

end Marks

/-! ## The pair over a run -/

section Anchored

variable {polls : List PollLog} {d d' : Daemon}

theorem Anchored.of_none (h : d.lastGood = none) : Anchored polls d := by
  refine ⟨fun _ => h, ?_⟩
  intro anchor i hanchor
  rw [h] at hanchor
  cases hanchor

theorem SetBy.of_mark {anchor : LastGood} {i j : ℕ} {x : PollLog} {fresh : Usage}
    (h : SetBy polls d anchor i x fresh)
    (huuid : (d'.account j).accountUuid = (d.account i).accountUuid)
    (hmark : (d'.accounts j).sessionHighWater = (d.accounts i).sessionHighWater) :
    SetBy polls d' anchor j x fresh := by
  obtain ⟨⟨k, hreads, hactive, hk, hfold⟩, hmeasured, hlast⟩ := h
  refine ⟨⟨k, hreads, hactive, hk.trans huuid.symm, hmark.trans hfold⟩, hmeasured, ?_⟩
  rw [huuid]
  exact hlast

theorem Anchored.of_marks (h : Anchored polls d) (hmarks : d'.marks = d.marks)
    (hactive : d'.active = d.active) (hroster : d'.roster = d.roster) : Anchored polls d' := by
  have hanchor : d'.lastGood = d.lastGood := congrArg Prod.fst hmarks
  refine ⟨?_, ?_⟩
  · rw [hanchor, hactive]
    exact h.nobody
  · intro anchor i hg hi
    rw [hanchor] at hg
    rw [hactive] at hi
    obtain ⟨x, fresh, hset⟩ := h.somebody anchor i hg hi
    refine ⟨x, fresh, hset.of_mark ?_ (congrFun (congrArg Prod.snd hmarks) i)⟩
    unfold Daemon.account
    rw [hroster]

theorem reconcileRoster_anchored (h : Anchored polls d) (hd : d.Listed)
    (hunique : UniqueUuids d.roster) (newRoster : List Account) (intent : ReloadIntent) :
    Anchored polls (d.reconcileRoster newRoster intent) := by
  by_cases hrefuses : d.rosterState.refuses newRoster intent
  · rw [d.reconcileRoster_of_refuses hrefuses]
    exact h
  · have hadopted := d.reconcileRoster_of_adopts hrefuses
    have hroster : (d.reconcileRoster newRoster intent).roster = newRoster := by rw [hadopted]
    have haccounts : (d.reconcileRoster newRoster intent).accounts = d.carryOver newRoster := by
      rw [hadopted]
    have hanchor : (d.reconcileRoster newRoster intent).lastGood =
        if (d.reconcileRoster newRoster intent).active = none then none else d.lastGood := by
      rw [hadopted]
    refine ⟨?_, ?_⟩
    · intro hnone
      rw [hanchor, if_pos hnone]
    · intro anchor j hg hj
      rw [hanchor, if_neg (by rw [hj]; exact Option.some_ne_none j)] at hg
      obtain ⟨i, account, hactive, hget, huuid⟩ := active_reconcileRoster hrefuses hj
      obtain ⟨x, fresh, hset⟩ := h.somebody anchor i hg hactive
      refine ⟨x, fresh, hset.of_mark ?_ ?_⟩
      · rw [account_of_getElem? (hroster ▸ hget), huuid]
      · rw [haccounts, carryOver_of_uuid hunique (hd.active i hactive) hget huuid]

theorem Move.anchored {k : Phase} (h : Move k d d') (hd : d.Listed) (hunique : UniqueUuids d.roster)
    (ha : Anchored polls d) : Anchored polls d' := by
  cases h with
  | idle hd' =>
    exact ha.of_marks (marks_of_latches hd') (Daemon.active_of_latches hd')
      (Daemon.roster_of_latches hd')
  | redesignated next anchor _ hanchor hd' =>
    -- whoever was nobody had no anchor to keep
    apply Anchored.of_none
    rw [Daemon.lastGood_of_latches hd']
    have hsettled : ((d.designated next anchor).settleActive d.active).lastGood = anchor := by
      unfold Daemon.settleActive
      split <;> rfl
    rw [hsettled]
    rcases hanchor with hnone | ⟨hnobody, hkept⟩
    · exact hnone
    · rw [hkept]
      exact ha.nobody hnobody
  | swapRecorded => exact .of_none rfl
  | livenessNoted state =>
    unfold Daemon.noteCanonicalLiveness
    cases state with
    | scrubbed => dsimp only; split <;> exact ha.of_marks rfl rfl rfl
    | present => dsimp only; split <;> exact ha.of_marks rfl rfl rfl
    | unknown => exact ha
  | @gapNoted _ j threshold now _ =>
    have hframe := d.noteObservationGapOf_frame j d.active threshold now
    exact ha.of_marks (noteObservationGapOf_marks d _ threshold now j) (active_of_frame hframe)
      (roster_of_frame hframe)
  | adoptWindowRolled at' =>
    unfold Daemon.rollScrubAdoptWindow
    split
    · split <;> exact ha.of_marks rfl rfl rfl
    · exact ha.of_marks rfl rfl rfl
  | adoptExhaustionNoted active _ =>
    unfold Daemon.noteScrubAdoptExhausted
    split <;> exact ha.of_marks rfl rfl rfl
  | adopted target at' => exact ha.of_marks rfl rfl rfl
  | allExhaustedSignaled => exact ha.of_marks rfl rfl rfl
  | activeDeadSignaled => exact ha.of_marks rfl rfl rfl
  | reloaded newRoster intent => exact reconcileRoster_anchored ha hd hunique newRoster intent

theorem Moves.anchored {k : Phase} (h : Moves k d d') (hk : k ≠ .reload) (hd : d.Listed)
    (hunique : UniqueUuids d.roster) (ha : Anchored polls d) : Anchored polls d' := by
  induction h with
  | refl => exact ha
  | @tail b c hmoves hmove ih =>
    apply hmove.anchored (Moves.listed hmoves hd) _ ih
    rw [Moves.roster hmoves hk]
    exact hunique

/-- A poll that reads nothing keeps the pair. -/
theorem Anchored.append (h : Anchored polls d) {x : PollLog}
    (hx : ∀ i, d.active = some i → ¬ x.Anchors ∧ ¬ x.Folds (d.account i).accountUuid) :
    Anchored (polls ++ [x]) d := by
  refine ⟨h.nobody, ?_⟩
  intro anchor i hg hi
  obtain ⟨y, fresh, hread, hmeasured, before, after, rfl, hafter⟩ := h.somebody anchor i hg hi
  refine ⟨y, fresh, hread, hmeasured, before, after ++ [x], ?_, ?_⟩
  · rw [List.append_assoc, List.cons_append]
  · intro z hz
    rcases List.mem_append.mp hz with hz | hz
    · exact hafter z hz
    · rw [List.mem_singleton.mp hz]
      exact hx i hi

theorem Polled.anchored {x : PollLog} {q : Daemon} {t : Nanos}
    (h : Polled x.consulted x.answer q t) (hd : x.consulted.Listed)
    (hunique : UniqueUuids x.consulted.roster) (ha : Anchored polls x.consulted) :
    Anchored (polls ++ [x]) q := by
  obtain ⟨hactive, hroster⟩ := h.keeps
  rcases h.marks with ⟨hmarks, hfailed⟩ | ⟨i, fresh, at', hpick, hx, hmarks⟩
  · have hnever : ∀ i fresh at', ¬ x.Reads i fresh at' := fun _ fresh at' hr =>
      hfailed fresh at' hr.answer
    refine (ha.append ?_).of_marks hmarks hactive hroster
    intro i _
    refine ⟨?_, ?_⟩
    · rintro ⟨k, fresh, at', hr, -⟩
      exact hnever k fresh at' hr
    · rintro ⟨k, fresh, at', hr, -⟩
      exact hnever k fresh at' hr
  · have hreads : x.Reads i fresh at' := ⟨hpick, hx⟩
    have hanchor : q.lastGood = if x.consulted.active = some i
        then some ⟨fresh.session, fresh.weekly, at'⟩ else x.consulted.lastGood := by
      rw [show q.lastGood = _ from congrArg Prod.fst hmarks]
      simp only [foldMarks, decide_eq_true_eq, Daemon.marks]
    have hmark : ∀ j, (q.accounts j).sessionHighWater =
        Function.update (fun j => (x.consulted.accounts j).sessionHighWater) i
          (SessionHighWater.fold (x.consulted.accounts i).sessionHighWater fresh) j := fun j =>
      congrFun (congrArg Prod.snd hmarks) j
    have haccount : ∀ j, q.account j = x.consulted.account j := by
      intro j
      unfold Daemon.account
      rw [hroster]
    by_cases hi : x.consulted.active = some i
    · -- the poll that sets the anchor is the poll that folds the mark
      rw [if_pos hi] at hanchor
      refine ⟨?_, ?_⟩
      · intro hnone
        rw [hactive, hi] at hnone
        cases hnone
      · intro anchor j hg hj
        rw [hactive, hi] at hj
        cases hj
        rw [hanchor] at hg
        cases hg
        refine ⟨x, fresh, ⟨i, hreads, hi, ?_, ?_⟩, rfl, polls, [], rfl, ?_⟩
        · rw [haccount]
        · rw [hmark, Function.update_self]
        · intro y hy
          cases hy
    · rw [if_neg hi] at hanchor
      have hother : ∀ j, x.consulted.active = some j → j ≠ i := by
        rintro j hj rfl
        exact hi hj
      have hquiet : Anchored (polls ++ [x]) x.consulted := by
        apply ha.append
        intro j hj
        refine ⟨?_, ?_⟩
        · rintro ⟨k, _, _, hr, hk⟩
          rw [hr.scheduled.symm.trans hreads.scheduled] at hk
          exact hi hk
        · rintro ⟨k, _, _, hr, hk⟩
          cases hr.scheduled.symm.trans hreads.scheduled
          exact hother j hj (eq_of_uuid hunique (hd.active j hj)
            ((nextPollIndex_listed hd).2 i hpick) hk.symm)
      refine ⟨?_, ?_⟩
      · rw [hactive, hanchor]
        exact hquiet.nobody
      · intro anchor j hg hj
        rw [hanchor] at hg
        rw [hactive] at hj
        obtain ⟨y, fresh', hset⟩ := hquiet.somebody anchor j hg hj
        refine ⟨y, fresh', hset.of_mark (congrArg Account.accountUuid (haccount j)) ?_⟩
        rw [hmark, Function.update_of_ne (hother j hj)]

theorem Course.anchored {l : Turn} {log : Option PollLog} {t t' : Nanos}
    (h : Course d t l log d' t') (hd : d.Listed) (hunique : UniqueUuids d.roster)
    (ha : Anchored polls d) : Anchored (polls ++ log.toList) d' := by
  have hbegun : Anchored polls d.beginTick := ha.of_marks rfl rfl rfl
  have hlisted : d.beginTick.Listed := ⟨hd.active, hd.schedule⟩
  cases h with
  | between hmoves =>
    rw [Option.toList_none, List.append_nil]
    exact hmoves.anchored (by intro h; cases h) hd hunique ha
  | reloaded newRoster intent =>
    rw [Option.toList_none, List.append_nil]
    exact reconcileRoster_anchored ha hd hunique newRoster intent
  | locked hd' =>
    rw [Option.toList_none, List.append_nil]
    exact hbegun.of_marks (marks_of_latches hd') (Daemon.active_of_latches hd')
      (Daemon.roster_of_latches hd')
  | @observed r r' e t₁ _ x _ action _ _ hp hpolled _ hq hr hr' =>
    rw [Option.toList_some]
    have huniqueₚ : UniqueUuids x.consulted.roster := by
      rw [hp.roster (by intro h; cases h)]
      exact hunique
    have huniqueq : UniqueUuids x.folded.roster := by
      rw [hpolled.keeps.2]
      exact huniqueₚ
    have huniquer : UniqueUuids r.roster := by
      rw [hq.roster (by intro h; cases h)]
      exact huniqueq
    have huniquer' : UniqueUuids r'.roster := by
      rw [hr.moves.roster (by intro h; cases h)]
      exact huniquer
    have hlistedₚ := hp.listed hlisted
    have hlistedq := hpolled.listed hlistedₚ
    have hlistedr := hq.listed hlistedq
    have haₚ := hp.anchored (by intro h; cases h) hlisted hunique hbegun
    have haq := hpolled.anchored hlistedₚ huniqueₚ haₚ
    have har := hq.anchored (by intro h; cases h) hlistedq huniqueq haq
    have har' := hr.moves.anchored (by intro h; cases h) hlistedr huniquer har
    have hae := hr'.anchored (by intro h; cases h) (hr.moves.listed hlistedr) huniquer' har'
    have hsettled := settle_latches e action
    exact hae.of_marks
      (congrArg (fun l : Latches => (l.lastGood, fun i => (l.slots i).sessionHighWater)) hsettled)
      (congrArg Latches.active hsettled) (congrArg Latches.roster hsettled)

end Anchored

section Runs

variable [SerdeJson] [Sha256] {pid : ℕ} {s s' : Daemon × World}
  {tr : List (Turn × Option PollLog)}

theorem anchored_run (hrun : Runs (LoadedStep ((surroundings pid).under Elapses)) s tr s')
    (h₀ : s.1.Started) : Anchored (pollLogs tr) s'.1 := by
  have h : Anchored (pollLogs tr) s'.1 ∧ s'.1.Listed ∧ UniqueUuids s'.1.roster := by
    apply hrun.invariant (I := fun tr s => Anchored (pollLogs tr) s.1 ∧ s.1.Listed ∧
      UniqueUuids s.1.roster)
    · exact ⟨.of_none (congrArg Latches.lastGood h₀.fresh), h₀.listed, h₀.loaded⟩
    · rintro tr ⟨d, w⟩ ⟨l, log⟩ ⟨d', w'⟩ ⟨ha, hd, hunique⟩ ⟨hstep, hunique'⟩
      have hcourse := course_of_logged hstep
      rw [pollLogs_snoc]
      exact ⟨hcourse.anchored hd hunique ha, (hcourse.listed hd).1, hunique'⟩
  exact h.1

/-- In every state that a started daemon reaches under loaded rosters, the anchor is a reading of the
account that is active, its mark was last folded by the poll that took this reading, no later poll
read the account or set an anchor, and so the correction that matches no window gives what the
window-matching one gives on that reading. -/
theorem anchor_names_the_marks_window (pid : ℕ) (s s' : Daemon × World)
    (tr : List (Turn × Option PollLog)) (anchor : LastGood) (i : ℕ) (h₀ : s.1.Started)
    (hrun : Runs (LoadedStep ((surroundings pid).under Elapses)) s tr s')
    (hanchor : s'.1.lastGood = some anchor) (hactive : s'.1.active = some i) :
    ∃ x fresh, SetBy (pollLogs tr) s'.1 anchor i x fresh ∧
      plausibleAnchorSession (s'.1.accounts i).sessionHighWater anchor.session =
        (plausibleSession (s'.1.accounts i).sessionHighWater fresh).session := by
  obtain ⟨x, fresh, hset⟩ := (anchored_run hrun h₀).somebody anchor i hanchor hactive
  refine ⟨x, fresh, hset, ?_⟩
  obtain ⟨k, -, -, -, hfold⟩ := hset.read
  rw [hset.measured, hfold]
  exact plausibleAnchorSession_fold _ fresh

end Runs

section Sample

local instance anchorJson : SerdeJson := sampleJson

local instance anchorSha : Sha256 := ⟨fun _ => 0⟩

/-- The usage endpoint answers. -/
def answering : Script :=
  { Script.calm with
    poll := fun _ _ => .ok ⟨⟨some (1 / 2), some (1 / 4), none, some 7200⟩, none⟩ }

theorem answering_refines : (answering.handler 0).Refines (surroundings 0) :=
  Script.handler_refines answering ⟨by decide, by decide⟩ 0

def answeredTick : (Turn × Option PollLog) × (Daemon × World) :=
  rehearse (answering.handler 0) sampleDaemon (sampleWorld ⟨[1]⟩ "A")

/-- The first tick of a daemon, which reads its active account. -/
theorem anchor_names_the_marks_window_answered :
    answeredTick.2.1.lastGood = some ⟨some (1 / 2), some (1 / 4), 0⟩ ∧
    ∃ x fresh, SetBy (pollLogs [answeredTick.1]) answeredTick.2.1 ⟨some (1 / 2), some (1 / 4), 0⟩ 0
        x fresh ∧
      plausibleAnchorSession (answeredTick.2.1.accounts 0).sessionHighWater (some (1 / 2)) =
        (plausibleSession (answeredTick.2.1.accounts 0).sessionHighWater fresh).session := by
  have hrun := runs_rehearse (sampleDaemon, sampleWorld ⟨[1]⟩ "A") _ _ .refl answering_refines
    sampleDaemon_started.loaded (le_refl (sampleWorld ⟨[1]⟩ "A").clock)
  have hanchor : answeredTick.2.1.lastGood = some ⟨some (1 / 2), some (1 / 4), 0⟩ := by decide +kernel
  have hactive : answeredTick.2.1.active = some 0 := by decide +kernel
  refine ⟨hanchor, ?_⟩
  exact anchor_names_the_marks_window 0 _ _ _ _ 0 sampleDaemon_started hrun hanchor hactive

end Sample

end Sessiometer
