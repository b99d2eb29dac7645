import Sessiometer.Pacing.Window
import Sessiometer.Daemon.Anchor

/-! # The adopt budget

A cleared canonical item is adopted anew at most so often in a window. The budget is counted from the
first adopt on, and opens again once that adopt has left the window, wherever the others are. -/

namespace Sessiometer

open Effects

def Event.isRecovery : Event → Bool
  | .canonicalRecovered _ => true
  | _ => false

def Event.isExhaustion : Event → Bool
  | .canonicalRecoveryExhausted _ => true
  | _ => false

def Event.isAdopt (e : Event) : Bool := e.isRecovery || e.isExhaustion

/-- The counter of the adopts, with what it has told this tick. -/
structure AdoptBudget where
  count : ℕ
  windowStart : Option Nanos
  signaled : Bool
  told : List Event

def Latches.adoptBudget (l : Latches) : AdoptBudget :=
  ⟨l.scrubAdoptCount, l.scrubAdoptWindowStart, l.signaledScrubAdoptExhausted,
    l.edges.filter Event.isAdopt⟩

def Daemon.adoptBudget (d : Daemon) : AdoptBudget := d.latches.adoptBudget

namespace AdoptBudget

variable (b : AdoptBudget)

def begun : AdoptBudget := { b with told := [] }

/-- Whether the window has passed by an instant. -/
def Passed (at' : Nanos) : Prop :=
  ∃ start, b.windowStart = some start ∧ scrubAdoptWindow ≤ saturatingDurationSince at' start

instance (at' : Nanos) : Decidable (b.Passed at') :=
  decidable_of_iff (b.windowStart.any
    (fun start => decide (scrubAdoptWindow ≤ saturatingDurationSince at' start)) = true) (by
      unfold Passed
      cases b.windowStart with
      | none => simp
      | some start => simp)

def rolled (at' : Nanos) : AdoptBudget :=
  if b.Passed at' then { b with count := 0, windowStart := none, signaled := false } else b

def exhausted (account : Option String) : AdoptBudget :=
  if b.signaled then b
  else { b with signaled := true, told := b.told ++ [.canonicalRecoveryExhausted account] }

def adopted (at' : Nanos) (account : String) : AdoptBudget :=
  { b with
    count := b.count + 1
    windowStart := some (b.windowStart.getD at')
    told := b.told ++ [.canonicalRecovered account] }

end AdoptBudget

/-- What a tick may make of the budget: it has nothing to recover from, it rolls the window and finds
the budget spent or no one to adopt, or it adopts within the budget. -/
inductive Spends (at' : Nanos) (b : AdoptBudget) : AdoptBudget → Prop
  | idle : Spends at' b b
  | exhausted (account : Option String) : Spends at' b ((b.rolled at').exhausted account)
  | held : Spends at' b (b.rolled at')
  | adopted (account : String) : (b.rolled at').count < scrubAdoptMax →
      Spends at' b ((b.rolled at').adopted at' account)

/-! ## Who spends -/

section Spending

variable {d d' : Daemon}

theorem isEdge_of_isAdopt {e : Event} (h : e.isAdopt = true) : e.isEdge = true := by
  cases e <;> first | rfl | cases h

theorem not_ofPoll_of_isAdopt {e : Event} (h : e.isAdopt = true) : (!e.ofPoll) = true := by
  cases e <;> first | rfl | cases h

/-- A part of the events is a part of any filter of them that keeps it. -/
theorem filter_filter_of_imp {p q : Event → Bool} (h : ∀ e, p e = true → q e = true)
    (l : List Event) : (l.filter q).filter p = l.filter p := by
  rw [List.filter_filter]
  apply List.filter_congr
  intro e _
  rw [Bool.and_eq_left_iff_imp]
  exact h e

theorem told_adoptBudget (d : Daemon) : d.adoptBudget.told = d.events.filter Event.isAdopt :=
  filter_filter_of_imp (fun _ => isEdge_of_isAdopt) d.events

theorem adoptBudget_of_latches (h : d'.latches = d.latches) : d'.adoptBudget = d.adoptBudget :=
  congrArg Latches.adoptBudget h

theorem adoptBudget_of_unpolled (h : d'.unpolled = d.unpolled) : d'.adoptBudget = d.adoptBudget := by
  have hunpolled : ∀ s : Daemon, s.unpolled.adoptBudget = s.adoptBudget := by
    intro s
    have htold := filter_filter_of_imp (p := Event.isAdopt) (q := fun e => !e.ofPoll)
      (fun _ => not_ofPoll_of_isAdopt) s.latches.edges
    exact congrArg (fun es => { s.adoptBudget with told := es }) htold
  rw [← hunpolled d', ← hunpolled d, h]

theorem adoptBudget_of_fields (hcount : d'.scrubAdoptCount = d.scrubAdoptCount)
    (hstart : d'.scrubAdoptWindowStart = d.scrubAdoptWindowStart)
    (hsignaled : d'.signaledScrubAdoptExhausted = d.signaledScrubAdoptExhausted)
    (htold : d'.events.filter Event.isAdopt = d.events.filter Event.isAdopt) :
    d'.adoptBudget = d.adoptBudget := by
  rw [← told_adoptBudget, ← told_adoptBudget] at htold
  calc d'.adoptBudget
    _ = ⟨d'.scrubAdoptCount, d'.scrubAdoptWindowStart, d'.signaledScrubAdoptExhausted,
          d'.adoptBudget.told⟩ := rfl
    _ = ⟨d.scrubAdoptCount, d.scrubAdoptWindowStart, d.signaledScrubAdoptExhausted,
          d.adoptBudget.told⟩ := by rw [hcount, hstart, hsignaled, htold]
    _ = d.adoptBudget := rfl

theorem emit_adoptBudget (d : Daemon) {e : Event} (h : e.isAdopt = false) :
    (d.emit e).adoptBudget = d.adoptBudget := by
  refine adoptBudget_of_fields rfl rfl rfl ?_
  unfold Daemon.emit
  rw [List.filter_append, List.filter_cons_of_neg (by rw [h]; exact Bool.false_ne_true),
    List.filter_nil, List.append_nil]

theorem emit_told (d : Daemon) {e : Event} (h : e.isAdopt = true) :
    (d.emit e).adoptBudget = { d.adoptBudget with told := d.adoptBudget.told ++ [e] } := by
  have htold : (d.emit e).adoptBudget.told = d.adoptBudget.told ++ [e] := by
    rw [told_adoptBudget, told_adoptBudget]
    unfold Daemon.emit
    rw [List.filter_append, List.filter_cons_of_pos h, List.filter_nil]
  exact congrArg (fun es => { d.adoptBudget with told := es }) htold

theorem rollScrubAdoptWindow_adoptBudget (d : Daemon) (at' : Nanos) :
    (d.rollScrubAdoptWindow at').adoptBudget = d.adoptBudget.rolled at' := by
  unfold Daemon.rollScrubAdoptWindow AdoptBudget.rolled
  cases hstart : d.scrubAdoptWindowStart with
  | none =>
    rw [if_neg]
    rintro ⟨start, hsome, -⟩
    exact absurd (hstart.symm.trans hsome) (Option.some_ne_none start).symm
  | some start =>
    dsimp only
    by_cases hpassed : scrubAdoptWindow ≤ saturatingDurationSince at' start
    · rw [if_pos hpassed, if_pos ⟨start, hstart, hpassed⟩]
      rfl
    · rw [if_neg hpassed, if_neg]
      rintro ⟨start', hsome, hpassed'⟩
      cases hstart.symm.trans hsome
      exact hpassed hpassed'

theorem noteScrubAdoptExhausted_adoptBudget (d : Daemon) (active : Option ℕ) :
    (d.noteScrubAdoptExhausted active).adoptBudget =
      d.adoptBudget.exhausted (active.map (fun i => (d.account i).label)) := by
  have hbudget : d.adoptBudget.signaled = d.signaledScrubAdoptExhausted := rfl
  unfold Daemon.noteScrubAdoptExhausted AdoptBudget.exhausted
  rw [hbudget]
  by_cases hsignaled : d.signaledScrubAdoptExhausted = true
  · rw [if_pos hsignaled, if_pos hsignaled]
  · rw [if_neg hsignaled, if_neg hsignaled]
    exact congrArg (fun b => { b with signaled := true })
      (emit_told d (e := .canonicalRecoveryExhausted _) rfl)

theorem scrubAdopted_adoptBudget (d : Daemon) (target : ℕ) (at' : Nanos) :
    (d.scrubAdopted target at').adoptBudget =
      d.adoptBudget.adopted at' (d.account target).label := emit_told _ rfl

theorem swapRecorded_adoptBudget (d : Daemon) (target : ℕ) (at' : Nanos) :
    (d.swapRecorded target at').adoptBudget = d.adoptBudget := by
  have hrecorded := congrArg Latches.adoptBudget (d.swapRecorded_latches target at')
  exact hrecorded

theorem reconcileRoster_adoptBudget (d : Daemon) (newRoster : List Account) (intent : ReloadIntent) :
    (d.reconcileRoster newRoster intent).adoptBudget = d.adoptBudget := by
  by_cases hrefuses : d.rosterState.refuses newRoster intent
  · rw [d.reconcileRoster_of_refuses hrefuses]
  · rw [d.reconcileRoster_of_adopts hrefuses]
    rfl

/-- Only a recovery spends. -/
theorem Move.adoptBudget {k : Phase} (h : Move k d d') (hk : k ≠ .recover) :
    d'.adoptBudget = d.adoptBudget := by
  cases h with
  | idle hd => exact adoptBudget_of_latches hd
  | redesignated next anchor _ _ hd =>
    rw [adoptBudget_of_latches hd]
    unfold Daemon.settleActive
    split <;> rfl
  | @swapRecorded _ _ target at' _ _ => exact swapRecorded_adoptBudget d target at'
  | livenessNoted state =>
    unfold Daemon.noteCanonicalLiveness
    cases state with
    | scrubbed =>
      dsimp only
      split
      · rfl
      · exact emit_adoptBudget d rfl
    | present =>
      dsimp only
      split
      · exact emit_adoptBudget d rfl
      · rfl
    | unknown => rfl
  | @gapNoted _ i threshold now _ =>
    unfold Daemon.noteObservationGapOf
    dsimp only
    split
    · split
      · rfl
      · split
        · rfl
        · exact emit_adoptBudget d (e := .observationGapExit _ _ _ _) rfl
    · split
      · rfl
      · split
        · rfl
        · split
          · rfl
          · exact emit_adoptBudget _ (e := .observationGapEnter _ _ _ _) rfl
  | adoptWindowRolled => exact absurd rfl hk
  | adoptExhaustionNoted => exact absurd rfl hk
  | adopted => exact absurd rfl hk
  | allExhaustedSignaled hold cause resetsAt _ => exact emit_adoptBudget d rfl
  | activeDeadSignaled hold cause resetsAt _ => exact emit_adoptBudget d rfl
  | reloaded newRoster intent => exact reconcileRoster_adoptBudget d newRoster intent

theorem Moves.adoptBudget {k : Phase} (h : Moves k d d') (hk : k ≠ .recover) :
    d'.adoptBudget = d.adoptBudget := by
  induction h with
  | refl => rfl
  | tail _ hmove ih => exact (hmove.adoptBudget hk).trans ih

theorem Polled.adoptBudget {p q : Daemon} {x : Option Answer} {t : Nanos} (h : Polled p x q t) :
    q.adoptBudget = p.adoptBudget := by
  rw [adoptBudget_of_unpolled h.unpolled]
  unfold Daemon.nextPollIndex Daemon.refillPollSchedule
  dsimp only
  split <;> rfl

theorem settle_adoptBudget (d : Daemon) (action : TickAction) :
    (d.settle action).adoptBudget = d.adoptBudget := by
  have hcleared : ∀ (c c' : Prop) [Decidable c] [Decidable c'],
      (d.latches.edges ++ (if c then [Event.allExhaustedCleared] else []) ++
        if c' then [Event.activeDeadNoTargetCleared] else []).filter Event.isAdopt =
      d.latches.edges.filter Event.isAdopt := by
    intro c c' _ _
    have hnone : ∀ (c : Prop) [Decidable c] (e : Event), e.isAdopt = false →
        (if c then [e] else []).filter Event.isAdopt = [] := by
      intro c _ e he
      split
      · rw [List.filter_cons_of_neg (by rw [he]; exact Bool.false_ne_true), List.filter_nil]
      · rfl
    rw [List.filter_append, List.filter_append, hnone c _ rfl, hnone c' _ rfl, List.append_nil,
      List.append_nil]
  have hsettled := congrArg Latches.adoptBudget (settle_latches d action)
  exact hsettled.trans (congrArg (fun es => { d.adoptBudget with told := es }) (hcleared _ _))

theorem Recovered.spends {at' : Nanos} (h : Recovered at' d d') :
    Spends at' d.adoptBudget d'.adoptBudget := by
  have hrolled := rollScrubAdoptWindow_adoptBudget d at'
  cases h with
  | unscrubbed => exact .idle
  | exhausted active _ =>
    rw [noteScrubAdoptExhausted_adoptBudget, hrolled]
    exact .exhausted _
  | held hd =>
    rw [adoptBudget_of_latches hd, hrolled]
    exact .held
  | @adopted target e e' hlt he _ he' =>
    have hbudget : e'.adoptBudget = d.adoptBudget.rolled at' := by
      rw [adoptBudget_of_latches he', swapRecorded_adoptBudget, adoptBudget_of_latches he, hrolled]
    have hcount : (d.adoptBudget.rolled at').count < scrubAdoptMax := by
      rw [← hrolled]
      exact hlt
    rw [scrubAdopted_adoptBudget, hbudget]
    exact .adopted _ hcount

/-- The tick found the canonical item cleared: it recovered at once, or decided on such a view. -/
def Turn.Scrubbed (l : Turn) : Prop := ∀ x, l.decision = some x → x.view.liveness = .scrubbed

/-- A tick begins with nothing told, and spends at its own instant if it found the canonical item
cleared. Nothing else spends. -/
theorem Course.spends {l : Turn} {log : Option PollLog} {t t' : Nanos}
    (h : Course d t l log d' t') :
    t ≤ t' ∧ (log = none → l.events.filter Event.isAdopt = [] ∧
      d'.adoptBudget.begun = d.adoptBudget.begun) ∧
    ∀ x, log = some x → t ≤ x.at' ∧ x.at' ≤ t' ∧ x.folded.adoptBudget = d.adoptBudget.begun ∧
      l.events.filter Event.isAdopt = d'.adoptBudget.told ∧
      Spends x.at' d.adoptBudget.begun d'.adoptBudget ∧
      (l.Scrubbed ∨ d'.adoptBudget = d.adoptBudget.begun) := by
  cases h with
  | between hmoves ht =>
    refine ⟨ht, fun _ => ⟨rfl, ?_⟩, fun x hx => by cases hx⟩
    rw [hmoves.adoptBudget (by intro h; cases h)]
  | reloaded newRoster intent =>
    refine ⟨le_refl t, fun _ => ⟨rfl, ?_⟩, fun x hx => by cases hx⟩
    rw [reconcileRoster_adoptBudget]
  | locked hd ht =>
    have hbudget : d'.adoptBudget = d.adoptBudget.begun := adoptBudget_of_latches hd
    refine ⟨ht, fun _ => ⟨?_, ?_⟩, fun x hx => by cases hx⟩
    · exact (told_adoptBudget d').symm.trans (congrArg AdoptBudget.told hbudget)
    · rw [hbudget]
      rfl
  | @observed r r' e t₁ _ x y action hbegan hat hp hpolled ht' hr hr' he htold =>
    have hfolded : x.folded.adoptBudget = d.adoptBudget.begun := by
      rw [hpolled.adoptBudget, hp.adoptBudget (by intro h; cases h)]
      rfl
    have hbefore : r.adoptBudget = d.adoptBudget.begun := by
      rw [hr.adoptBudget (by intro h; cases h), hfolded]
    have hafter : (e.settle action).adoptBudget = r'.adoptBudget := by
      rw [settle_adoptBudget, he.adoptBudget (by intro h; cases h)]
    refine ⟨le_trans hbegan (le_trans hat ht'), fun hx => absurd hx (Option.some_ne_none x), ?_⟩
    rintro x ⟨⟩
    refine ⟨hbegan, le_trans hat ht', hfolded, (told_adoptBudget _).symm, ?_, ?_⟩
    · rw [hafter, ← hbefore]
      exact hr'.spends
    · rw [hafter, ← hbefore]
      obtain ⟨state, -, hview, -, hidle⟩ := htold.found
      by_cases hstate : state = .scrubbed
      · exact .inl (fun z hz => (hview z hz).1.trans hstate)
      · exact .inr (by rw [hidle hstate])

end Spending

/-! ## The budget over a run -/

/-- The instants of the adopts that a turn has landed. -/
def landedIn (l : Turn × Option PollLog) : List Nanos :=
  match l.2 with
  | some x => (l.1.events.filter Event.isRecovery).map (fun _ => x.at')
  | none => []

def landedAdopts (tr : List (Turn × Option PollLog)) : List Nanos := tr.flatMap landedIn

def exhaustions (tr : List (Turn × Option PollLog)) : List Event :=
  tr.flatMap (fun l => l.1.events.filter Event.isExhaustion)

/-- The tick recovers at an instant by which the window has passed that the daemon counts in. -/
def Reopens (l : Turn × Option PollLog) (at' : Nanos) : Prop :=
  ∃ x, l.2 = some x ∧ x.at' = at' ∧ l.1.Scrubbed ∧ x.folded.adoptBudget.Passed at'

/-- Whenever the budget opens again, every adopt so far has left the window. -/
def Aged (tr : List (Turn × Option PollLog)) : Prop :=
  ∀ before l after at', tr = before ++ l :: after → Reopens l at' →
    ∀ a ∈ landedAdopts before, a + scrubAdoptWindow ≤ at'

/-- The adopts so far are paced, and as many as are counted cover them. -/
structure Metered (t : Nanos) (history : List Nanos) (count : ℕ) : Prop where
  paced : Pacing.Paced scrubAdoptWindow scrubAdoptMax history
  covered : ∃ record : List Nanos, record.length = count ∧
    Pacing.Covers scrubAdoptWindow t record history

section Metering

variable {at' t t' : Nanos} {b b' : AdoptBudget} {history : List Nanos}

theorem Metered.later (h : Metered t history b.count) (ht : t ≤ t') :
    Metered t' history b.count := by
  obtain ⟨record, hcount, hcovers⟩ := h.covered
  exact ⟨h.paced, record, hcount, hcovers.later ht⟩

/-- What has left the window need not be counted. -/
theorem Metered.rolled (h : Metered t history b.count) (ht : t ≤ at')
    (hopen : b.Passed at' → ∀ a ∈ history, a + scrubAdoptWindow ≤ at') :
    Metered at' history (b.rolled at').count := by
  unfold AdoptBudget.rolled
  by_cases hpassed : b.Passed at'
  · rw [if_pos hpassed]
    refine ⟨h.paced, [], rfl, ?_⟩
    intro now hnow
    have hleft : Pacing.recent scrubAdoptWindow now history = [] := by
      apply List.filter_eq_nil_iff.mpr
      intro a ha
      rw [decide_eq_true_iff, not_lt]
      exact le_trans (hopen hpassed a ha) hnow
    rw [hleft, List.length_nil]
    exact Nat.zero_le _
  · rw [if_neg hpassed]
    exact h.later ht

theorem Metered.adopt {count : ℕ} (h : Metered at' history count) (hlt : count < scrubAdoptMax) :
    Metered at' (history ++ [at']) (count + 1) := by
  obtain ⟨record, hcount, hcovers⟩ := h.covered
  have hrecent : (Pacing.recent scrubAdoptWindow at' record).length < scrubAdoptMax :=
    lt_of_le_of_lt Pacing.length_recent_le (hcount ▸ hlt)
  refine ⟨h.paced.extend hcovers (le_refl at') hrecent, record ++ [at'], ?_, hcovers.snoc at'⟩
  rw [List.length_append, hcount, List.length_singleton]

@[simp] theorem rolled_told (b : AdoptBudget) (at' : Nanos) : (b.rolled at').told = b.told := by
  unfold AdoptBudget.rolled
  split <;> rfl

@[simp] theorem exhausted_count (b : AdoptBudget) (account : Option String) :
    (b.exhausted account).count = b.count := by
  unfold AdoptBudget.exhausted
  split <;> rfl

theorem exhausted_recoveries (b : AdoptBudget) (account : Option String) :
    (b.exhausted account).told.filter Event.isRecovery = b.told.filter Event.isRecovery := by
  unfold AdoptBudget.exhausted
  split
  · rfl
  · rw [List.filter_append]
    exact List.append_nil _

/-- A tick adopts within the budget. -/
theorem Spends.metered (h : Spends at' b.begun b') (hm : Metered t history b.count) (ht : t ≤ at')
    (hopen : b.Passed at' → ∀ a ∈ history, a + scrubAdoptWindow ≤ at') :
    Metered at' (history ++ (b'.told.filter Event.isRecovery).map (fun _ => at')) b'.count := by
  have hrolled : Metered at' history (b.begun.rolled at').count :=
    Metered.rolled (b := b.begun) hm ht hopen
  have hnone : (b.begun.rolled at').told.filter Event.isRecovery = [] := by
    rw [rolled_told]
    rfl
  cases h with
  | idle =>
    rw [show b.begun.told.filter Event.isRecovery = [] from rfl, List.map_nil, List.append_nil]
    exact Metered.later (b := b.begun) hm ht
  | exhausted account =>
    rw [exhausted_recoveries, hnone, List.map_nil, List.append_nil, exhausted_count]
    exact hrolled
  | held =>
    rw [hnone, List.map_nil, List.append_nil]
    exact hrolled
  | adopted account hlt =>
    have htold : ((b.begun.rolled at').adopted at' account).told.filter Event.isRecovery =
        [.canonicalRecovered account] := by
      unfold AdoptBudget.adopted
      rw [List.filter_append, hnone]
      rfl
    rw [htold]
    exact hrolled.adopt hlt

/-- A tick that does not open the budget again reports it as spent once. -/
theorem Spends.exhaustions (h : Spends at' b.begun b') (hopen : ¬ b.Passed at') :
    ((b'.told.filter Event.isExhaustion).length = 0 ∧ b'.signaled = b.signaled) ∨
      ((b'.told.filter Event.isExhaustion).length = 1 ∧ b.signaled = false ∧
        b'.signaled = true) := by
  have hrolled : b.begun.rolled at' = b.begun := if_neg hopen
  cases h with
  | idle => exact .inl ⟨rfl, rfl⟩
  | held =>
    rw [hrolled]
    exact .inl ⟨rfl, rfl⟩
  | adopted account _ =>
    rw [hrolled]
    exact .inl ⟨rfl, rfl⟩
  | exhausted account =>
    rw [hrolled]
    unfold AdoptBudget.exhausted
    by_cases hsignaled : b.begun.signaled = true
    · rw [if_pos hsignaled]
      exact .inl ⟨rfl, rfl⟩
    · rw [if_neg hsignaled]
      exact .inr ⟨rfl, eq_false_of_ne_true hsignaled, rfl⟩

end Metering

section Runs

variable {tr : List (Turn × Option PollLog)} {l : Turn × Option PollLog}

theorem landedAdopts_snoc : landedAdopts (tr ++ [l]) = landedAdopts tr ++ landedIn l := by
  unfold landedAdopts
  rw [List.flatMap_append, List.flatMap_singleton]

theorem exhaustions_snoc :
    exhaustions (tr ++ [l]) = exhaustions tr ++ l.1.events.filter Event.isExhaustion := by
  unfold exhaustions
  rw [List.flatMap_append, List.flatMap_singleton]

theorem aged_nil : Aged [] := by
  intro before l after at' htr
  exact absurd htr.symm (List.append_ne_nil_of_right_ne_nil before (List.cons_ne_nil l after))

theorem Aged.snoc (h : Aged tr) (hl : ∀ at', Reopens l at' →
    ∀ a ∈ landedAdopts tr, a + scrubAdoptWindow ≤ at') : Aged (tr ++ [l]) := by
  intro before l' after at' htr
  rcases List.eq_nil_or_concat after with rfl | ⟨after', z, rfl⟩
  · obtain ⟨rfl, hlast⟩ := List.append_inj' htr rfl
    cases hlast
    exact hl at'
  · rw [List.concat_eq_append, ← List.cons_append, ← List.append_assoc] at htr
    exact h before l' after' at' (List.append_inj' htr rfl).1

theorem Aged.front (h : Aged (tr ++ [l])) : Aged tr := by
  intro before l' after at' htr
  refine h before l' (after ++ [l]) at' ?_
  rw [htr, List.append_assoc, List.cons_append]

theorem recoveries_of_told {events told : List Event} (h : events.filter Event.isAdopt = told) :
    told.filter Event.isRecovery = events.filter Event.isRecovery := by
  rw [← h]
  apply filter_filter_of_imp
  intro e he
  exact Bool.or_eq_true_iff.mpr (.inl he)

theorem exhaustions_of_told {events told : List Event} (h : events.filter Event.isAdopt = told) :
    told.filter Event.isExhaustion = events.filter Event.isExhaustion := by
  rw [← h]
  apply filter_filter_of_imp
  intro e he
  exact Bool.or_eq_true_iff.mpr (.inr he)

theorem Course.metered {d d' : Daemon} {t t' : Nanos} (h : Course d t l.1 l.2 d' t')
    (hm : Metered t (landedAdopts tr) d.adoptBudget.count) (haged : Aged (tr ++ [l])) :
    Metered t' (landedAdopts (tr ++ [l])) d'.adoptBudget.count := by
  obtain ⟨ht, hquiet, hspends⟩ := h.spends
  rw [landedAdopts_snoc]
  unfold landedIn
  cases hlog : l.2 with
  | none =>
    have hbegun : d'.adoptBudget.begun.count = d.adoptBudget.begun.count := by
      rw [(hquiet hlog).2]
    have hcount : d'.adoptBudget.count = d.adoptBudget.count := hbegun
    rw [List.append_nil, hcount]
    exact hm.later ht
  | some x =>
    obtain ⟨hbegan, hended, hfolded, htold, hspent, hidle⟩ := hspends x hlog
    dsimp only
    rw [← recoveries_of_told htold]
    rcases hidle with hscrubbed | hidle
    · have hmetered := hspent.metered hm hbegan (by
        intro hpassed
        refine haged tr l [] x.at' rfl ⟨x, hlog, rfl, hscrubbed, ?_⟩
        rw [hfolded]
        exact hpassed)
      exact hmetered.later hended
    · rw [hidle]
      have hnone : d.adoptBudget.begun.told.filter Event.isRecovery = [] := rfl
      rw [hnone, List.map_nil, List.append_nil]
      exact Metered.later (b := d.adoptBudget) hm ht

/-- Between two openings the spent budget is reported once. -/
theorem Course.exhaustions {d d' : Daemon} {t t' : Nanos} (h : Course d t l.1 l.2 d' t')
    (hopen : ∀ at', ¬ Reopens l at') {n : ℕ}
    (hn : n ≤ 1 ∧ (d.adoptBudget.signaled = false → n = 0)) :
    n + (l.1.events.filter Event.isExhaustion).length ≤ 1 ∧ (d'.adoptBudget.signaled = false →
      n + (l.1.events.filter Event.isExhaustion).length = 0) := by
  have hsame : (l.1.events.filter Event.isExhaustion).length = 0 →
      d'.adoptBudget.signaled = d.adoptBudget.signaled →
      n + (l.1.events.filter Event.isExhaustion).length ≤ 1 ∧ (d'.adoptBudget.signaled = false →
        n + (l.1.events.filter Event.isExhaustion).length = 0) := by
    intro hnone hsignaled
    rw [hnone, hsignaled]
    exact hn
  obtain ⟨-, hquiet, hspends⟩ := h.spends
  cases hlog : l.2 with
  | none =>
    obtain ⟨htold, hbudget⟩ := hquiet hlog
    have hbegun : d'.adoptBudget.begun.signaled = d.adoptBudget.begun.signaled := by rw [hbudget]
    refine hsame ?_ hbegun
    rw [← exhaustions_of_told htold]
    rfl
  | some x =>
    obtain ⟨-, -, hfolded, htold, hspent, hidle⟩ := hspends x hlog
    rcases hidle with hscrubbed | hidle
    · have hpassed : ¬ d.adoptBudget.Passed x.at' := by
        intro hpassed
        refine hopen x.at' ⟨x, hlog, rfl, hscrubbed, ?_⟩
        rw [hfolded]
        exact hpassed
      rcases hspent.exhaustions hpassed with ⟨hnone, hsignaled⟩ | ⟨hone, hfresh, hsignaled⟩
      · rw [exhaustions_of_told htold] at hnone
        exact hsame hnone hsignaled
      · rw [exhaustions_of_told htold] at hone
        rw [hone, hn.2 hfresh, hsignaled]
        exact ⟨le_refl 1, fun h => by cases h⟩
    · refine hsame ?_ (by rw [hidle]; rfl)
      rw [← exhaustions_of_told htold, hidle]
      rfl

variable [SerdeJson] [Sha256] {pid : ℕ} {s s' : Daemon × World}

theorem metered_run (hrun : Runs (LoggedStep ((surroundings pid).under Elapses)) s tr s')
    (h₀ : s.1.Started) (haged : Aged tr) :
    Metered s'.2.clock (landedAdopts tr) s'.1.adoptBudget.count := by
  have h : Aged tr → Metered s'.2.clock (landedAdopts tr) s'.1.adoptBudget.count := by
    apply hrun.invariant (I := fun tr s => Aged tr →
      Metered s.2.clock (landedAdopts tr) s.1.adoptBudget.count)
    · intro _
      have hcount : s.1.adoptBudget.count = 0 := congrArg (fun l => l.adoptBudget.count) h₀.fresh
      exact ⟨Pacing.paced_nil, [], hcount.symm, Pacing.covers_nil⟩
    · rintro tr ⟨d, w⟩ l ⟨d', w'⟩ hm hstep haged
      exact (course_of_logged hstep).metered (hm haged.front) haged
  exact h haged

theorem exhaustions_run {episode : List (Turn × Option PollLog)}
    (hrun : Runs (LoggedStep ((surroundings pid).under Elapses)) s episode s')
    (hopen : ∀ l ∈ episode, ∀ at', ¬ Reopens l at') : (exhaustions episode).length ≤ 1 := by
  have h : (∀ l ∈ episode, ∀ at', ¬ Reopens l at') → (exhaustions episode).length ≤ 1 ∧
      (s'.1.adoptBudget.signaled = false → (exhaustions episode).length = 0) := by
    apply hrun.invariant (I := fun tr s => (∀ l ∈ tr, ∀ at', ¬ Reopens l at') →
      (exhaustions tr).length ≤ 1 ∧ (s.1.adoptBudget.signaled = false → (exhaustions tr).length = 0))
    · intro _
      exact ⟨Nat.zero_le 1, fun _ => rfl⟩
    · rintro tr ⟨d, w⟩ l ⟨d', w'⟩ hn hstep hopen
      have hbefore := hn (fun l hl => hopen l (List.mem_append_left _ hl))
      rw [exhaustions_snoc, List.length_append]
      exact (course_of_logged hstep).exhaustions
        (hopen l (List.mem_append_right _ (List.mem_singleton_self l))) hbefore
  exact (h hopen).1

/-- Of a started daemon, where the budget opens again only once every landed adopt has left the
window, no window holds more adopts than the budget. And between two openings the spent budget is
reported once. -/
theorem scrub_adopts_paced (pid : ℕ) (s s' : Daemon × World) (tr : List (Turn × Option PollLog))
    (h₀ : s.1.Started) (hrun : Runs (LoggedStep ((surroundings pid).under Elapses)) s tr s') :
    (Aged tr → Pacing.Paced scrubAdoptWindow scrubAdoptMax (landedAdopts tr)) ∧
    ∀ before episode after, tr = before ++ episode ++ after →
      (∀ l ∈ episode, ∀ at', ¬ Reopens l at') → (exhaustions episode).length ≤ 1 := by
  refine ⟨fun haged => (metered_run hrun h₀ haged).paced, ?_⟩
  rintro before episode after rfl hopen
  obtain ⟨s₁, hfirst, -⟩ := runs_append_iff.mp hrun
  obtain ⟨s₂, -, hepisode⟩ := runs_append_iff.mp hfirst
  exact exhaustions_run hepisode hopen

end Runs

section Sample

local instance churnJson : SerdeJson := sampleJson

local instance churnSha : Sha256 := ⟨fun _ => 0⟩

/-- The canonical item is cleared, and a tick finds it so at the given instant. -/
def scrubbedTick (s : Daemon × World) (at' : Nanos) :
    (Turn × Option PollLog) × (Daemon × World) :=
  rehearse (answering.handler 0) s.1
    { s.2 with stores := { s.2.stores with canonical := none }, clock := at' }

theorem scrubbedTick_step {s : Daemon × World} {at' : Nanos} (h : s.2.clock ≤ at') :
    LoggedStep ((surroundings 0).under Elapses) s (scrubbedTick s at').1 (scrubbedTick s at').2 :=
  loggedStep_rehearse answering_refines h

theorem answeredTick_run : Runs (LoggedStep ((surroundings 0).under Elapses))
    (sampleDaemon, sampleWorld ⟨[1]⟩ "A") [answeredTick.1] answeredTick.2 :=
  runs_single (loggedStep_rehearse answering_refines (le_refl (sampleWorld ⟨[1]⟩ "A").clock))

def firstAdopt : (Turn × Option PollLog) × (Daemon × World) := scrubbedTick answeredTick.2 0

/-- Two more adopts just before the first one leaves the window, and two just after. -/
def secondAdopt : (Turn × Option PollLog) × (Daemon × World) := scrubbedTick firstAdopt.2 (secs 3500)

def thirdAdopt : (Turn × Option PollLog) × (Daemon × World) := scrubbedTick secondAdopt.2 (secs 3550)

def fourthAdopt : (Turn × Option PollLog) × (Daemon × World) := scrubbedTick thirdAdopt.2 (secs 3600)

def fifthAdopt : (Turn × Option PollLog) × (Daemon × World) := scrubbedTick fourthAdopt.2 (secs 3650)

theorem firstAdopt_run : Runs (LoggedStep ((surroundings 0).under Elapses))
    (sampleDaemon, sampleWorld ⟨[1]⟩ "A") [answeredTick.1, firstAdopt.1] firstAdopt.2 := by
  have hclock : answeredTick.2.2.clock ≤ 0 := by decide +kernel
  exact .snoc answeredTick_run (scrubbedTick_step hclock)

/-- Four adopts land in one window. -/
theorem scrub_adopts_straddle :
    ¬ ∀ (s s' : Daemon × World) (tr : List (Turn × Option PollLog)), s.1.Started →
      Runs (LoggedStep ((surroundings 0).under Elapses)) s tr s' →
      Pacing.Paced scrubAdoptWindow scrubAdoptMax (landedAdopts tr) := by
  intro hclaim
  have hfirst : firstAdopt.2.2.clock ≤ secs 3500 := by decide +kernel
  have hsecond : secondAdopt.2.2.clock ≤ secs 3550 := by decide +kernel
  have hthird : thirdAdopt.2.2.clock ≤ secs 3600 := by decide +kernel
  have hfourth : fourthAdopt.2.2.clock ≤ secs 3650 := by decide +kernel
  have hrun : Runs (LoggedStep ((surroundings 0).under Elapses))
      (sampleDaemon, sampleWorld ⟨[1]⟩ "A")
      [answeredTick.1, firstAdopt.1, secondAdopt.1, thirdAdopt.1, fourthAdopt.1, fifthAdopt.1]
      fifthAdopt.2 :=
    .snoc (.snoc (.snoc (.snoc firstAdopt_run (scrubbedTick_step hfirst)) (scrubbedTick_step hsecond))
      (scrubbedTick_step hthird)) (scrubbedTick_step hfourth)
  have hpaced := hclaim _ _ _ sampleDaemon_started hrun (secs 3500)
  have hcrowded : ¬ (Pacing.within scrubAdoptWindow (secs 3500) (landedAdopts
      [answeredTick.1, firstAdopt.1, secondAdopt.1, thirdAdopt.1, fourthAdopt.1,
        fifthAdopt.1])).length ≤ scrubAdoptMax := by decide +kernel
  exact hcrowded hpaced

/-- An adopt, and another once the first has left the window. -/
theorem scrub_adopts_paced_reopened :
    landedAdopts [answeredTick.1, firstAdopt.1, (scrubbedTick firstAdopt.2 (secs 3600)).1] =
      [0, secs 3600] ∧
    Pacing.Paced scrubAdoptWindow scrubAdoptMax (landedAdopts
      [answeredTick.1, firstAdopt.1, (scrubbedTick firstAdopt.2 (secs 3600)).1]) := by
  have hclock : firstAdopt.2.2.clock ≤ secs 3600 := by decide +kernel
  have hlanded : landedAdopts ([] ++ [answeredTick.1] ++ [firstAdopt.1]) = [0] := by decide +kernel
  have hanswered : landedAdopts ([] ++ [answeredTick.1]) = [] := by decide +kernel
  have hat : (scrubbedTick firstAdopt.2 (secs 3600)).1.2.map (·.at') = some (secs 3600) := by
    decide +kernel
  have haged : Aged [answeredTick.1, firstAdopt.1, (scrubbedTick firstAdopt.2 (secs 3600)).1] := by
    refine ((aged_nil.snoc (l := answeredTick.1) ?_).snoc (l := firstAdopt.1) ?_).snoc ?_
    · intro at' _ a ha
      cases ha
    · intro at' _ a ha
      rw [hanswered] at ha
      cases ha
    · rintro at' ⟨x, hx, rfl, -, -⟩ a ha
      rw [hlanded] at ha
      rw [hx] at hat
      have hlast : x.at' = secs 3600 := Option.some.inj hat
      rw [List.mem_singleton.mp ha, hlast]
      decide
  refine ⟨by decide +kernel, ?_⟩
  exact (scrub_adopts_paced 0 _ _ _ sampleDaemon_started
    (.snoc firstAdopt_run (scrubbedTick_step hclock))).1 haged

end Sample

end Sessiometer
