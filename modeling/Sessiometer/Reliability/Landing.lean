import Sessiometer.Daemon.Listed
import Sessiometer.Effects.Runs
import Sessiometer.Stats.Velocity

/-! # Where a swap has landed

The landing of a session swap, reconstructed from the samples, beside the watch that the daemon arms on
the account it has parked. -/

namespace Sessiometer.Reliability

open Effects Stats

/-! ## The reconstruction -/

structure Reactivation where
  ts : Int
  acct : String
deriving DecidableEq

structure SwapOut where
  ts : Int
  acct : String
  decisionPct : Option ℕ
  held : Bool
deriving DecidableEq

def landingWindowSecs : Int := 900

/-- The window closes at the last second before the account is active again. -/
def effectiveEnd (reactivations : List Reactivation) (swap : SwapOut) : Int :=
  let windowEnd := swap.ts + landingWindowSecs
  match ((reactivations.filter (fun si => decide (si.acct = swap.acct) && decide (swap.ts < si.ts))).map
      (fun si => si.ts - 1)).min? with
  | some beforeReactivation => min windowEnd beforeReactivation
  | none => windowEnd

def peakSession (samples : List Sample) (reactivations : List Reactivation) (swap : SwapOut) :
    Option ℚ :=
  ((samples.filter (fun s => decide (s.acct = swap.acct) &&
    (decide (swap.ts < s.ts) && decide (s.ts ≤ effectiveEnd reactivations swap)))).filterMap
      (·.session)).max?

/-- A fraction in whole percents, up to what eight bits hold. -/
def toLandingPct (peak : ℚ) : ℕ :=
  min 255 (if peak < 0 then 0 else (peak * 100 + 1 / 2).floor.toNat)

structure LandingFold where
  measured : List (ℕ × Option ℕ) := []
  nUnmeasured : ℕ := 0
  capacityHeld : ℕ := 0

/-- The landing of one anchor that is no capacity hold. -/
def landing (samples : List Sample) (reactivations : List Reactivation) (swap : SwapOut) : Option ℕ :=
  (peakSession samples reactivations swap).map toLandingPct

def foldLanding (samples : List Sample) (reactivations : List Reactivation) (fold : LandingFold)
    (swap : SwapOut) : LandingFold :=
  if swap.held then { fold with capacityHeld := fold.capacityHeld + 1 }
  else
    match landing samples reactivations swap with
    | some landingPct => { fold with measured := fold.measured ++ [(landingPct, swap.decisionPct)] }
    | none => { fold with nUnmeasured := fold.nUnmeasured + 1 }

def foldLandings (samples : List Sample) (reactivations : List Reactivation) (anchors : List SwapOut) :
    LandingFold :=
  anchors.foldl (foldLanding samples reactivations) {}

/-! ## The run -/

/-- What happens on the shared clock: a poll, with what it answered and what a retry made of an error; a
swap, for a reason unless it is an emergency swap; or something else. -/
inductive Happening where
  | polled (i : ℕ) (answer : Except Error PolledReading) (retried : Option Usage) (t : ℕ)
  | swapped (reason : Option SwapReason) (source : Option ℕ) (target decisionPct : ℕ) (held : Bool)
    (t : ℕ)
  | elsewhere (t : ℕ)

namespace Happening

def time : Happening → ℕ
  | .polled _ _ _ t => t
  | .swapped _ _ _ _ _ t => t
  | .elsewhere t => t

/-- What the poll comes to. -/
def result (answer : Except Error PolledReading) (retried : Option Usage) : Except Error Usage :=
  match answer with
  | .ok reading => .ok reading.usage
  | .error e => match retried with
    | some usage => .ok usage
    | none => .error e

/-- The sample of the poll, if it answered. -/
def sample? (label : ℕ → String) : Happening → Option Sample
  | .polled i (.ok reading) _ t => some (PollAt.sample ⟨reading, t⟩ (label i))
  | _ => none

def reactivation? (label : ℕ → String) : Happening → Option Reactivation
  | .swapped _ _ target _ _ t => some ⟨t, label target⟩
  | _ => none

/-- The account is made active. -/
def Revives (x : ℕ) : Happening → Prop
  | .swapped _ _ target _ _ _ => target = x
  | _ => False

/-- The account answers without a session window. -/
def Vanishes (x : ℕ) : Happening → Prop
  | .polled i answer retried _ => i = x ∧ ∃ usage, result answer retried = .ok usage ∧ usage.session = none
  | _ => False

/-- The account answers at or over the ceiling. -/
def Overshoots (x : ℕ) : Happening → Prop
  | .polled i answer retried _ => i = x ∧ ∃ usage session, result answer retried = .ok usage ∧
      usage.session = some session ∧ isOvershoot (toPct session) = true
  | _ => False

end Happening

/-- The record that a poll makes of an armed watch. -/
def landingRecord (d : Daemon) (i : ℕ) (result : Except Error Usage) (now : Nanos) :
    Option LandingOvershootRecord :=
  match (d.accounts i).parkedLanding, result with
  | some parked, .ok fresh =>
    if d.active = some i ∨ landingWindow ≤ saturatingDurationSince now parked.armedAt then none
    else fresh.session.bind (fun session =>
      if isOvershoot (toPct session) then
        some ⟨(d.account i).label, parked.decisionPct, toPct session, now⟩
      else none)
  | _, _ => none

/-- The daemon, the swaps so far, the swap that armed the watch of each account, and the swaps that have
been recorded as an overshoot. -/
structure Watching where
  daemon : Daemon
  swaps : ℕ := 0
  armer : ℕ → Option ℕ := fun _ => none
  records : List ℕ := []

/-- A swap in the state. A session swap arms the watch of the account it leaves. -/
def afterSwap (d : Daemon) (reason : Option SwapReason) (source : Option ℕ) (target decisionPct t : ℕ) :
    Daemon :=
  match reason, source with
  | some .session, some x => (d.swapRecorded target (secs t)).setAccount x
      (fun a => { a with parkedLanding := some ⟨secs t, decisionPct⟩ })
  | _, _ => d.swapRecorded target (secs t)

def afterSwapArmer (s : Watching) (reason : Option SwapReason) (source : Option ℕ) : ℕ → Option ℕ :=
  match reason, source with
  | some .session, some x => Function.update s.armer x (some s.swaps)
  | _, _ => s.armer

inductive WatchStep : Watching → Happening → Watching → Prop
  | polled {s : Watching} (i : ℕ) (answer : Except Error PolledReading) (retried : Option Usage) (t : ℕ) :
      WatchStep s (.polled i answer retried t)
        { s with
          daemon := s.daemon.noteLandingOvershoot i s.daemon.active (Happening.result answer retried)
            (secs t)
          records := s.records ++
            if (landingRecord s.daemon i (Happening.result answer retried) (secs t)).isSome then
              (s.armer i).toList else [] }
  | swapped {s : Watching} (reason : Option SwapReason) (source : Option ℕ)
      (target decisionPct : ℕ) (held : Bool) (t : ℕ) :
      s.daemon.active = source → (reason = some .session → source ≠ some target) →
      WatchStep s (.swapped reason source target decisionPct held t)
        { s with
          daemon := afterSwap s.daemon reason source target decisionPct t
          swaps := s.swaps + 1
          armer := afterSwapArmer s reason source }
  | elsewhere {s : Watching} {d' : Daemon} (t : ℕ) : d'.active = s.daemon.active →
      (∀ i, (d'.accounts i).parkedLanding = (s.daemon.accounts i).parkedLanding) →
      WatchStep s (.elsewhere t) { s with daemon := d' }

/-- No happening is earlier than one before it. -/
def InOrder (tr : List Happening) : Prop := tr.Pairwise (fun a b => a.time ≤ b.time)

/-- A poll retains the record, and nothing else does. -/
theorem noteLandingOvershoot_record (d : Daemon) (i : ℕ) (result : Except Error Usage) (now : Nanos) :
    (d.noteLandingOvershoot i d.active result now).lastLandingOvershoot =
      (landingRecord d i result now).or d.lastLandingOvershoot := by
  unfold Daemon.noteLandingOvershoot landingRecord
  cases hparked : (d.accounts i).parkedLanding with
  | none => rfl
  | some parked =>
    dsimp only
    by_cases hmoot : d.active = some i ∨ landingWindow ≤ saturatingDurationSince now parked.armedAt
    · rw [if_pos hmoot]
      cases result with
      | error e => rfl
      | ok fresh =>
        simp only [if_pos hmoot]
        rfl
    · rw [if_neg hmoot]
      cases result with
      | error e => rfl
      | ok fresh =>
        simp only [if_neg hmoot]
        cases hsession : fresh.session with
        | none => rfl
        | some session =>
          simp only [Option.bind_some]
          by_cases hover : isOvershoot (toPct session) = true
          · rw [if_pos hover, if_pos hover]
            rfl
          · rw [if_neg hover, if_neg hover]
            rfl

/-! ## The watch -/

section Watch

variable {d : Daemon} {i j x n t₀ pct t : ℕ} {result : Except Error Usage} {now : Nanos}

theorem noteLandingOvershoot_active :
    (d.noteLandingOvershoot i d.active result now).active = d.active :=
  congrArg Frame.active (d.noteLandingOvershoot_frame i d.active result now)

/-- A poll with this result leaves the watch armed. -/
def keepsWatch (d : Daemon) (i : ℕ) (result : Except Error Usage) (now : Nanos) (parked : ParkedLanding) :
    Bool :=
  decide (¬ (d.active = some i ∨ landingWindow ≤ saturatingDurationSince now parked.armedAt)) &&
    match result with
    | .error _ => true
    | .ok fresh => fresh.session.any (fun session => !isOvershoot (toPct session))

/-- A poll leaves the watch of the account as it is, or takes it away. -/
theorem noteLandingOvershoot_parked : ((d.noteLandingOvershoot i d.active result now).accounts i).parkedLanding =
    (d.accounts i).parkedLanding.filter (keepsWatch d i result now) := by
  have hclear : ∀ d' : Daemon, ((d'.clearParkedLanding i).accounts i).parkedLanding = none := by
    intro d'
    unfold Daemon.clearParkedLanding
    rw [Daemon.setAccount_self]
  unfold Daemon.noteLandingOvershoot
  cases hparked : (d.accounts i).parkedLanding with
  | none => exact hparked
  | some parked =>
    dsimp only
    rw [Option.filter_some]
    unfold keepsWatch
    by_cases hmoot : d.active = some i ∨ landingWindow ≤ saturatingDurationSince now parked.armedAt
    · rw [if_pos hmoot, hclear, decide_eq_false (not_not_intro hmoot)]
      rfl
    · rw [if_neg hmoot, decide_eq_true hmoot, Bool.true_and]
      cases result with
      | error e => exact hparked
      | ok fresh =>
        cases hsession : fresh.session with
        | none =>
          simp only [hsession]
          rw [hclear]
          rfl
        | some session =>
          simp only [hsession]
          by_cases hover : isOvershoot (toPct session) = true
          · simp only [if_pos hover]
            rw [hclear]
            simp [hover]
          · simp only [if_neg hover]
            simp [hparked, hover]

theorem landingRecord_isSome : (landingRecord d i result now).isSome = true ↔
    ∃ parked usage session, (d.accounts i).parkedLanding = some parked ∧ result = .ok usage ∧
      usage.session = some session ∧ isOvershoot (toPct session) = true ∧
      ¬ (d.active = some i ∨ landingWindow ≤ saturatingDurationSince now parked.armedAt) := by
  unfold landingRecord
  cases hparked : (d.accounts i).parkedLanding with
  | none => simp
  | some parked =>
    cases result with
    | error e => simp
    | ok fresh =>
      dsimp only
      by_cases hmoot : d.active = some i ∨ landingWindow ≤ saturatingDurationSince now parked.armedAt
      · rw [if_pos hmoot]
        constructor
        · intro h
          cases h
        · rintro ⟨parked', usage, session, heq, -, -, -, hnot⟩
          cases heq
          exact absurd hmoot hnot
      · rw [if_neg hmoot]
        cases hsession : fresh.session with
        | none => simp [hsession]
        | some session =>
          rw [Option.bind_some]
          by_cases hover : isOvershoot (toPct session) = true
          · rw [if_pos hover]
            exact ⟨fun _ => ⟨parked, fresh, session, rfl, rfl, hsession, hover, hmoot⟩, fun _ => rfl⟩
          · rw [if_neg hover]
            constructor
            · intro h
              cases h
            · rintro ⟨parked', usage, session', -, heq, hsession', hover', -⟩
              cases heq
              cases hsession.symm.trans hsession'
              exact absurd hover' hover

theorem landingWindow_le {t₀ t : ℕ} :
    landingWindow ≤ saturatingDurationSince (secs t) (secs t₀) ↔ t₀ + 900 ≤ t := by
  unfold landingWindow saturatingDurationSince secs Nanos
  omega

end Watch

/-- The answer puts an end to a watch that is armed at `t₀`. -/
def Happening.Ends (x t₀ : ℕ) (l : Happening) : Prop :=
  l.Vanishes x ∨ l.Overshoots x ∨ ∃ answer retried t, l = .polled x answer retried t ∧ t₀ + 900 ≤ t

/-- After these the watch of a swap away from the account at `t₀` takes the answer for an overshoot. -/
def WatchReads (x t₀ : ℕ) (pre : List Happening) (l : Happening) : Prop :=
  l.Overshoots x ∧ l.time < t₀ + 900 ∧ ∀ m ∈ pre, ¬ m.Revives x ∧ ¬ m.Vanishes x

/-- Some happening, after those before it. -/
def Somewhere (P : List Happening → Happening → Prop) (tr : List Happening) : Prop :=
  ∃ pre l post, tr = pre ++ l :: post ∧ P pre l

theorem somewhere_nil {P : List Happening → Happening → Prop} : ¬ Somewhere P [] := by
  rintro ⟨pre, l, post, h, -⟩
  simp at h

theorem somewhere_append {P : List Happening → Happening → Prop} {tr : List Happening} {m : Happening} :
    Somewhere P (tr ++ [m]) ↔ Somewhere P tr ∨ P tr m := by
  constructor
  · rintro ⟨pre, l, post, h, hP⟩
    induction post using List.reverseRecOn with
    | nil =>
      obtain ⟨rfl, hm⟩ := List.append_inj' h rfl
      cases hm
      exact .inr hP
    | append_singleton post last _ =>
      rw [← List.cons_append, ← List.append_assoc] at h
      obtain ⟨rfl, -⟩ := List.append_inj' h rfl
      exact .inl ⟨pre, l, post, rfl, hP⟩
  · rintro (⟨pre, l, post, rfl, hP⟩ | hP)
    · exact ⟨pre, l, post ++ [m], by simp, hP⟩
    · exact ⟨tr, m, [], rfl, hP⟩

/-- The invariant of the watch that the `n`-th swap has armed on the account `x` at `t₀`. -/
structure Watched (x n t₀ pct : ℕ) (after : List Happening) (s : Watching) : Prop where
  earlier : n < s.swaps
  alone : ∀ j, (s.daemon.accounts j).parkedLanding ≠ none → s.armer j = some n → j = x
  revived : (∃ l ∈ after, l.Revives x) → (s.daemon.accounts x).parkedLanding ≠ none →
    s.armer x ≠ some n
  parked : (∀ l ∈ after, ¬ l.Revives x) → s.daemon.active ≠ some x ∧
    ((∀ l ∈ after, ¬ l.Ends x t₀) →
      (s.daemon.accounts x).parkedLanding = some ⟨secs t₀, pct⟩ ∧ s.armer x = some n) ∧
    ((∃ l ∈ after, l.Ends x t₀) → (s.daemon.accounts x).parkedLanding = none)
  once : Somewhere (WatchReads x t₀) after → s.records.count n = 1
  never : ¬ Somewhere (WatchReads x t₀) after → s.records.count n = 0

section Steps

variable {x n t₀ pct : ℕ} {after : List Happening} {s s' : Watching}

/-- A swap arms the watch of the account it leaves, and takes away that of the account it goes to. -/
theorem afterSwap_parked (reason : Option SwapReason) (source : Option ℕ) (target decisionPct t j : ℕ) :
    afterSwapArmer s reason source j = some s.swaps ∧ reason = some .session ∧ source = some j ∨
    ((afterSwap s.daemon reason source target decisionPct t).accounts j).parkedLanding =
      (if j = target then none else (s.daemon.accounts j).parkedLanding) ∧
    afterSwapArmer s reason source j = s.armer j := by
  have haccounts : (s.daemon.swapRecorded target (secs t)).accounts = Function.update s.daemon.accounts
      target { s.daemon.accounts target with parkedLanding := none } := rfl
  have hrecorded : ((s.daemon.swapRecorded target (secs t)).accounts j).parkedLanding =
      (if j = target then none else (s.daemon.accounts j).parkedLanding) := by
    rw [haccounts]
    by_cases hj : j = target
    · rw [if_pos hj, hj, Function.update_self]
    · rw [if_neg hj, Function.update_of_ne hj]
  unfold afterSwap afterSwapArmer
  split
  · next y =>
    by_cases hj : j = y
    · left
      rw [hj, Function.update_self]
      exact ⟨rfl, rfl, rfl⟩
    · right
      rw [Daemon.setAccount_of_ne _ y hj, Function.update_of_ne hj]
      exact ⟨hrecorded, rfl⟩
  · exact .inr ⟨hrecorded, rfl⟩

theorem afterSwap_active (d : Daemon) (reason : Option SwapReason) (source : Option ℕ)
    (target decisionPct t : ℕ) : (afterSwap d reason source target decisionPct t).active = some target := by
  unfold afterSwap
  split <;> rfl

theorem Watched.elsewhere {d' : Daemon} {t : ℕ} (h : Watched x n t₀ pct after s)
    (hactive : d'.active = s.daemon.active)
    (hparked : ∀ i, (d'.accounts i).parkedLanding = (s.daemon.accounts i).parkedLanding) :
    Watched x n t₀ pct (after ++ [.elsewhere t]) { s with daemon := d' } := by
  have hmem : ∀ P : Happening → Prop, ¬ P (.elsewhere t) →
      ((∃ l ∈ after ++ [.elsewhere t], P l) ↔ ∃ l ∈ after, P l) := by
    intro P hP
    simp [or_and_right, exists_or, hP]
  have hall : ∀ P : Happening → Prop, (∀ l ∈ after ++ [.elsewhere t], ¬ P l) → ∀ l ∈ after, ¬ P l :=
    fun P hP l hl => hP l (List.mem_append_left _ hl)
  have hends : ¬ (Happening.elsewhere t).Ends x t₀ := by
    rintro (h | h | ⟨answer, retried, t', h, -⟩)
    · exact h
    · exact h
    · cases h
  have hreads : Somewhere (WatchReads x t₀) (after ++ [.elsewhere t]) ↔
      Somewhere (WatchReads x t₀) after := by
    rw [somewhere_append]
    exact or_iff_left (fun h => h.1)
  refine ⟨h.earlier, ?_, ?_, ?_, ?_, ?_⟩
  · intro j hj
    exact h.alone j (by rwa [hparked] at hj)
  · intro hrevived hj
    exact h.revived ((hmem (·.Revives x) id).mp hrevived) (by rwa [hparked] at hj)
  · intro hrevived
    obtain ⟨hnot, hopen, hclosed⟩ := h.parked (hall _ hrevived)
    refine ⟨by rwa [hactive], ?_, ?_⟩
    · intro hopen'
      rw [hparked]
      exact hopen (hall _ hopen')
    · intro hclosed'
      rw [hparked]
      exact hclosed ((hmem (·.Ends x t₀) hends).mp hclosed')
  · rw [hreads]
    exact h.once
  · rw [hreads]
    exact h.never

theorem Watched.swapped {reason : Option SwapReason} {source : Option ℕ} {target decisionPct t : ℕ}
    {held : Bool} (h : Watched x n t₀ pct after s) (hsource : s.daemon.active = source) :
    Watched x n t₀ pct (after ++ [.swapped reason source target decisionPct held t])
      { s with
        daemon := afterSwap s.daemon reason source target decisionPct t
        swaps := s.swaps + 1
        armer := afterSwapArmer s reason source } := by
  have hnew := afterSwap_parked (s := s) reason source target decisionPct t
  have hends : ¬ (Happening.swapped reason source target decisionPct held t).Ends x t₀ := by
    rintro (h | h | ⟨answer, retried, t', h, -⟩)
    · exact h
    · exact h
    · cases h
  have hreads : Somewhere (WatchReads x t₀) (after ++ [.swapped reason source target decisionPct held t]) ↔
      Somewhere (WatchReads x t₀) after := by
    rw [somewhere_append]
    exact or_iff_left (fun h => h.1)
  have hn : n < s.swaps := h.earlier
  refine ⟨Nat.lt_succ_of_lt hn, ?_, ?_, ?_, ?_, ?_⟩
  · intro j hj harmer
    rcases hnew j with ⟨hself, -⟩ | ⟨hparked, hkept⟩
    · have heq : some s.swaps = some n := hself.symm.trans harmer
      cases heq
      omega
    · rw [hparked] at hj
      by_cases hjt : j = target
      · exact absurd (if_pos hjt) hj
      · rw [if_neg hjt] at hj
        exact h.alone j hj (hkept.symm.trans harmer)
  · intro hrevived hx harmer
    rcases hnew x with ⟨hself, -⟩ | ⟨hparked, hkept⟩
    · have heq : some s.swaps = some n := hself.symm.trans harmer
      cases heq
      omega
    · rw [hparked] at hx
      by_cases hxt : x = target
      · exact hx (if_pos hxt)
      · rw [if_neg hxt] at hx
        refine h.revived ?_ hx (hkept.symm.trans harmer)
        obtain ⟨l, hl, hlrevives⟩ := hrevived
        rcases List.mem_append.mp hl with hl | hl
        · exact ⟨l, hl, hlrevives⟩
        · rw [List.mem_singleton.mp hl] at hlrevives
          exact absurd hlrevives.symm hxt
  · intro hrevived
    have hxt : ¬ x = target := by
      intro heq
      exact hrevived (.swapped reason source target decisionPct held t) (by simp) heq.symm
    obtain ⟨hnot, hopen, hclosed⟩ := h.parked (fun l hl => hrevived l (List.mem_append_left _ hl))
    have hkept : ((afterSwap s.daemon reason source target decisionPct t).accounts x).parkedLanding =
        (s.daemon.accounts x).parkedLanding ∧ afterSwapArmer s reason source x = s.armer x := by
      rcases hnew x with ⟨-, -, hx⟩ | ⟨hparked, hkept⟩
      · exact absurd (hsource.trans hx) hnot
      · exact ⟨hparked.trans (if_neg hxt), hkept⟩
    refine ⟨?_, ?_, ?_⟩
    · rw [afterSwap_active]
      exact fun heq => hxt (Option.some.inj heq).symm
    · intro hopen'
      have hwas := hopen (fun l hl => hopen' l (List.mem_append_left _ hl))
      exact ⟨hkept.1.trans hwas.1, hkept.2.trans hwas.2⟩
    · rintro ⟨l, hl, hlends⟩
      rw [hkept.1]
      rcases List.mem_append.mp hl with hl | hl
      · exact hclosed ⟨l, hl, hlends⟩
      · rw [List.mem_singleton.mp hl] at hlends
        exact absurd hlends hends
  · rw [hreads]
    exact h.once
  · rw [hreads]
    exact h.never

theorem keepsWatch_iff {d : Daemon} {t : ℕ} {answer : Except Error PolledReading} {retried : Option Usage}
    (hactive : d.active ≠ some x) :
    keepsWatch d x (Happening.result answer retried) (secs t) ⟨secs t₀, pct⟩ = true ↔
      ¬ (Happening.polled x answer retried t).Ends x t₀ := by
  have hlate : (∃ answer' retried' t', Happening.polled x answer retried t = .polled x answer' retried' t' ∧
      t₀ + 900 ≤ t') ↔ t₀ + 900 ≤ t := by
    constructor
    · rintro ⟨answer', retried', t', heq, h⟩
      cases heq
      exact h
    · intro h
      exact ⟨answer, retried, t, rfl, h⟩
  have hmoot : ¬ (d.active = some x ∨
      landingWindow ≤ saturatingDurationSince (secs t) (secs t₀)) ↔ ¬ t₀ + 900 ≤ t := by
    rw [landingWindow_le]
    exact not_congr (or_iff_right hactive)
  unfold keepsWatch Happening.Ends
  rw [Bool.and_eq_true, decide_eq_true_iff, hmoot, hlate]
  unfold Happening.Vanishes Happening.Overshoots
  cases hresult : Happening.result answer retried with
  | error e => simp [hresult]
  | ok usage =>
    cases hsession : usage.session with
    | none => simp [hresult, hsession]
    | some session =>
      simp only [hresult, Except.ok.injEq, hsession, Option.any_some]
      constructor
      · rintro ⟨hearly, hunder⟩ (⟨-, _, rfl, hnone⟩ | ⟨-, _, _, rfl, hsome, hover⟩ | hlate)
        · cases hsession.symm.trans hnone
        · cases hsession.symm.trans hsome
          rw [hover] at hunder
          cases hunder
        · exact hearly hlate
      · intro hnot
        refine ⟨fun hlate => hnot (.inr (.inr hlate)), ?_⟩
        by_contra hover
        refine hnot (.inr (.inl ⟨trivial, usage, session, rfl, hsession, ?_⟩))
        simpa using hover

theorem landingRecord_iff {d : Daemon} {t : ℕ} {answer : Except Error PolledReading} {retried : Option Usage}
    (hactive : d.active ≠ some x) (hparked : (d.accounts x).parkedLanding = some ⟨secs t₀, pct⟩) :
    (landingRecord d x (Happening.result answer retried) (secs t)).isSome = true ↔
      (Happening.polled x answer retried t).Overshoots x ∧ t < t₀ + 900 := by
  rw [landingRecord_isSome]
  constructor
  · rintro ⟨parked, usage, session, hp, hresult, hsession, hover, hmoot⟩
    cases hparked.symm.trans hp
    refine ⟨⟨rfl, usage, session, hresult, hsession, hover⟩, ?_⟩
    by_contra hlate
    exact hmoot (.inr (landingWindow_le.mpr (by omega)))
  · rintro ⟨⟨-, usage, session, hresult, hsession, hover⟩, hlt⟩
    refine ⟨_, usage, session, hparked, hresult, hsession, hover, ?_⟩
    rintro (h | h)
    · exact hactive h
    · have hle := landingWindow_le.mp h
      omega

/-- A poll records an overshoot of the swap exactly if its watch reads one. -/
theorem Watched.counted {t : ℕ} (h : Watched x n t₀ pct after s) (i : ℕ)
    (answer : Except Error PolledReading) (retried : Option Usage) (horder : ∀ l ∈ after, l.time ≤ t) :
    (Somewhere (WatchReads x t₀) (after ++ [.polled i answer retried t]) →
      (s.records ++ if (landingRecord s.daemon i (Happening.result answer retried) (secs t)).isSome then
        (s.armer i).toList else []).count n = 1) ∧
    (¬ Somewhere (WatchReads x t₀) (after ++ [.polled i answer retried t]) →
      (s.records ++ if (landingRecord s.daemon i (Happening.result answer retried) (secs t)).isSome then
        (s.armer i).toList else []).count n = 0) := by
  rw [List.count_append, somewhere_append]
  by_cases hfires : (landingRecord s.daemon i (Happening.result answer retried) (secs t)).isSome = true ∧
      s.armer i = some n
  · obtain ⟨hrecord, harmer⟩ := hfires
    obtain ⟨parked, -, -, hparked, -⟩ := landingRecord_isSome.mp hrecord
    have hne : (s.daemon.accounts i).parkedLanding ≠ none := by
      rw [hparked]
      simp
    obtain rfl : i = x := h.alone i hne harmer
    have hrevived : ∀ l ∈ after, ¬ l.Revives i := by
      intro l hl hlrevives
      exact h.revived ⟨l, hl, hlrevives⟩ hne harmer
    obtain ⟨hnot, hopen, hclosed⟩ := h.parked hrevived
    have hopened : ∀ l ∈ after, ¬ l.Ends i t₀ := by
      intro l hl hlends
      exact hne (hclosed ⟨l, hl, hlends⟩)
    obtain ⟨hover, hlt⟩ := (landingRecord_iff hnot (hopen hopened).1).mp hrecord
    have hreads : WatchReads i t₀ after (.polled i answer retried t) :=
      ⟨hover, hlt, fun m hm => ⟨hrevived m hm, fun hv => hopened m hm (.inl hv)⟩⟩
    have hfirst : ¬ Somewhere (WatchReads i t₀) after := by
      rintro ⟨pre, l, post, rfl, hl, -⟩
      exact hopened l (by simp) (.inr (.inl hl))
    rw [h.never hfirst, if_pos hrecord, harmer]
    exact ⟨fun _ => by simp, fun hnone => absurd (.inr hreads) hnone⟩
  · have hsilent : List.count n (if (landingRecord s.daemon i (Happening.result answer retried)
        (secs t)).isSome then (s.armer i).toList else []) = 0 := by
      by_cases hrecord : (landingRecord s.daemon i (Happening.result answer retried) (secs t)).isSome = true
      · rw [if_pos hrecord]
        cases harmer : s.armer i with
        | none => simp
        | some m =>
          have hm : m ≠ n := by
            rintro rfl
            exact hfires ⟨hrecord, harmer⟩
          simp [hm]
      · rw [if_neg hrecord]
        rfl
    have hearlier : WatchReads x t₀ after (.polled i answer retried t) →
        Somewhere (WatchReads x t₀) after := by
      rintro ⟨hover, hlt, hbefore⟩
      obtain rfl : i = x := hover.1
      obtain ⟨hnot, hopen, -⟩ := h.parked (fun l hl => (hbefore l hl).1)
      have hended : ¬ ∀ l ∈ after, ¬ l.Ends i t₀ := by
        intro hopened
        have hwas := hopen hopened
        exact hfires ⟨(landingRecord_iff hnot hwas.1).mpr ⟨hover, hlt⟩, hwas.2⟩
      push Not at hended
      obtain ⟨l, hl, hlends⟩ := hended
      have hle := horder l hl
      rcases hlends with hv | ho | ⟨answer', retried', t', rfl, hlate⟩
      · exact absurd hv (hbefore l hl).2
      · obtain ⟨pre, post, rfl⟩ := List.append_of_mem hl
        change t < t₀ + 900 at hlt
        exact ⟨pre, l, post, rfl, ho, by omega, fun m hm => hbefore m (List.mem_append_left _ hm)⟩
      · change t' ≤ t at hle
        change t < t₀ + 900 at hlt
        omega
    rw [hsilent, Nat.add_zero]
    exact ⟨fun hsome => h.once (hsome.elim id hearlier), fun hnone => h.never (fun hs => hnone (.inl hs))⟩

theorem Watched.polled {i t : ℕ} {answer : Except Error PolledReading} {retried : Option Usage}
    (h : Watched x n t₀ pct after s) (horder : ∀ l ∈ after, l.time ≤ t) :
    Watched x n t₀ pct (after ++ [.polled i answer retried t])
      { s with
        daemon := s.daemon.noteLandingOvershoot i s.daemon.active (Happening.result answer retried) (secs t)
        records := s.records ++
          if (landingRecord s.daemon i (Happening.result answer retried) (secs t)).isSome then
            (s.armer i).toList else [] } := by
  have hrevives : ∀ Q : Prop, (∃ l ∈ after ++ [.polled i answer retried t], l.Revives x) →
      ((∃ l ∈ after, l.Revives x) → Q) → Q := by
    rintro Q ⟨l, hl, hlrevives⟩ hQ
    rcases List.mem_append.mp hl with hl | hl
    · exact hQ ⟨l, hl, hlrevives⟩
    · rw [List.mem_singleton.mp hl] at hlrevives
      exact absurd hlrevives id
  have hparked : ∀ j, ((s.daemon.noteLandingOvershoot i s.daemon.active
      (Happening.result answer retried) (secs t)).accounts j).parkedLanding =
        if j = i then (s.daemon.accounts i).parkedLanding.filter
          (keepsWatch s.daemon i (Happening.result answer retried) (secs t))
        else (s.daemon.accounts j).parkedLanding := by
    intro j
    by_cases hj : j = i
    · rw [if_pos hj, hj]
      exact noteLandingOvershoot_parked
    · rw [if_neg hj, noteLandingOvershoot_other _ hj]
  have hsome : ∀ j, ((s.daemon.noteLandingOvershoot i s.daemon.active
      (Happening.result answer retried) (secs t)).accounts j).parkedLanding ≠ none →
        (s.daemon.accounts j).parkedLanding ≠ none := by
    intro j hj hnone
    rw [hparked] at hj
    by_cases hji : j = i
    · rw [if_pos hji] at hj
      rw [hji] at hnone
      rw [hnone] at hj
      exact hj rfl
    · rw [if_neg hji] at hj
      exact hj hnone
  have hleft : ∀ P : Happening → Prop, (∀ l ∈ after ++ [.polled i answer retried t], ¬ P l) →
      ∀ l ∈ after, ¬ P l := fun P hP l hl => hP l (List.mem_append_left _ hl)
  have hcounted := h.counted i answer retried horder
  refine ⟨h.earlier, ?_, ?_, ?_, hcounted.1, hcounted.2⟩
  · intro j hj
    exact h.alone j (hsome j hj)
  · intro hrevived hx
    exact hrevives _ hrevived (fun hr => h.revived hr (hsome x hx))
  · intro hrevived
    obtain ⟨hnot, hopen, hclosed⟩ := h.parked (hleft _ hrevived)
    refine ⟨?_, ?_, ?_⟩
    · rw [noteLandingOvershoot_active]
      exact hnot
    · intro hopen'
      have hwas := hopen (hleft _ hopen')
      refine ⟨?_, hwas.2⟩
      rw [hparked]
      by_cases hx : x = i
      · subst hx
        rw [if_pos rfl, hwas.1, Option.filter_some]
        exact if_pos ((keepsWatch_iff hnot).mpr (hopen' _ (by simp)))
      · rw [if_neg hx]
        exact hwas.1
    · rintro ⟨l, hl, hlends⟩
      rw [hparked]
      by_cases hended : ∃ l ∈ after, l.Ends x t₀
      · have hnone := hclosed hended
        by_cases hx : x = i
        · subst hx
          rw [if_pos rfl, hnone]
          rfl
        · rw [if_neg hx]
          exact hnone
      · have hwas := hopen (fun l hl hlends => hended ⟨l, hl, hlends⟩)
        rcases List.mem_append.mp hl with hl | hl
        · exact absurd ⟨l, hl, hlends⟩ hended
        · rw [List.mem_singleton.mp hl] at hlends
          have hx : i = x := by
            rcases hlends with hv | ho | ⟨_, _, _, heq, -⟩
            · exact hv.1
            · exact ho.1
            · cases heq
              rfl
          subst hx
          rw [if_pos rfl, hwas.1, Option.filter_some]
          exact if_neg (fun hkeeps => (keepsWatch_iff hnot).mp hkeeps hlends)

end Steps

/-! ## The samples -/

theorem overshoot_rounded {limit : ℕ} (hlimit : landingSloCeilingPct ≤ limit) (v : ℚ) :
    landingSloCeilingPct ≤ min limit (if v < 0 then 0 else (v * 100 + 1 / 2).floor.toNat) ↔
      197 / 200 ≤ v := by
  rw [Nat.le_min, and_iff_right hlimit]
  by_cases hneg : v < 0
  · rw [if_pos hneg]
    constructor
    · intro h
      exact absurd h (by decide)
    · intro h
      linarith
  · rw [if_neg hneg]
    have hfloor : landingSloCeilingPct ≤ (v * 100 + 1 / 2).floor.toNat ↔
        (99 : Int) ≤ (v * 100 + 1 / 2).floor := by
      unfold landingSloCeilingPct
      omega
    rw [hfloor, Rat.le_floor_iff]
    constructor
    · intro h
      norm_num at h
      linarith
    · intro h
      norm_num
      linarith

theorem overshoot_toPct (v : ℚ) : isOvershoot (toPct v) = true ↔ 197 / 200 ≤ v := by
  unfold isOvershoot toPct
  rw [decide_eq_true_iff]
  exact overshoot_rounded (by decide) v

theorem overshoot_toLandingPct (v : ℚ) : isOvershoot (toLandingPct v) = true ↔ 197 / 200 ≤ v := by
  unfold isOvershoot toLandingPct
  rw [decide_eq_true_iff]
  exact overshoot_rounded (by decide) v

section Reconstruction

variable {samples : List Sample} {reactivations : List Reactivation} {swap : SwapOut}

theorem le_effectiveEnd {ts : Int} : ts ≤ effectiveEnd reactivations swap ↔
    ts ≤ swap.ts + landingWindowSecs ∧
      ∀ r ∈ reactivations, r.acct = swap.acct → swap.ts < r.ts → ts < r.ts := by
  unfold effectiveEnd
  dsimp only
  generalize hends : (reactivations.filter (fun si =>
    decide (si.acct = swap.acct) && decide (swap.ts < si.ts))).map (fun si => si.ts - 1) = ends
  have hmem : ∀ r ∈ reactivations, r.acct = swap.acct → swap.ts < r.ts → r.ts - 1 ∈ ends := by
    intro r hr hacct hts
    rw [← hends]
    exact List.mem_map.mpr ⟨r, List.mem_filter.mpr ⟨hr, by simp [hacct, hts]⟩, rfl⟩
  have hof : ∀ e ∈ ends, ∃ r ∈ reactivations, r.acct = swap.acct ∧ swap.ts < r.ts ∧ e = r.ts - 1 := by
    intro e he
    rw [← hends] at he
    obtain ⟨r, hr, rfl⟩ := List.mem_map.mp he
    obtain ⟨hr, hcond⟩ := List.mem_filter.mp hr
    simp only [Bool.and_eq_true, decide_eq_true_eq] at hcond
    exact ⟨r, hr, hcond.1, hcond.2, rfl⟩
  cases hmin : ends.min? with
  | none =>
    have hnil : ends = [] := List.min?_eq_none_iff.mp hmin
    dsimp only
    constructor
    · intro h
      refine ⟨h, ?_⟩
      intro r hr hacct hts
      have hin := hmem r hr hacct hts
      rw [hnil] at hin
      cases hin
    · exact fun h => h.1
  | some e =>
    obtain ⟨he, hle⟩ := List.min?_eq_some_iff.mp hmin
    dsimp only
    rw [le_min_iff]
    constructor
    · rintro ⟨hwindow, hlast⟩
      refine ⟨hwindow, ?_⟩
      intro r hr hacct hts
      have hge := hle _ (hmem r hr hacct hts)
      omega
    · rintro ⟨hwindow, hall⟩
      obtain ⟨r, hr, hacct, hts, rfl⟩ := hof e he
      have hlt := hall r hr hacct hts
      exact ⟨hwindow, by omega⟩

/-- The landing is an overshoot exactly if some sample in the window is one. -/
theorem landing_overshoot_iff :
    (∃ pct, landing samples reactivations swap = some pct ∧ isOvershoot pct = true) ↔
      ∃ s ∈ samples, s.acct = swap.acct ∧ swap.ts < s.ts ∧ s.ts ≤ effectiveEnd reactivations swap ∧
        ∃ v, s.session = some v ∧ isOvershoot (toLandingPct v) = true := by
  unfold landing peakSession
  constructor
  · rintro ⟨pct, hpct, hover⟩
    obtain ⟨peak, hpeak, rfl⟩ := Option.map_eq_some_iff.mp hpct
    have hmem := (List.max?_eq_some_iff.mp hpeak).1
    obtain ⟨s, hs, hsession⟩ := List.mem_filterMap.mp hmem
    obtain ⟨hs, hcond⟩ := List.mem_filter.mp hs
    simp only [Bool.and_eq_true, decide_eq_true_eq] at hcond
    exact ⟨s, hs, hcond.1, hcond.2.1, hcond.2.2, peak, hsession, hover⟩
  · rintro ⟨s, hs, hacct, hafter, hend, v, hsession, hover⟩
    have hmem : v ∈ (samples.filter (fun s => decide (s.acct = swap.acct) &&
        (decide (swap.ts < s.ts) && decide (s.ts ≤ effectiveEnd reactivations swap)))).filterMap
          (·.session) := by
      apply List.mem_filterMap.mpr
      exact ⟨s, List.mem_filter.mpr ⟨hs, by simp [hacct, hafter, hend]⟩, hsession⟩
    cases hmax : ((samples.filter (fun s => decide (s.acct = swap.acct) &&
        (decide (swap.ts < s.ts) && decide (s.ts ≤ effectiveEnd reactivations swap)))).filterMap
          (·.session)).max? with
    | none =>
      rw [List.max?_eq_none_iff.mp hmax] at hmem
      cases hmem
    | some peak =>
      have hle := (List.max?_eq_some_iff.mp hmax).2 v hmem
      refine ⟨_, rfl, ?_⟩
      rw [overshoot_toLandingPct] at hover ⊢
      exact hover.trans hle

end Reconstruction

/-- The fold measures every anchor that is no capacity hold and has a landing, in their order. -/
theorem foldLandings_measured (samples : List Sample) (reactivations : List Reactivation)
    (anchors : List SwapOut) : (foldLandings samples reactivations anchors).measured =
      anchors.filterMap (fun swap =>
        if swap.held then none
        else (landing samples reactivations swap).map (fun pct => (pct, swap.decisionPct))) := by
  have hfold : ∀ fold : LandingFold, (anchors.foldl (foldLanding samples reactivations) fold).measured =
      fold.measured ++ anchors.filterMap (fun swap =>
        if swap.held then none
        else (landing samples reactivations swap).map (fun pct => (pct, swap.decisionPct))) := by
    induction anchors with
    | nil => simp
    | cons swap anchors ih =>
      intro fold
      rw [List.foldl_cons, ih]
      unfold foldLanding
      by_cases hheld : swap.held = true
      · simp [hheld]
      · cases hlanding : landing samples reactivations swap with
        | none => simp [hheld, hlanding]
        | some pct => simp [hheld, hlanding]
  rw [foldLandings, hfold, List.nil_append]

/-! ## The two sides -/

namespace Happening

def isSwap : Happening → Bool
  | .swapped .. => true
  | _ => false

def Polls (x : ℕ) : Happening → Prop
  | .polled i _ _ _ => i = x
  | _ => False

end Happening

/-- The samples take the happening for an overshoot of the swap away from the account at `t₀`. -/
def SampleReads (label : ℕ → String) (x t₀ : ℕ) (tr : List Happening) (l : Happening) : Prop :=
  (∃ s v, l.sample? label = some s ∧ s.acct = label x ∧ s.session = some v ∧
    isOvershoot (toLandingPct v) = true) ∧ t₀ < l.time ∧ l.time ≤ t₀ + 900 ∧
  ∀ m ∈ tr, ∀ r, m.reactivation? label = some r → r.acct = label x → t₀ < m.time → l.time < m.time

/-- An overshoot for the watch and for the samples. -/
def PlainOvershoot (label : ℕ → String) (x t₀ : ℕ) (tr after : List Happening) : Prop :=
  Somewhere (fun pre l => WatchReads x t₀ pre l ∧ SampleReads label x t₀ tr l) after

/-- An overshoot for the watch alone: in the second of the swap, not before the second of the next
re-activation, or an answer that a retry got and that left no sample. -/
def WatchEdge (label : ℕ → String) (x t₀ : ℕ) (tr after : List Happening) : Prop :=
  Somewhere (fun pre l => WatchReads x t₀ pre l ∧ (l.time = t₀ ∨ l.sample? label = none ∨
    ∃ m ∈ tr, ∃ r, m.reactivation? label = some r ∧ r.acct = label x ∧ t₀ < m.time ∧ m.time ≤ l.time)) after

/-- An overshoot for the samples alone: at the very end of the window, after an answer without a session
window, after a re-activation in the second of the swap, or of another account of the same label. -/
def SampleEdge (label : ℕ → String) (x t₀ : ℕ) (tr after : List Happening) : Prop :=
  Somewhere (fun pre l => SampleReads label x t₀ tr l ∧ (l.time = t₀ + 900 ∨ ¬ l.Polls x ∨
    ∃ m ∈ pre, m.Vanishes x ∨ m.Revives x)) after

theorem somewhere_or {P Q R : List Happening → Happening → Prop} {tr : List Happening}
    (h : ∀ pre l post, tr = pre ++ l :: post → (P pre l ↔ Q pre l ∨ R pre l)) :
    Somewhere P tr ↔ Somewhere Q tr ∨ Somewhere R tr := by
  constructor
  · rintro ⟨pre, l, post, htr, hP⟩
    rcases (h pre l post htr).mp hP with hQ | hR
    · exact .inl ⟨pre, l, post, htr, hQ⟩
    · exact .inr ⟨pre, l, post, htr, hR⟩
  · rintro (⟨pre, l, post, htr, hQ⟩ | ⟨pre, l, post, htr, hR⟩)
    · exact ⟨pre, l, post, htr, (h pre l post htr).mpr (.inl hQ)⟩
    · exact ⟨pre, l, post, htr, (h pre l post htr).mpr (.inr hR)⟩

section Sides

variable {label : ℕ → String} {x t₀ : ℕ} {tr after pre : List Happening} {l : Happening}

/-- What the watch reads, the samples read, or it is one of the edges. -/
theorem watchReads_iff (hlater : t₀ ≤ l.time) : WatchReads x t₀ pre l ↔
    (WatchReads x t₀ pre l ∧ SampleReads label x t₀ tr l) ∨
    WatchReads x t₀ pre l ∧ (l.time = t₀ ∨ l.sample? label = none ∨
      ∃ m ∈ tr, ∃ r, m.reactivation? label = some r ∧ r.acct = label x ∧ t₀ < m.time ∧
        m.time ≤ l.time) := by
  constructor
  · intro hwatch
    by_cases hsample : SampleReads label x t₀ tr l
    · exact .inl ⟨hwatch, hsample⟩
    · refine .inr ⟨hwatch, ?_⟩
      by_contra hedge
      push Not at hedge
      obtain ⟨htime, hstored, hactive⟩ := hedge
      obtain ⟨hover, hlt, -⟩ := hwatch
      apply hsample
      refine ⟨?_, by omega, by omega, fun m hm r hr hacct hts => hactive m hm r hr hacct hts⟩
      cases l with
      | swapped reason source target decisionPct held t => exact absurd hover id
      | elsewhere t => exact absurd hover id
      | polled i answer retried t =>
        obtain ⟨rfl, usage, v, hresult, hsession, hpct⟩ := hover
        cases answer with
        | error e => exact absurd rfl hstored
        | ok reading =>
          cases hresult
          refine ⟨_, v, rfl, rfl, hsession, ?_⟩
          rw [overshoot_toLandingPct]
          exact (overshoot_toPct v).mp hpct
  · rintro (h | h)
    · exact h.1
    · exact h.1

/-- What the samples read, the watch reads, or it is one of the edges. -/
theorem sampleReads_iff : SampleReads label x t₀ tr l ↔
    (WatchReads x t₀ pre l ∧ SampleReads label x t₀ tr l) ∨
    SampleReads label x t₀ tr l ∧ (l.time = t₀ + 900 ∨ ¬ l.Polls x ∨
      ∃ m ∈ pre, m.Vanishes x ∨ m.Revives x) := by
  constructor
  · intro hsample
    by_cases hwatch : WatchReads x t₀ pre l
    · exact .inl ⟨hwatch, hsample⟩
    · refine .inr ⟨hsample, ?_⟩
      by_contra hedge
      push Not at hedge
      obtain ⟨htime, hpolls, hbefore⟩ := hedge
      obtain ⟨⟨s, v, hs, -, hsession, hover⟩, -, hle, -⟩ := hsample
      apply hwatch
      refine ⟨?_, by omega, fun m hm => ⟨(hbefore m hm).2, (hbefore m hm).1⟩⟩
      cases l with
      | swapped reason source target decisionPct held t => exact absurd hpolls id
      | elsewhere t => exact absurd hpolls id
      | polled i answer retried t =>
        cases answer with
        | error e => cases hs
        | ok reading =>
          cases hs
          refine ⟨hpolls, reading.usage, v, rfl, hsession, ?_⟩
          rw [overshoot_toPct]
          exact (overshoot_toLandingPct v).mp hover
  · rintro (h | h)
    · exact h.2
    · exact h.1

end Sides

/-! ## Runs -/

/-- The swaps of a run are numbered as they come. -/
structure Numbered (tr : List Happening) (s : Watching) : Prop where
  swaps : s.swaps = tr.countP Happening.isSwap
  armer : ∀ j m, s.armer j = some m → m < s.swaps
  records : ∀ m ∈ s.records, m < s.swaps

theorem runs_numbered {d : Daemon} {tr : List Happening} {s : Watching}
    (hr : Runs WatchStep { daemon := d } tr s) : Numbered tr s := by
  apply hr.invariant (I := Numbered)
  · exact ⟨rfl, by simp, by simp⟩
  · intro tr s l s' h hs
    cases hs with
    | polled i answer retried t =>
      refine ⟨?_, h.armer, ?_⟩
      · rw [List.countP_append, h.swaps]
        rfl
      · intro m hm
        rcases List.mem_append.mp hm with hm | hm
        · exact h.records m hm
        · split at hm
          · exact h.armer i m (Option.mem_toList.mp hm)
          · cases hm
    | swapped reason source target decisionPct held t hsource htarget =>
      refine ⟨?_, ?_, fun m hm => Nat.lt_succ_of_lt (h.records m hm)⟩
      · rw [List.countP_append, ← h.swaps]
        rfl
      · intro j m hm
        rcases afterSwap_parked (s := s) reason source target decisionPct t j with ⟨hself, -⟩ | ⟨-, hkept⟩
        · have heq : some s.swaps = some m := hself.symm.trans hm
          cases heq
          exact Nat.lt_succ_self _
        · exact Nat.lt_succ_of_lt (h.armer j m (hkept.symm.trans hm))
    | elsewhere t hactive hparked =>
      refine ⟨?_, h.armer, h.records⟩
      rw [List.countP_append, h.swaps]
      rfl

/-- A session swap arms the watch of the account it leaves. -/
theorem watched_swap {tr : List Happening} {s : Watching} {x target pct t₀ : ℕ} (h : Numbered tr s)
    (htarget : some x ≠ some target) : Watched x s.swaps t₀ pct []
      { s with
        daemon := afterSwap s.daemon (some .session) (some x) target pct t₀
        swaps := s.swaps + 1
        armer := afterSwapArmer s (some .session) (some x) } := by
  refine ⟨Nat.lt_succ_self _, ?_, by simp, ?_, fun hs => absurd hs somewhere_nil, ?_⟩
  · intro j _ harmer
    by_contra hj
    have hkept : afterSwapArmer s (some .session) (some x) j = s.armer j := Function.update_of_ne hj _ _
    exact Nat.lt_irrefl _ (h.armer j s.swaps (hkept.symm.trans harmer))
  · intro _
    refine ⟨?_, fun _ => ⟨?_, Function.update_self ..⟩, by simp⟩
    · rw [afterSwap_active]
      exact fun heq => htarget heq.symm
    · have haccounts : (afterSwap s.daemon (some .session) (some x) target pct t₀).accounts =
          Function.update (s.daemon.swapRecorded target (secs t₀)).accounts x
            { (s.daemon.swapRecorded target (secs t₀)).accounts x with
              parkedLanding := some ⟨secs t₀, pct⟩ } := rfl
      rw [haccounts, Function.update_self]
  · intro _
    apply List.count_eq_zero.mpr
    intro hm
    exact Nat.lt_irrefl _ (h.records _ hm)

theorem runs_watched {x n t₀ pct : ℕ} {s s' : Watching} {after : List Happening}
    (h : Watched x n t₀ pct [] s) (hr : Runs WatchStep s after s') (horder : InOrder after) :
    Watched x n t₀ pct after s' := by
  induction hr with
  | refl => exact h
  | @snoc tr s₁ s₂ l hr hs ih =>
    have hsplit := List.pairwise_append.mp horder
    have hwatched := ih hsplit.1
    cases hs with
    | polled i answer retried t =>
      exact hwatched.polled (fun m hm => hsplit.2.2 m hm _ (List.mem_singleton.mpr rfl))
    | swapped reason source target decisionPct held t hsource htarget => exact hwatched.swapped hsource
    | elsewhere t hactive hparked => exact hwatched.elsewhere hactive hparked

/-- The landing is an overshoot exactly if the samples read one somewhere in the run. -/
theorem landing_reads {label : ℕ → String} {tr : List Happening} {x t₀ : ℕ} {decisionPct : Option ℕ}
    {held : Bool} :
    (∃ pct, landing (tr.filterMap (·.sample? label)) (tr.filterMap (·.reactivation? label))
      ⟨t₀, label x, decisionPct, held⟩ = some pct ∧ isOvershoot pct = true) ↔
      ∃ l ∈ tr, SampleReads label x t₀ tr l := by
  have hsample : ∀ l s, Happening.sample? label l = some s → s.ts = (l.time : Int) := by
    intro l s hs
    cases l with
    | polled i answer retried t =>
      cases answer with
      | error e => cases hs
      | ok reading =>
        cases hs
        rfl
    | swapped reason source target decisionPct held t => cases hs
    | elsewhere t => cases hs
  have hreact : ∀ l r, Happening.reactivation? label l = some r → r.ts = (l.time : Int) := by
    intro l r hr
    cases l with
    | polled i answer retried t => cases hr
    | swapped reason source target decisionPct held t =>
      cases hr
      rfl
    | elsewhere t => cases hr
  rw [landing_overshoot_iff]
  constructor
  · rintro ⟨s, hs, hacct, hlater, hend, v, hsession, hover⟩
    obtain ⟨l, hl, hls⟩ := List.mem_filterMap.mp hs
    have hts := hsample l s hls
    rw [le_effectiveEnd] at hend
    obtain ⟨hwindow, hactive⟩ := hend
    unfold landingWindowSecs at hwindow
    dsimp only at hlater hwindow hactive
    refine ⟨l, hl, ⟨s, v, hls, hacct, hsession, hover⟩, by omega, by omega, ?_⟩
    intro m hm r hr hracct hmts
    have hrts := hreact m r hr
    have hlt := hactive r (List.mem_filterMap.mpr ⟨m, hm, hr⟩) hracct (by omega)
    omega
  · rintro ⟨l, hl, ⟨s, v, hls, hacct, hsession, hover⟩, hlater, hwindow, hactive⟩
    have hts := hsample l s hls
    refine ⟨s, List.mem_filterMap.mpr ⟨l, hl, hls⟩, hacct, ?_, ?_, v, hsession, hover⟩
    · dsimp only
      omega
    · rw [le_effectiveEnd]
      unfold landingWindowSecs
      dsimp only
      refine ⟨by omega, ?_⟩
      intro r hr hracct hrlater
      obtain ⟨m, hm, hmr⟩ := List.mem_filterMap.mp hr
      have hrts := hreact m r hmr
      have hlt := hactive m hm r hmr hracct (by omega)
      omega

/-- The daemon records at most one overshoot of a session swap. It records one exactly if the samples give
the swap a landing at the ceiling, if there is an overshoot for both, or edges for both or for neither. -/
theorem overshoot_recorded_iff (label : ℕ → String) {d : Daemon} {s : Watching}
    {before after : List Happening} {x target pct t₀ : ℕ} {held : Bool}
    (hr : Runs WatchStep { daemon := d }
      (before ++ .swapped (some .session) (some x) target pct held t₀ :: after) s)
    (horder : InOrder (before ++ .swapped (some .session) (some x) target pct held t₀ :: after)) :
    s.records.count (before.countP Happening.isSwap) ≤ 1 ∧
    ((before.countP Happening.isSwap ∈ s.records ↔ ∃ landingPct,
      landing
        ((before ++ .swapped (some .session) (some x) target pct held t₀ :: after).filterMap
          (·.sample? label))
        ((before ++ .swapped (some .session) (some x) target pct held t₀ :: after).filterMap
          (·.reactivation? label))
        ⟨t₀, label x, some pct, held⟩ = some landingPct ∧ isOvershoot landingPct = true) ↔
      PlainOvershoot label x t₀
        (before ++ .swapped (some .session) (some x) target pct held t₀ :: after) after ∨
      (WatchEdge label x t₀
        (before ++ .swapped (some .session) (some x) target pct held t₀ :: after) after ↔
      SampleEdge label x t₀
        (before ++ .swapped (some .session) (some x) target pct held t₀ :: after) after)) := by
  obtain ⟨s₁, hbefore, hrest⟩ := runs_append_iff.mp hr
  obtain ⟨s₂, hswap, hafter⟩ := runs_cons_iff.mp hrest
  have hnumbered := runs_numbered hbefore
  have hsplit := List.pairwise_append.mp horder
  have hlater := List.pairwise_cons.mp hsplit.2.1
  have hwatched : Watched x (before.countP Happening.isSwap) t₀ pct after s := by
    rw [← hnumbered.swaps]
    apply runs_watched _ hafter hlater.2
    cases hswap with
    | swapped _ _ _ _ _ _ hsource htarget => exact watched_swap hnumbered (htarget rfl)
  rw [landing_reads]
  generalize htr : before ++ .swapped (some .session) (some x) target pct held t₀ :: after = tr at hsplit
  have hcount : before.countP Happening.isSwap ∈ s.records ↔ Somewhere (WatchReads x t₀) after := by
    rw [← List.count_pos_iff]
    constructor
    · intro hpos
      by_contra hnone
      have hzero := hwatched.never hnone
      omega
    · intro hsome
      have hone := hwatched.once hsome
      omega
  have hstored : (∃ l ∈ tr, SampleReads label x t₀ tr l) ↔
      Somewhere (fun _ l => SampleReads label x t₀ tr l) after := by
    constructor
    · rintro ⟨l, hl, hreads⟩
      have hts := hreads.2.1
      rw [← htr] at hl
      rcases List.mem_append.mp hl with hl | hl
      · have hle := hsplit.2.2 l hl _ List.mem_cons_self
        change l.time ≤ t₀ at hle
        omega
      · rcases List.mem_cons.mp hl with rfl | hl
        · change t₀ < t₀ at hts
          omega
        · obtain ⟨pre, post, rfl⟩ := List.append_of_mem hl
          exact ⟨pre, l, post, rfl, hreads⟩
    · rintro ⟨pre, l, post, hsome, hreads⟩
      refine ⟨l, ?_, hreads⟩
      rw [← htr, hsome]
      simp
  have hwatch : Somewhere (WatchReads x t₀) after ↔
      PlainOvershoot label x t₀ tr after ∨ WatchEdge label x t₀ tr after := by
    apply somewhere_or
    intro pre l post hafter'
    apply watchReads_iff
    exact hlater.1 l (by rw [hafter']; simp)
  have hsample : Somewhere (fun _ l => SampleReads label x t₀ tr l) after ↔
      PlainOvershoot label x t₀ tr after ∨ SampleEdge label x t₀ tr after := by
    apply somewhere_or
    intro pre l post _
    exact sampleReads_iff
  refine ⟨?_, ?_⟩
  · by_cases hsome : Somewhere (WatchReads x t₀) after
    · exact (hwatched.once hsome).le
    · exact (hwatched.never hsome).le.trans (Nat.zero_le _)
  · rw [hcount, hstored, hwatch, hsample]
    tauto

/-- A session swap away from the first account, and an answer of it over the ceiling after `t` seconds. -/
def parkedAnswer (t : ℕ) : List Happening :=
  [.swapped (some .session) (some 0) 1 90 false 0,
    .polled 0 (.ok ⟨⟨some (99 / 100), none, none, none⟩, none⟩) none t]

def sampleLabel (i : ℕ) : String := (sampleDaemon.account i).label

theorem runs_parkedAnswer (t : ℕ) : ∃ s, Runs WatchStep { daemon := sampleDaemon } (parkedAnswer t) s ∧
    (900 ≤ t → s.records = []) := by
  have hswap := WatchStep.swapped (s := { daemon := sampleDaemon }) (some .session) (some 0) 1 90 false 0
    rfl (by decide)
  have hr := runs_cons_iff.mpr ⟨_, hswap, runs_single
    (WatchStep.polled 0 (.ok ⟨⟨some (99 / 100), none, none, none⟩, none⟩) none t)⟩
  refine ⟨_, hr, ?_⟩
  intro ht
  dsimp only
  rw [List.nil_append, if_neg]
  intro hrecord
  obtain ⟨parked, -, -, hparked, -, -, -, hmoot⟩ := landingRecord_isSome.mp hrecord
  have harmed : parked = ⟨secs 0, 90⟩ := by
    have hwas : ((afterSwap sampleDaemon (some .session) (some 0) 1 90 0).accounts 0).parkedLanding =
        some ⟨secs 0, 90⟩ := rfl
    exact (Option.some.inj (hwas.symm.trans hparked)).symm
  rw [harmed] at hmoot
  exact hmoot (.inr (landingWindow_le.mpr (by omega)))

theorem inOrder_parkedAnswer (t : ℕ) : InOrder (parkedAnswer t) := by
  simp [InOrder, parkedAnswer, Happening.time]

theorem overshoot_recorded_after_minute : ∃ s, Runs WatchStep { daemon := sampleDaemon } (parkedAnswer 60) s ∧
    s.records.count 0 ≤ 1 ∧ (0 ∈ s.records ↔ ∃ landingPct,
      landing ((parkedAnswer 60).filterMap (·.sample? sampleLabel))
        ((parkedAnswer 60).filterMap (·.reactivation? sampleLabel)) ⟨0, "A", some 90, false⟩ =
          some landingPct ∧ isOvershoot landingPct = true) := by
  obtain ⟨s, hr, -⟩ := runs_parkedAnswer 60
  obtain ⟨honce, hiff⟩ := @overshoot_recorded_iff sampleLabel _ s [] _ _ _ _ _ _ hr (inOrder_parkedAnswer 60)
  refine ⟨s, hr, honce, hiff.mpr (.inl ?_)⟩
  refine ⟨[], _, [], rfl, ⟨⟨rfl, _, 99 / 100, rfl, rfl, by decide +kernel⟩, by decide, by simp⟩, ?_⟩
  refine ⟨⟨_, 99 / 100, rfl, rfl, rfl, by decide +kernel⟩, by decide, by decide, ?_⟩
  intro m hm r hr hacct hlater
  rcases List.mem_cons.mp hm with rfl | hm
  · exact absurd hlater (by decide)
  · rw [List.mem_singleton.mp hm] at hr
    cases hr

/-- The daemon's watch ends before the last second of the window, in which the samples still count. -/
theorem window_edge_unrecorded : ∃ s, Runs WatchStep { daemon := sampleDaemon } (parkedAnswer 900) s ∧
    InOrder (parkedAnswer 900) ∧ 0 ∉ s.records ∧
    landing ((parkedAnswer 900).filterMap (·.sample? sampleLabel))
      ((parkedAnswer 900).filterMap (·.reactivation? sampleLabel)) ⟨0, "A", some 90, false⟩ = some 99 ∧
    isOvershoot 99 = true := by
  obtain ⟨s, hr, hrecords⟩ := runs_parkedAnswer 900
  refine ⟨s, hr, inOrder_parkedAnswer 900, ?_, ?_, rfl⟩
  · rw [hrecords le_rfl]
    simp
  · decide +kernel

end Sessiometer.Reliability
