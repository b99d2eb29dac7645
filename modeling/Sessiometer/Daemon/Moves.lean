import Sessiometer.Daemon.Latches
import Sessiometer.Daemon.Upkeep

/-! # What a turn can do to the latches

Said once: whatever a tick decides or a command does, the latches change by these moves only. -/

namespace Sessiometer

open Effects

def Daemon.designated (d : Daemon) (next : Option ℕ) (anchor : Option LastGood) : Daemon :=
  { d with active := next, lastGood := anchor }

inductive Phase where
  | observe
  | recover
  | decide
  | command
  | reload

/-- One change of the latches, and the part of the daemon that may make it. -/
inductive Move : Phase → Daemon → Daemon → Prop
  | idle {k : Phase} {d d' : Daemon} : d'.latches = d.latches → Move k d d'
  | redesignated {k : Phase} {d d' : Daemon} (next : Option ℕ) (anchor : Option LastGood) :
      (∀ i, next = some i → i < d.roster.length) →
      anchor = none ∨ d.active = none ∧ anchor = d.lastGood →
      d'.latches = ((d.designated next anchor).settleActive d.active).latches → Move k d d'
  | swapRecorded {k : Phase} {d : Daemon} {target : ℕ} (at' : Nanos) : target < d.roster.length →
      k = .command ∨ (d.accounts target).lastReading.isSome = true →
      Move k d (d.swapRecorded target at')
  | livenessNoted {d : Daemon} (state : CanonicalLiveness) :
      Move .observe d (d.noteCanonicalLiveness state d.active)
  | gapNoted {d : Daemon} {i : ℕ} (threshold now : Nanos) : i < d.roster.length →
      Move .observe d (d.noteObservationGapOf d.active threshold now i)
  | adoptWindowRolled {d : Daemon} (at' : Nanos) : Move .recover d (d.rollScrubAdoptWindow at')
  | adoptExhaustionNoted {d : Daemon} (active : Option ℕ) : scrubAdoptMax ≤ d.scrubAdoptCount →
      Move .recover d (d.noteScrubAdoptExhausted active)
  | adopted {d : Daemon} (target : ℕ) (at' : Nanos) : Move .recover d (d.scrubAdopted target at')
  | allExhaustedSignaled {d : Daemon} (hold : String) (cause : SwapReason)
      (resetsAt : Option Int) : d.signaledAllExhausted = false →
      Move .decide d { d.emit (.allExhausted hold cause resetsAt) with signaledAllExhausted := true }
  | activeDeadSignaled {d : Daemon} (hold : String) (cause : SwapReason) (resetsAt : Option Int) :
      d.signaledActiveDeadNoTarget = false →
      Move .decide d { d.emit (.activeDeadNoTarget hold cause resetsAt) with
        signaledActiveDeadNoTarget := true }
  | reloaded {d : Daemon} (newRoster : List Account) (intent : ReloadIntent) :
      Move .reload d (d.reconcileRoster newRoster intent)

abbrev Moves (k : Phase) : Daemon → Daemon → Prop := Relation.ReflTransGen (Move k)

/-- Whatever the program is told, it leaves a state that moves lead to. -/
def Makes {α : Type} (k : Phase) (d : Daemon) (p : Seam (α × Daemon)) : Prop :=
  Returns (fun r => Moves k d r.2) p

section Rules

variable {α β : Type} {k : Phase} {d d' : Daemon}

theorem moves_of_latches (h : d'.latches = d.latches) : Moves k d d' := .single (.idle h)

theorem Makes.after {p : Seam (α × Daemon)} (h : Moves k d d') (hp : Makes k d' p) : Makes k d p :=
  Returns.mono hp (fun _ hr => h.trans hr)

theorem makes_bind {m : DaemonM α} {f : α → DaemonM β} (hm : Makes k d (m.run d'))
    (hf : ∀ a e, Moves k d e → Makes k e ((f a).run e)) : Makes k d ((m >>= f).run d') := by
  unfold Makes
  rw [returns_state_bind]
  apply Returns.mono hm
  intro r hr
  exact (hf r.1 r.2 hr).after hr

theorem makes_idle_bind {m : DaemonM α} {f : α → DaemonM β} (hm : Idles m)
    (hf : ∀ a e, e.latches = d.latches → Makes k e ((f a).run e)) :
    Makes k d ((m >>= f).run d) := by
  unfold Makes
  rw [returns_state_bind]
  apply (hm d).mono
  intro r hr
  exact (hf r.1 r.2 hr).after (moves_of_latches hr)

theorem makes_idle_modify_bind {g : Daemon → Daemon} {f : PUnit → DaemonM β}
    (hg : ∀ s, (g s).latches = s.latches)
    (hf : ∀ e, e.latches = d.latches → Makes k e ((f ⟨⟩).run e)) :
    Makes k d ((modify g >>= f).run d) :=
  makes_idle_bind (idles_modify hg) (fun _ => hf)

theorem makes_get_bind {f : Daemon → DaemonM β} (hf : Makes k d ((f d').run d')) :
    Makes k d ((get >>= f).run d') := hf

theorem makes_modify_bind {g : Daemon → Daemon} {f : PUnit → DaemonM β}
    (hf : Makes k d ((f ⟨⟩).run (g d'))) : Makes k d ((modify g >>= f).run d') := hf

theorem makes_pure {a : α} (h : Moves k d d') : Makes k d ((pure a : DaemonM α).run d') := h

theorem makes_done {a : α} : Makes k d ((pure a : DaemonM α).run d) := .refl

theorem makes_modify {g : Daemon → Daemon} (h : Moves k d (g d')) :
    Makes k d ((modify g : DaemonM PUnit).run d') := h

theorem Idles.makes {m : DaemonM α} (h : Idles m) : Makes k d (m.run d) :=
  (h d).mono (fun _ hr => moves_of_latches hr)

end Rules

/-! ## Who is active -/

section Active

variable {d : Daemon}

theorem getElem?_of_rosterPosition {roster : List Account} {accountUuid : String} {i : ℕ}
    (h : rosterPosition roster accountUuid = some i) : i < roster.length :=
  (List.findIdx?_eq_some_iff_getElem.mp h).1

theorem returns_firstMatching (c : Credential) (skip : Option ℕ) (roster : List Account) (i : ℕ) :
    Returns (fun r => ∀ x, r = some x → x.1 < i + roster.length)
      (firstMatching c skip roster i) := by
  induction roster generalizing i with
  | nil =>
    intro x hx
    cases hx
  | cons account rest ih =>
    have hrest : Returns (fun r => ∀ x, r = some x → x.1 < i + (account :: rest).length)
        (firstMatching c skip rest (i + 1)) := by
      apply (ih (i + 1)).mono
      intro r hr x hx
      have hlt := hr x hx
      rw [List.length_cons]
      omega
    unfold firstMatching
    split
    · exact hrest
    · rw [returns_bind]
      apply returns_of_forall
      intro r
      cases r with
      | error e => exact hrest
      | ok stashed =>
        dsimp only
        split
        · intro x hx
          cases hx
          rw [List.length_cons]
          omega
        · exact hrest

theorem returns_resolveViaDisplay (roster : List Account) :
    Returns (fun r => ∀ i, r = some i → i < roster.length) (Active.resolveViaDisplay roster) := by
  unfold Active.resolveViaDisplay
  rw [returns_bind]
  apply returns_of_forall
  intro r
  cases r with
  | error e =>
    intro i hi
    cases hi
  | ok oauth => exact fun i hi => getElem?_of_rosterPosition hi

theorem returns_resolveAccountFor (roster : List Account) (c : Credential) :
    Returns (fun r => ∀ i, r = some i → i < roster.length)
      (Active.resolveAccountFor roster c) := by
  unfold Active.resolveAccountFor
  rw [returns_bind]
  apply (returns_firstMatching c none roster 0).mono
  intro r hr
  cases r with
  | none => exact returns_resolveViaDisplay roster
  | some x =>
    intro i hi
    cases hi
    have hlt := hr x rfl
    omega

/-- A resolution names an account of the roster, and changes nothing. -/
def Resolves (d : Daemon) (r : Option ℕ × Daemon) : Prop :=
  r.2 = d ∧ ∀ i, r.1 = some i → i < d.roster.length

theorem resolves_resolveAccountFor (c : Credential) :
    Returns (Resolves d) ((resolveAccountFor c).run d) := by
  unfold resolveAccountFor
  rw [returns_state_bind, returns_get, returns_state_lift]
  exact (returns_resolveAccountFor d.roster c).mono (fun r hr => ⟨rfl, hr⟩)

theorem resolves_resolveActive : Returns (Resolves d) (resolveActive.run d) := by
  unfold resolveActive
  rw [returns_state_bind, returns_get, returns_state_bind]
  refine returns_state_lift.mpr ?_
  apply returns_of_forall
  intro r
  cases r with
  | ok canonical => exact resolves_resolveAccountFor canonical
  | error e =>
    refine returns_state_lift.mpr ?_
    exact (returns_resolveViaDisplay d.roster).mono (fun r hr => ⟨rfl, hr⟩)

/-! ## Observing -/

theorem designated_latches {d' : Daemon} (h : d'.latches = d.latches) (next : Option ℕ)
    (anchor : Option LastGood) : (d'.designated next anchor).latches =
      (d.designated next anchor).latches :=
  congrArg (fun l => { l with active := next, lastGood := anchor }) h

theorem dropActive_latches {d' : Daemon} (h : d'.latches = d.latches) :
    d'.dropActive.latches = d.dropActive.latches := designated_latches h none none

variable [SerdeJson]

theorem restashed_latches (i : ℕ) (c : Credential) (nowSecs : Int) :
    (d.restashed i c nowSecs).latches = d.dropActive.latches := by
  unfold Daemon.restashed
  dsimp only
  apply dropActive_latches
  calc (Daemon.commitCanonical _ c).latches = (Daemon.deactivateRecoveryProbe _ _ _).latches := rfl
    _ = _ := Daemon.deactivateRecoveryProbe_latches _ _ _
    _ = _ := Daemon.liftQuarantine_latches _ i
    _ = _ := Daemon.noteRestashExpiry_latches _ i _ _ nowSecs
    _ = d.latches := d.emit_latches rfl

omit [SerdeJson] in
theorem uncaptured_latches (accountUuid : Option String) (c : Credential) :
    (d.uncaptured accountUuid c).latches = d.dropActive.latches := by
  unfold Daemon.uncaptured
  apply dropActive_latches
  exact d.emit_latches rfl

/-- The canonical item has changed, or not: the active account is dropped, or kept. -/
def KeptOrDropped (d : Daemon) (r : PUnit × Daemon) : Prop :=
  r.2.latches = d.latches ∨ r.2.latches = d.dropActive.latches

theorem returns_healChange (c : Credential) (resolved : Option ℕ) :
    Returns (KeptOrDropped d) ((healChange c resolved).run d) := by
  unfold healChange
  cases resolved with
  | none =>
    dsimp only
    rw [returns_state_bind]
    refine returns_state_lift.mpr ?_
    apply returns_of_forall
    intro displayed
    exact .inr (uncaptured_latches _ c)
  | some i =>
    dsimp only
    rw [returns_state_bind, returns_get, returns_state_bind]
    refine returns_state_lift.mpr ?_
    apply returns_of_forall
    intro wrote
    cases wrote with
    | false => exact .inl rfl
    | true =>
      rw [if_pos rfl, returns_state_bind]
      apply (idles_wallClockNowSecs d).mono
      intro r hr
      exact .inr ((restashed_latches i c r.1).trans (dropActive_latches hr))

theorem returns_reconcileIfRead (canonical : Option Credential) :
    Returns (KeptOrDropped d) ((reconcileIfRead canonical).run d) := by
  unfold reconcileIfRead
  cases canonical with
  | none => exact .inl rfl
  | some c =>
    unfold reconcileCanonicalChange
    rw [returns_state_bind, returns_get]
    cases d.canonicalWatch.classify c with
    | primed => exact .inl rfl
    | unchanged => exact .inl rfl
    | changed =>
      rw [returns_state_bind]
      apply (resolves_resolveAccountFor c).mono
      rintro ⟨resolved, d'⟩ ⟨rfl, -⟩
      exact returns_healChange c resolved

omit [SerdeJson] in
theorem returns_resolveUnknownActive (canonical : Option Credential) :
    Returns (fun r => r.2.latches = d.latches ∨ d.active = none ∧ ∃ next,
      (∀ i, next = some i → i < d.roster.length) ∧
        r.2.latches = (d.designated next d.lastGood).latches)
      ((resolveUnknownActive canonical).run d) := by
  unfold resolveUnknownActive
  rw [returns_state_bind, returns_get]
  cases hactive : d.active with
  | some i => exact .inl rfl
  | none =>
    cases canonical with
    | none =>
      dsimp only
      rw [returns_state_bind]
      apply (resolves_resolveActive (d := d)).mono
      rintro ⟨next, d'⟩ ⟨rfl, hnext⟩
      exact .inr ⟨rfl, next, hnext, rfl⟩
    | some c =>
      dsimp only
      rw [returns_state_bind]
      apply (resolves_resolveAccountFor (d := d) c).mono
      rintro ⟨next, d'⟩ ⟨rfl, hnext⟩
      exact .inr ⟨rfl, next, hnext, rfl⟩

omit [SerdeJson] in
theorem settleActive_latches {d' : Daemon} (h : d'.latches = d.latches) (activeBefore : Option ℕ) :
    (d'.settleActive activeBefore).latches = (d.settleActive activeBefore).latches := by
  unfold Daemon.settleActive
  rw [Daemon.active_of_latches h]
  split
  · exact congrArg (fun l => { l with pollSchedule := [], pollPos := 0 }) h
  · exact h

/-- By the end of a reconciliation the active account is the one before it, or another that the
schedule starts over with. -/
theorem makes_redesignate {α : Type} {k : Phase} (canonical : Option Credential)
    {rest : DaemonM α} (hrest : ∀ e, Moves k d e → Makes k e (rest.run e)) :
    Makes k d ((do
      reconcileIfRead canonical
      resolveUnknownActive canonical
      modify (·.settleActive d.active)
      rest : DaemonM α).run d) := by
  unfold Makes
  rw [returns_state_bind]
  apply (returns_reconcileIfRead canonical).mono
  rintro ⟨_, d₁⟩ h₁
  rw [returns_state_bind]
  apply (returns_resolveUnknownActive (d := d₁) canonical).mono
  rintro ⟨_, d₂⟩ h₂
  have hmove : Move k d (d₂.settleActive d.active) := by
    rcases h₁ with h₁ | h₁ <;> rcases h₂ with h₂ | ⟨hnone, next, hnext, h₂⟩
    · apply Move.idle
      rw [settleActive_latches (h₂.trans h₁)]
      unfold Daemon.settleActive
      rw [if_neg (fun h => h rfl)]
    · rw [Daemon.active_of_latches h₁] at hnone
      rw [Daemon.roster_of_latches h₁] at hnext
      refine .redesignated next d.lastGood hnext (.inr ⟨hnone, rfl⟩) ?_
      apply settleActive_latches
      rw [h₂, Daemon.lastGood_of_latches h₁]
      exact designated_latches h₁ _ _
    · refine .redesignated none none (fun _ h => by cases h) (.inl rfl) ?_
      exact settleActive_latches (h₂.trans h₁) _
    · rw [Daemon.roster_of_latches h₁] at hnext
      refine .redesignated next none hnext (.inl rfl) ?_
      apply settleActive_latches
      rw [h₂, Daemon.lastGood_of_latches h₁]
      exact designated_latches h₁ next none
  exact (hrest _ (.single hmove)).after (.single hmove)

end Active

/-! ## Deciding -/

/-- What a view reads is what the daemon has stored. -/
def Viewed (readings : ℕ → Option Usage) (d : Daemon) : Prop :=
  ∀ i u, readings i = some u → (d.accounts i).lastReading = some u

section Deciding

variable {k : Phase} {d : Daemon} {readings : ℕ → Option Usage}

theorem lastReading_of_latches {d' : Daemon} (h : d'.latches = d.latches) (i : ℕ) :
    (d'.accounts i).lastReading = (d.accounts i).lastReading :=
  congrArg Slot.lastReading (Daemon.slot_of_latches h i)

theorem Viewed.of_latches {d' : Daemon} (hv : Viewed readings d) (h : d'.latches = d.latches) :
    Viewed readings d' := by
  intro i u hu
  rw [lastReading_of_latches h]
  exact hv i u hu

/-- A target that a move of the tick may record. -/
def Recordable (d : Daemon) (target : ℕ) : Prop :=
  target < d.roster.length ∧ (d.accounts target).lastReading.isSome = true

theorem Recordable.of_latches {d' : Daemon} {target : ℕ} (hr : Recordable d target)
    (h : d'.latches = d.latches) : Recordable d' target := by
  unfold Recordable
  rw [Daemon.roster_of_latches h, lastReading_of_latches h]
  exact hr

theorem recordable_of_reason {i target : ℕ} {floor sessionCeiling : Option ℚ} {weeklyCeiling : ℚ}
    {reason : NextSwapReason} (hv : Viewed readings d)
    (h : pickTargetWithReasonRanked d.roster.length i readings d.enabledMask floor sessionCeiling
      weeklyCeiling d.selectionTiebreak = some (target, reason)) : Recordable d target := by
  obtain ⟨usage, hlt, hread, -⟩ := pickTarget_viable h
  refine ⟨hlt, ?_⟩
  rw [hv target usage hread]
  rfl

theorem recordable_of_pickRanked {i target : ℕ} {floor sessionCeiling : Option ℚ}
    {weeklyCeiling : ℚ} (hv : Viewed readings d)
    (h : d.pickRanked i readings floor sessionCeiling weeklyCeiling = some target) :
    Recordable d target := by
  unfold Daemon.pickRanked pickTargetRanked at h
  obtain ⟨⟨target', reason⟩, hp, rfl⟩ := Option.map_eq_some_iff.mp h
  exact recordable_of_reason hv hp

/-- A recorded swap only reads its stash again. -/
theorem returns_recordSwap (target : ℕ) (incoming : String) (at' : Nanos) :
    Returns (fun r => r.2.latches = (d.swapRecorded target at').latches)
      ((recordSwap target incoming at').run d) := by
  unfold recordSwap
  rw [returns_state_bind, returns_modify]
  refine (idles_attempt _).bind ?_ (d.swapRecorded target at')
  intro r
  cases r with
  | error e => exact idles_pure _
  | ok stashed => exact idles_modify (fun _ => rfl)

theorem makes_recordSwap_bind {α : Type} {target : ℕ} {incoming : String} {at' : Nanos}
    {f : PUnit → DaemonM α} (hlt : target < d.roster.length)
    (hread : k = .command ∨ (d.accounts target).lastReading.isSome = true)
    (hf : ∀ e, e.latches = (d.swapRecorded target at').latches → Makes k e ((f ⟨⟩).run e)) :
    Makes k d ((recordSwap target incoming at' >>= f).run d) := by
  have hmove : Moves k d (d.swapRecorded target at') := .single (.swapRecorded at' hlt hread)
  unfold Makes
  rw [returns_state_bind]
  apply (returns_recordSwap target incoming at').mono
  rintro ⟨_, e⟩ he
  exact (hf e he).after (hmove.trans (moves_of_latches he))

variable [SerdeJson] {at' : Nanos} {i : ℕ}

theorem makes_emergencySwap (hv : Viewed readings d) :
    Makes .decide d ((emergencySwap at' i readings).run d) := by
  unfold emergencySwap
  apply makes_get_bind
  apply makes_idle_bind (idles_draw _ _ _)
  intro drawn e he
  dsimp only
  cases hpick : d.pickRanked i readings none none (drawn / 100) with
  | none =>
    dsimp only
    split
    · next hsignaled =>
      have hsignaled' : e.signaledActiveDeadNoTarget = false := by
        rw [show e.signaledActiveDeadNoTarget = d.signaledActiveDeadNoTarget from
          congrArg Latches.signaledActiveDeadNoTarget he]
        exact eq_false_of_ne_true hsignaled
      exact makes_pure (.single (.activeDeadSignaled _ _ _ hsignaled'))
    · exact makes_done
  | some target =>
    have hr := (recordable_of_pickRanked hv hpick).of_latches he
    apply makes_idle_bind (idles_lockedSwap _ _ false)
    intro r e₁ he₁
    cases r with
    | error err => exact makes_done
    | ok report =>
      have hr₁ := hr.of_latches he₁
      apply makes_recordSwap_bind hr₁.1 (.inr hr₁.2)
      intro e₂ he₂
      exact makes_idle_bind (idles_emit rfl) (fun _ _ _ => makes_done)

theorem makes_velocitySwap (hv : Viewed readings d) (sessionCeiling weeklyThreshold : ℚ) :
    Makes .decide d ((velocitySwap at' i sessionCeiling weeklyThreshold readings).run d) := by
  unfold velocitySwap
  apply makes_get_bind
  dsimp only
  split
  · exact makes_done
  · split
    · split
      · exact makes_done
      · split
        · exact makes_done
        · split
          · exact makes_done
          · apply makes_idle_bind idles_drawCooldown
            intro cooldown e he
            split
            · exact makes_done
            · split
              · exact makes_done
              · next target hpick =>
                have hr := (recordable_of_pickRanked hv hpick).of_latches he
                apply makes_idle_bind (idles_lockedSwap _ _ false)
                intro r e₁ he₁
                cases r with
                | error err => exact makes_done
                | ok report =>
                  have hr₁ := hr.of_latches he₁
                  apply makes_recordSwap_bind hr₁.1 (.inr hr₁.2)
                  intro e₂ he₂
                  exact makes_idle_bind (idles_emit rfl) (fun _ _ _ => makes_done)
    · exact makes_done

theorem makes_reactiveSwap (hv : Viewed readings d) (activeUsage : Usage)
    (sessionCeiling weeklyCeiling : ℚ) :
    Makes .decide d
      ((reactiveSwap at' i activeUsage sessionCeiling weeklyCeiling readings).run d) := by
  unfold reactiveSwap
  apply makes_get_bind
  dsimp only
  split
  · exact makes_done
  · apply makes_idle_bind idles_drawCooldown
    intro cooldown e he
    split
    · exact makes_done
    · split
      · split
        · next hsignaled =>
          have hsignaled' : e.signaledAllExhausted = false := by
            rw [show e.signaledAllExhausted = d.signaledAllExhausted from
              congrArg Latches.signaledAllExhausted he]
            exact eq_false_of_ne_true hsignaled
          exact makes_pure (.single (.allExhaustedSignaled _ _ _ hsignaled'))
        · exact makes_done
      · next target hpick =>
        have hr := (recordable_of_pickRanked hv hpick).of_latches he
        apply makes_idle_bind (idles_lockedSwap _ _ false)
        intro r e₁ he₁
        cases r with
        | error err => exact makes_done
        | ok report =>
          have hr₁ := hr.of_latches he₁
          apply makes_recordSwap_bind hr₁.1 (.inr hr₁.2)
          intro e₂ he₂
          apply makes_idle_bind (idles_emit rfl)
          intro _ e₃ he₃
          split
          · exact makes_idle_modify_bind (fun s => s.setAccount_latches i (fun _ => rfl))
              (fun _ _ => makes_done)
          · exact makes_done

theorem makes_performBlindSwap {target : ℕ} (hr : Recordable d target) (anchor : LastGood)
    (retryAfter : Option Nanos) :
    Makes .decide d ((performBlindSwap at' i target anchor retryAfter).run d) := by
  unfold performBlindSwap
  apply makes_get_bind
  apply makes_idle_bind (idles_lockedSwap _ _ false)
  intro r e he
  cases r with
  | error err => exact makes_done
  | ok report =>
    have hr' := hr.of_latches he
    apply makes_recordSwap_bind hr'.1 (.inr hr'.2)
    intro e₁ he₁
    apply makes_idle_bind (idles_emit rfl)
    intro _ e₂ he₂
    refine makes_idle_modify_bind (fun _ => rfl) ?_
    intro e₃ he₃
    split
    · exact makes_idle_modify_bind (fun _ => rfl) (fun _ _ => makes_done)
    · exact makes_done

theorem makes_blindSwap (hv : Viewed readings d) :
    Makes .decide d ((blindSwap at' i readings).run d) := by
  unfold blindSwap
  apply makes_get_bind
  split
  · exact makes_done
  · split
    · exact makes_done
    · split
      · exact makes_done
      · apply makes_idle_bind idles_drawCooldown
        intro cooldown e he
        split
        · exact makes_done
        · apply makes_idle_bind (idles_walkBreaker _ _ _)
          intro walk e₁ he₁
          split
          · exact makes_done
          · split
            · exact makes_done
            · next target reason hpick =>
              apply makes_idle_bind (idles_reserveBreaker _ _ _ _)
              intro reserve e₂ he₂
              split
              · exact makes_done
              · have hr : Recordable d target := recordable_of_reason hv hpick
                exact makes_performBlindSwap (hr.of_latches (he₂.trans (he₁.trans he))) _ _

theorem makes_decideAction (hv : Viewed readings d) (active : Option ℕ) :
    Makes .decide d ((decideAction at' active readings).run d) := by
  unfold decideAction
  cases active with
  | none => exact makes_done
  | some i =>
    apply makes_get_bind
    split
    · split
      · exact makes_emergencySwap hv
      · exact makes_done
    · split
      · exact makes_blindSwap hv
      · refine makes_idle_modify_bind (fun _ => rfl) ?_
        intro e he
        apply makes_idle_bind (idles_drawDownward _ _ _)
        intro sessionPct e₁ he₁
        apply makes_idle_bind (idles_drawDownward _ _ _)
        intro weeklyPct e₂ he₂
        have hv₂ := hv.of_latches (he₂.trans (he₁.trans he))
        unfold decideReadable
        apply makes_get_bind
        dsimp only
        split
        · exact makes_velocitySwap hv₂ _ _
        · exact makes_reactiveSwap hv₂ _ _ _

/-- What recovering comes to at an instant: nothing, a rolled window and a held or an exhausted
budget, or a rolled window and an adopt within the budget. -/
inductive Recovered (at' : Nanos) (d : Daemon) : Daemon → Prop
  | unscrubbed : Recovered at' d d
  | exhausted (active : Option ℕ) : scrubAdoptMax ≤ (d.rollScrubAdoptWindow at').scrubAdoptCount →
      Recovered at' d ((d.rollScrubAdoptWindow at').noteScrubAdoptExhausted active)
  | held {d' : Daemon} : d'.latches = (d.rollScrubAdoptWindow at').latches → Recovered at' d d'
  | adopted {target : ℕ} {e e' : Daemon} :
      (d.rollScrubAdoptWindow at').scrubAdoptCount < scrubAdoptMax →
      e.latches = (d.rollScrubAdoptWindow at').latches → Recordable e target →
      e'.latches = (e.swapRecorded target at').latches →
      Recovered at' d (e'.scrubAdopted target at')

omit [SerdeJson] in
theorem Recovered.moves {d' : Daemon} (h : Recovered at' d d') : Moves .recover d d' := by
  have hrolled : Moves .recover d (d.rollScrubAdoptWindow at') := .single (.adoptWindowRolled at')
  cases h with
  | unscrubbed => exact .refl
  | exhausted active hmax => exact hrolled.trans (.single (.adoptExhaustionNoted active hmax))
  | held hd => exact hrolled.trans (moves_of_latches hd)
  | @adopted target e e' _ he hr he' =>
    have hrecorded : Moves .recover e (e.swapRecorded target at') :=
      .single (.swapRecorded at' hr.1 (.inr hr.2))
    have hadopted : Moves .recover e' (e'.scrubAdopted target at') := .single (.adopted target at')
    exact (((hrolled.trans (moves_of_latches he)).trans hrecorded).trans
      (moves_of_latches he')).trans hadopted

omit [SerdeJson] in
theorem returns_recoverScrubbedCanonical (hv : Viewed readings d) (active : Option ℕ) :
    Returns (fun r => Recovered at' d r.2)
      ((recoverScrubbedCanonical active readings at').run d) := by
  have hv' : Viewed readings (d.rollScrubAdoptWindow at') := by
    unfold Daemon.rollScrubAdoptWindow
    split
    · split
      · exact hv
      · exact hv
    · exact hv
  unfold recoverScrubbedCanonical
  rw [returns_state_bind, returns_modify, returns_state_bind, returns_get]
  split
  · next hmax => exact .exhausted active hmax
  · next hmax =>
    rw [returns_state_bind]
    apply (idles_draw _ _ _ (d.rollScrubAdoptWindow at')).mono
    rintro ⟨drawn, e⟩ he
    dsimp only at he ⊢
    split
    · exact .held he
    · next target hpick =>
      have hr := (recordable_of_pickRanked hv' hpick).of_latches he
      rw [returns_state_bind]
      apply (idles_lockedAdopt _ e).mono
      rintro ⟨r, e₁⟩ he₁
      have hrolled : e₁.latches = (d.rollScrubAdoptWindow at').latches := he₁.trans he
      cases r with
      | error err => exact .held hrolled
      | ok report =>
        dsimp only
        rw [returns_state_bind]
        apply (returns_recordSwap target _ at').mono
        rintro ⟨_, e₂⟩ he₂
        exact .adopted (not_le.mp hmax) hrolled (hr.of_latches he₁) he₂

omit [SerdeJson] in
theorem returns_recoverIfScrubbed {view : TickView} (hv : Viewed view.readings d) :
    Returns (fun r => Recovered view.at' d r.2) ((recoverIfScrubbed view).run d) := by
  unfold recoverIfScrubbed
  split
  · exact returns_recoverScrubbedCanonical hv _
  · exact .unscrubbed

omit [SerdeJson] in
theorem returns_recoverIfScrubbed_of_ne {view : TickView} (h : view.liveness ≠ .scrubbed) :
    Returns (fun r => r.1 = none ∧ r.2 = d) ((recoverIfScrubbed view).run d) := by
  unfold recoverIfScrubbed
  rw [if_neg h]
  exact ⟨rfl, rfl⟩

/-! ## The two terminal actions -/

/-- A terminal action leaves its episode open. -/
def Signals (r : TickAction × Daemon) : Prop :=
  (r.1 = .noViableTarget → r.2.signaledAllExhausted = true) ∧
    (r.1 = .activeDeadNoTarget → r.2.signaledActiveDeadNoTarget = true)

def TickAction.Terminal (a : TickAction) : Prop := a = .noViableTarget ∨ a = .activeDeadNoTarget

omit [SerdeJson] in
theorem signals_of_not {r : TickAction × Daemon} (h : ¬ r.1.Terminal) : Signals r :=
  ⟨fun h' => absurd (.inl h') h, fun h' => absurd (.inr h') h⟩

omit [SerdeJson] in
theorem unterminal_recoverIfScrubbed (view : TickView) :
    Yields (fun x => ∀ a, x = some a → ¬ a.Terminal) (recoverIfScrubbed view) := by
  have hnone : Yields (fun x => ∀ a : TickAction, x = some a → ¬ a.Terminal)
      (pure none : DaemonM (Option TickAction)) := yields_pure (fun a h => by cases h)
  unfold recoverIfScrubbed
  split
  · unfold recoverScrubbedCanonical
    apply yields_bind
    intro _
    apply yields_bind
    intro s
    split
    · exact yields_bind (fun _ => hnone)
    · apply yields_bind
      intro drawn
      split
      · exact hnone
      · apply yields_bind
        intro r
        cases r with
        | error e => exact hnone
        | ok report =>
          apply yields_bind
          intro _
          apply yields_bind
          intro _
          apply yields_pure
          rintro a ⟨⟩ (h | h)
          · cases h
          · cases h
  · exact hnone

theorem unterminal_velocitySwap (sessionCeiling weeklyThreshold : ℚ) :
    Yields (fun a => ¬ a.Terminal) (velocitySwap at' i sessionCeiling weeklyThreshold readings) := by
  have hpure : ∀ a : TickAction, ¬ a.Terminal → Yields (fun a => ¬ a.Terminal)
      (pure a : DaemonM TickAction) := fun a h => yields_pure h
  have hheld := hpure .held (by rintro (h | h) <;> cases h)
  unfold velocitySwap
  apply yields_bind
  intro s
  dsimp only
  split
  · exact hheld
  · split
    · split
      · exact hheld
      · split
        · exact hheld
        · split
          · exact hheld
          · apply yields_bind
            intro cooldown
            split
            · exact hpure _ (by rintro (h | h) <;> cases h)
            · split
              · exact hheld
              · apply yields_bind
                intro r
                cases r with
                | error e => exact hpure _ (by rintro (h | h) <;> cases h)
                | ok report =>
                  apply yields_bind
                  intro _
                  apply yields_bind
                  intro _
                  exact hpure _ (by rintro (h | h) <;> cases h)
    · exact hheld

theorem unterminal_blindSwap : Yields (fun a => ¬ a.Terminal) (blindSwap at' i readings) := by
  have hpure : ∀ a : TickAction, ¬ a.Terminal → Yields (fun a => ¬ a.Terminal)
      (pure a : DaemonM TickAction) := fun a h => yields_pure h
  have hskipped := hpure .skippedActiveUnavailable (by rintro (h | h) <;> cases h)
  unfold blindSwap
  apply yields_bind
  intro s
  split
  · exact hskipped
  · split
    · exact hskipped
    · split
      · exact hskipped
      · apply yields_bind
        intro cooldown
        split
        · exact hpure _ (by rintro (h | h) <;> cases h)
        · apply yields_bind
          intro walk
          split
          · exact hskipped
          · split
            · exact hskipped
            · apply yields_bind
              intro reserve
              split
              · exact hskipped
              · unfold performBlindSwap
                apply yields_bind
                intro s'
                apply yields_bind
                intro r
                cases r with
                | error e => exact hpure _ (by rintro (h | h) <;> cases h)
                | ok report =>
                  repeat
                    apply yields_bind
                    intro _
                  split
                  · exact yields_bind (fun _ => hpure _ (by rintro (h | h) <;> cases h))
                  · exact hpure _ (by rintro (h | h) <;> cases h)

omit [SerdeJson] in
theorem signals_swapped {m : DaemonM TickAction} (h : Yields (fun a => ¬ a.Terminal) m)
    (d : Daemon) : Returns Signals (m.run d) :=
  (h d).mono (fun _ hr => signals_of_not hr)

theorem signals_emergencySwap :
    Returns Signals ((emergencySwap at' i readings).run d) := by
  unfold emergencySwap
  rw [returns_state_bind, returns_get, returns_state_bind]
  apply (idles_draw _ _ _ d).mono
  rintro ⟨drawn, e⟩ he
  have hkept : e.signaledActiveDeadNoTarget = d.signaledActiveDeadNoTarget :=
    congrArg Latches.signaledActiveDeadNoTarget he
  dsimp only
  split
  · split
    · exact ⟨fun h => absurd h (by intro h; cases h), fun _ => rfl⟩
    · next hsignaled =>
      refine ⟨fun h => absurd h (by intro h; cases h), fun _ => ?_⟩
      exact hkept.trans (not_not.mp hsignaled)
  · apply signals_swapped
    apply yields_bind
    intro r
    cases r with
    | error err => exact yields_pure (by rintro (h | h) <;> cases h)
    | ok report =>
      repeat
        apply yields_bind
        intro _
      exact yields_pure (by rintro (h | h) <;> cases h)

theorem signals_reactiveSwap (activeUsage : Usage) (sessionCeiling weeklyCeiling : ℚ) :
    Returns Signals
      ((reactiveSwap at' i activeUsage sessionCeiling weeklyCeiling readings).run d) := by
  unfold reactiveSwap
  rw [returns_state_bind, returns_get]
  dsimp only
  split
  · exact signals_of_not (by rintro (h | h) <;> cases h)
  · rw [returns_state_bind]
    apply (idles_drawCooldown d).mono
    rintro ⟨cooldown, e⟩ he
    have hkept : e.signaledAllExhausted = d.signaledAllExhausted :=
      congrArg Latches.signaledAllExhausted he
    dsimp only
    split
    · exact signals_of_not (by rintro (h | h) <;> cases h)
    · split
      · split
        · exact ⟨fun _ => rfl, fun h => by cases h⟩
        · next hsignaled =>
          exact ⟨fun _ => hkept.trans (not_not.mp hsignaled), fun h => by cases h⟩
      · apply signals_swapped
        apply yields_bind
        intro r
        cases r with
        | error err => exact yields_pure (by rintro (h | h) <;> cases h)
        | ok report =>
          repeat
            apply yields_bind
            intro _
          split
          · exact yields_bind (fun _ => yields_pure (by rintro (h | h) <;> cases h))
          · exact yields_pure (by rintro (h | h) <;> cases h)

theorem signals_decideAction (active : Option ℕ) :
    Returns Signals ((decideAction at' active readings).run d) := by
  unfold decideAction
  cases active with
  | none => exact signals_of_not (by rintro (h | h) <;> cases h)
  | some i =>
    dsimp only
    rw [returns_state_bind, returns_get]
    split
    · split
      · exact signals_emergencySwap
      · exact signals_of_not (by rintro (h | h) <;> cases h)
    · split
      · exact signals_swapped unterminal_blindSwap d
      · rw [returns_state_bind, returns_modify, returns_state_bind]
        apply returns_of_forall
        rintro ⟨sessionPct, e⟩
        rw [returns_state_bind]
        apply returns_of_forall
        rintro ⟨weeklyPct, e₁⟩
        unfold decideReadable
        rw [returns_state_bind, returns_get]
        dsimp only
        split
        · exact signals_swapped (unterminal_velocitySwap _ _) e₁
        · exact signals_reactiveSwap _ _ _

end Deciding

/-! ## Between ticks -/

section Commands

variable {d : Daemon}

/-- The latches of a daemon that follows the canonical item to another account. -/
theorem followed_latches {s : Daemon} {next : Option ℕ}
    (hs : s.latches = (d.designated next d.lastGood).latches) (hne : next ≠ d.active) :
    (({ s with lastGood := none } : Daemon).invalidatePollSchedule).latches =
      ((d.designated next none).settleActive d.active).latches := by
  unfold Daemon.settleActive
  rw [if_pos (show (d.designated next none).active ≠ d.active from hne)]
  exact congrArg (fun l => { l with lastGood := none, pollSchedule := [], pollPos := 0 }) hs

theorem makes_followCanonical_bind {α : Type} (canonical : Credential) {f : PUnit → DaemonM α}
    (hf : ∀ e, Makes .command e ((f ⟨⟩).run e)) :
    Makes .command d ((followCanonical canonical >>= f).run d) := by
  unfold followCanonical
  rw [bind_assoc]
  apply makes_get_bind
  rw [bind_assoc]
  unfold Makes
  rw [returns_state_bind]
  apply (resolves_resolveAccountFor canonical).mono
  rintro ⟨next, d'⟩ ⟨rfl, hnext⟩
  refine Makes.after ?_ (hf _)
  dsimp only
  have hprobe : ((d'.designated next d'.lastGood).deactivateRecoveryProbe d'.active next).latches =
      (d'.designated next d'.lastGood).latches := Daemon.deactivateRecoveryProbe_latches _ _ _
  by_cases hsame : next = d'.active
  · apply moves_of_latches
    rw [if_neg (not_not_intro hsame)]
    subst hsame
    exact hprobe
  · rw [if_pos hsame]
    have hfollowed := followed_latches
      (s := (d'.designated next d'.lastGood).deactivateRecoveryProbe d'.active next) hprobe hsame
    exact .single (.redesignated next none hnext (.inl rfl) hfollowed)

theorem makes_adoptManualSwap : Makes .command d (adoptManualSwap.run d) := by
  unfold adoptManualSwap
  apply makes_idle_bind idles_clockNow
  intro at' e he
  apply makes_idle_bind (idles_attempt _)
  intro r e₁ he₁
  cases r with
  | error err => exact makes_modify (moves_of_latches rfl)
  | ok canonical =>
    apply makes_followCanonical_bind
    intro e₂
    exact makes_modify (moves_of_latches rfl)

theorem listed_of_resolveTarget {roster : List Account} {query : String} {target : ℕ}
    (h : resolveTarget roster query = .ok target) : target < roster.length := by
  unfold resolveTarget at h
  split at h
  · cases h
  · next i hi =>
    cases h
    have hmem : target ∈ (List.range roster.length).filter (fun i =>
        roster[i]?.any (fun a => a.label == query || a.accountUuid == query)) := by
      rw [hi]
      exact List.mem_singleton_self target
    exact List.mem_range.mp (List.mem_filter.mp hmem).1
  · cases h

variable [SerdeJson]

theorem makes_performSocketSwap (query : String) (force : Bool) :
    Makes .command d ((performSocketSwap query force).run d) := by
  unfold performSocketSwap
  apply makes_get_bind
  split
  · exact makes_done
  · exact makes_done
  · next target htarget =>
    have hlt := listed_of_resolveTarget htarget
    apply makes_idle_bind idles_clockNow
    intro now e he
    split
    · exact makes_done
    · exact makes_done
    · split
      · exact makes_done
      · unfold commandedSwap
        apply makes_get_bind
        apply makes_idle_bind (idles_lockedSwap _ _ force)
        intro r e₁ he₁
        cases r with
        | error err => exact makes_done
        | ok report =>
          have hlt₁ : target < e₁.roster.length := by
            rw [Daemon.roster_of_latches (he₁.trans he)]
            exact hlt
          apply makes_get_bind
          apply makes_recordSwap_bind hlt₁ (.inl rfl)
          intro e₂ he₂
          refine makes_idle_modify_bind (fun s => s.deactivateRecoveryProbe_latches _ _) ?_
          intro e₃ he₃
          exact makes_idle_bind (idles_emit rfl) (fun _ _ _ => makes_done)

end Commands

/-! ## What an account keeps -/

section Kept

variable {β : Type} {d d' : Daemon} (view : AccountRuntime → β)

theorem noteBlindEpisode_kept (hview : ∀ (a : AccountRuntime) (anchor : Option BlindAnchor),
      view { a with blindAnchor := anchor } = view a)
    (d : Daemon) (i : ℕ) (active : Option ℕ) (result : Except Error Usage) (now : Nanos) (j : ℕ) :
    view ((d.noteBlindEpisode i active result now).accounts j) = view (d.accounts j) := by
  unfold Daemon.noteBlindEpisode
  split
  · split
    · exact d.setAccount_kept i view (fun a => hview a _) j
    · rfl
  · exact d.setAccount_kept i view (fun a => hview a _) j
  · rfl
  · rfl

theorem emitIf_accounts (d : Daemon) (c : Bool) (e : Event) :
    (d.emitIf c e).accounts = d.accounts := by
  unfold Daemon.emitIf
  split <;> rfl

theorem noteExhaustedPoll_kept (hview : ∀ (a : AccountRuntime) (until' : Option Nanos),
      view { a with health := { a.health with exhaustedPollUntil := until' } } = view a)
    (d : Daemon) (i : ℕ) (active : Option ℕ) (now : Nanos) (nowSecs : Int) (j : ℕ) :
    view ((d.noteExhaustedPoll i active now nowSecs).accounts j) = view (d.accounts j) := by
  unfold Daemon.noteExhaustedPoll
  split
  · rfl
  · dsimp only
    split
    · rw [emitIf_accounts]
      exact d.setAccount_kept i view (fun a => hview a _) j
    · rw [emitIf_accounts]
      exact d.setAccount_kept i view (fun a => hview a _) j

theorem noteObservationGapOf_kept (hview : ∀ (a : AccountRuntime)
      (anchor : Option ObservationGapAnchor), view { a with observationGap := anchor } = view a)
    (d : Daemon) (i : ℕ) (active : Option ℕ) (threshold now : Nanos) (j : ℕ) :
    view ((d.noteObservationGapOf active threshold now i).accounts j) = view (d.accounts j) := by
  unfold Daemon.noteObservationGapOf
  dsimp only
  split
  · split
    · rfl
    · split
      · rfl
      · exact d.setAccount_kept i view (fun a => hview a _) j
  · split
    · rfl
    · split
      · rfl
      · split
        · rfl
        · exact d.setAccount_kept i view (fun a => hview a _) j

theorem nextPollIndex_accounts (d : Daemon) (active : Option ℕ) :
    (d.nextPollIndex active).2.accounts = d.accounts := by
  unfold Daemon.nextPollIndex Daemon.refillPollSchedule
  dsimp only
  split <;> rfl

theorem noteCanonicalLiveness_accounts (d : Daemon) (state : CanonicalLiveness)
    (active : Option ℕ) : (d.noteCanonicalLiveness state active).accounts = d.accounts := by
  unfold Daemon.noteCanonicalLiveness
  cases state with
  | scrubbed => dsimp only; split <;> rfl
  | present => dsimp only; split <;> rfl
  | unknown => rfl

theorem rollScrubAdoptWindow_accounts (d : Daemon) (at' : Nanos) :
    (d.rollScrubAdoptWindow at').accounts = d.accounts := by
  unfold Daemon.rollScrubAdoptWindow
  split
  · split <;> rfl
  · rfl

theorem noteScrubAdoptExhausted_accounts (d : Daemon) (active : Option ℕ) :
    (d.noteScrubAdoptExhausted active).accounts = d.accounts := by
  unfold Daemon.noteScrubAdoptExhausted
  split <;> rfl

/-- Between polls only a reload and a gap touch an account. -/
theorem Move.kept {k : Phase} (h : Move k d d') (hk : k ≠ .reload) (view : Slot → β)
    (hview : ∀ (s : Slot) (anchor : Option ObservationGapAnchor),
      view { s with observationGap := anchor } = view s) (j : ℕ) :
    view (d'.accounts j).slot = view (d.accounts j).slot := by
  cases h with
  | idle hd => rw [Daemon.slot_of_latches hd]
  | redesignated next anchor _ _ hd =>
    rw [Daemon.slot_of_latches hd]
    unfold Daemon.settleActive
    split <;> rfl
  | @swapRecorded _ _ target at' _ _ =>
    exact congrArg (fun l : Latches => view (l.slots j)) (d.swapRecorded_latches target at')
  | livenessNoted state => rw [noteCanonicalLiveness_accounts]
  | @gapNoted _ i threshold now _ =>
    exact noteObservationGapOf_kept (fun a => view a.slot) (fun a => hview a.slot) d i _ threshold
      now j
  | adoptWindowRolled at' => rw [rollScrubAdoptWindow_accounts]
  | adoptExhaustionNoted active _ => rw [noteScrubAdoptExhausted_accounts]
  | adopted target at' => rfl
  | allExhaustedSignaled => rfl
  | activeDeadSignaled => rfl
  | reloaded => exact absurd rfl hk

theorem Moves.kept {k : Phase} (h : Moves k d d') (hk : k ≠ .reload) (view : Slot → β)
    (hview : ∀ (s : Slot) (anchor : Option ObservationGapAnchor),
      view { s with observationGap := anchor } = view s) (j : ℕ) :
    view (d'.accounts j).slot = view (d.accounts j).slot := by
  induction h with
  | refl => rfl
  | tail _ hmove ih => exact (hmove.kept hk view hview j).trans ih

end Kept

end Sessiometer
