import Sessiometer.Pacing.Episodes
import Sessiometer.Daemon.Anchor

/-! # Episodes of the daemon

Three episodes the daemon is in as a whole, and three each account may be in. A latch remembers that
one is open, and the edges that are reported toggle it. -/

namespace Sessiometer

open Effects Pacing

inductive AccountEpisode where
  | blind
  | gap
  | slowPoll
deriving DecidableEq

inductive Episode where
  | allExhausted
  | activeDeadNoTarget
  | canonicalScrubbed
  | account (kind : AccountEpisode) (accountUuid : String)
deriving DecidableEq

def AccountEpisode.isOpen : AccountEpisode → Slot → Bool
  | .blind, s => s.blindAnchor.isSome
  | .gap, s => s.observationGap.isSome
  | .slowPoll, s => s.exhaustedPollUntil.isSome

/-- Whether the latches have the episode open. An account off the roster is in none. -/
def Latches.isOpen (l : Latches) : Episode → Bool
  | .allExhausted => l.signaledAllExhausted
  | .activeDeadNoTarget => l.signaledActiveDeadNoTarget
  | .canonicalScrubbed => l.signaledCanonicalScrubbed
  | .account kind accountUuid =>
    match rosterPosition l.roster accountUuid with
    | some i => kind.isOpen (l.slots i)
    | none => false

/-- The episode that an event opens or closes. -/
def Event.edge : Event → Option (Episode × Edge)
  | .allExhausted .. => some (.allExhausted, .opening)
  | .allExhaustedCleared => some (.allExhausted, .closing)
  | .activeDeadNoTarget .. => some (.activeDeadNoTarget, .opening)
  | .activeDeadNoTargetCleared => some (.activeDeadNoTarget, .closing)
  | .canonicalScrubbed _ => some (.canonicalScrubbed, .opening)
  | .canonicalRestored _ => some (.canonicalScrubbed, .closing)
  | .blindEnter accountUuid .. => some (.account .blind accountUuid, .opening)
  | .blindExit accountUuid .. => some (.account .blind accountUuid, .closing)
  | .observationGapEnter accountUuid .. => some (.account .gap accountUuid, .opening)
  | .observationGapExit accountUuid .. => some (.account .gap accountUuid, .closing)
  | .exhaustedSlowPoll accountUuid _ => some (.account .slowPoll accountUuid, .opening)
  | .exhaustedSlowPollCleared accountUuid => some (.account .slowPoll accountUuid, .closing)
  | _ => none

def Episode.edges (x : Episode) (e : Event) : List Edge :=
  match e.edge with
  | some (y, edge) => if y = x then [edge] else []
  | none => []

theorem isOpen_of_position {l : Latches} {kind : AccountEpisode} {accountUuid : String} {i : ℕ}
    (h : rosterPosition l.roster accountUuid = some i) :
    l.isOpen (.account kind accountUuid) = kind.isOpen (l.slots i) := by
  unfold Latches.isOpen
  dsimp only
  rw [h]

theorem isOpen_of_none {l : Latches} {kind : AccountEpisode} {accountUuid : String}
    (h : rosterPosition l.roster accountUuid = none) :
    l.isOpen (.account kind accountUuid) = false := by
  unfold Latches.isOpen
  dsimp only
  rw [h]

/-- What is emitted from the first latches to the second brackets every episode. -/
def Noted (l l' : Latches) : Prop :=
  ∃ es, l'.edges = l.edges ++ es ∧
    ∀ x, Brackets (l.isOpen x) (es.flatMap x.edges) (l'.isOpen x)

section Noting

variable {l l' l'' : Latches}

theorem noted_of_quiet (hedges : l'.edges = l.edges) (hopen : ∀ x, l'.isOpen x = l.isOpen x) :
    Noted l l' := by
  refine ⟨[], by rw [hedges, List.append_nil], ?_⟩
  intro x
  rw [hopen x]
  exact .nil _

theorem Noted.refl (l : Latches) : Noted l l := noted_of_quiet rfl (fun _ => rfl)

theorem Noted.trans (h : Noted l l') (h' : Noted l' l'') : Noted l l'' := by
  obtain ⟨es, hes, hopen⟩ := h
  obtain ⟨es', hes', hopen'⟩ := h'
  refine ⟨es ++ es', by rw [hes', hes, List.append_assoc], ?_⟩
  intro x
  rw [List.flatMap_append]
  exact (hopen x).append (hopen' x)

/-- An edge of no episode toggles nothing. -/
theorem noted_of_silent {e : Event} (he : e.edge = none) (hedges : l'.edges = l.edges ++ [e])
    (hopen : ∀ x, l'.isOpen x = l.isOpen x) : Noted l l' := by
  refine ⟨[e], hedges, ?_⟩
  intro x
  rw [List.flatMap_singleton, hopen x]
  unfold Episode.edges
  rw [he]
  exact .nil _

/-- One edge toggles the latch of its episode, and no other. -/
theorem noted_of_edge {e : Event} {x : Episode} {edge : Edge} (he : e.edge = some (x, edge))
    (hedges : l'.edges = l.edges ++ [e]) (hx : Brackets (l.isOpen x) [edge] (l'.isOpen x))
    (hother : ∀ y, y ≠ x → l'.isOpen y = l.isOpen y) : Noted l l' := by
  refine ⟨[e], hedges, ?_⟩
  intro y
  rw [List.flatMap_singleton]
  unfold Episode.edges
  rw [he]
  dsimp only
  by_cases hy : x = y
  · rw [if_pos hy, ← hy]
    exact hx
  · rw [if_neg hy, hother y (fun h => hy h.symm)]
    exact .nil _

theorem isOpen_of_slots (hroster : l'.roster = l.roster)
    (hexhausted : l'.signaledAllExhausted = l.signaledAllExhausted)
    (hdead : l'.signaledActiveDeadNoTarget = l.signaledActiveDeadNoTarget)
    (hscrubbed : l'.signaledCanonicalScrubbed = l.signaledCanonicalScrubbed)
    (hslots : ∀ kind i, AccountEpisode.isOpen kind (l'.slots i) = kind.isOpen (l.slots i))
    (x : Episode) : l'.isOpen x = l.isOpen x := by
  cases x with
  | allExhausted => exact hexhausted
  | activeDeadNoTarget => exact hdead
  | canonicalScrubbed => exact hscrubbed
  | account kind accountUuid =>
    cases hposition : rosterPosition l.roster accountUuid with
    | none => rw [isOpen_of_none hposition, isOpen_of_none (hroster ▸ hposition)]
    | some i =>
      rw [isOpen_of_position hposition, isOpen_of_position (hroster ▸ hposition)]
      exact hslots kind i

variable {d : Daemon} {i : ℕ}

theorem isOpen_of_unpolled {d' : Daemon} (h : d'.unpolled = d.unpolled)
    (hslots : ∀ kind j, AccountEpisode.isOpen kind (d'.accounts j).slot =
      kind.isOpen (d.accounts j).slot) (x : Episode) : d'.latches.isOpen x = d.latches.isOpen x := by
  have hroster : d'.roster = d.roster := congrArg Latches.roster h
  have hexhausted : d'.signaledAllExhausted = d.signaledAllExhausted :=
    congrArg Latches.signaledAllExhausted h
  have hdead : d'.signaledActiveDeadNoTarget = d.signaledActiveDeadNoTarget :=
    congrArg Latches.signaledActiveDeadNoTarget h
  have hscrubbed : d'.signaledCanonicalScrubbed = d.signaledCanonicalScrubbed :=
    congrArg Latches.signaledCanonicalScrubbed h
  exact isOpen_of_slots hroster hexhausted hdead hscrubbed hslots x

theorem isOpen_account (hunique : UniqueUuids d.roster) (hi : i < d.roster.length)
    (kind : AccountEpisode) (hl : l.roster = d.roster) :
    l.isOpen (.account kind (d.account i).accountUuid) = kind.isOpen (l.slots i) := by
  apply isOpen_of_position
  rw [hl]
  exact Keyed.position_of_getElem? hunique (getElem?_account hi)

/-- A write of one account that emits one edge of one of its episodes. -/
theorem noted_of_account (kind : AccountEpisode) (edge : Edge) {e : Event}
    {f : AccountRuntime → AccountRuntime} (hunique : UniqueUuids d.roster) (hi : i < d.roster.length)
    (he : e.edge = some (.account kind (d.account i).accountUuid, edge))
    (hl : l = { (d.setAccount i f).latches with edges := d.latches.edges ++ [e] })
    (hkind : Brackets (kind.isOpen (d.accounts i).slot) [edge]
      (kind.isOpen (f (d.accounts i)).slot))
    (hother : ∀ other, other ≠ kind →
      other.isOpen (f (d.accounts i)).slot = other.isOpen (d.accounts i).slot) :
    Noted d.latches l := by
  subst hl
  have hslot : (d.setAccount i f).latches.slots i = (f (d.accounts i)).slot :=
    congrArg AccountRuntime.slot (d.setAccount_self i f)
  refine noted_of_edge he rfl ?_ ?_
  · rw [isOpen_account hunique hi kind rfl, isOpen_account hunique hi kind rfl]
    dsimp only
    rw [hslot]
    exact hkind
  · intro y hy
    cases y with
    | allExhausted => rfl
    | activeDeadNoTarget => rfl
    | canonicalScrubbed => rfl
    | account other accountUuid =>
      cases hposition : rosterPosition d.roster accountUuid with
      | none => rw [isOpen_of_none hposition, isOpen_of_none hposition]
      | some j =>
        rw [isOpen_of_position hposition, isOpen_of_position hposition]
        dsimp only
        by_cases hj : j = i
        · obtain ⟨account, hget, hkey⟩ := Keyed.getElem?_of_position hposition
          rw [hj] at hget
          rw [hj, hslot]
          apply hother
          rintro rfl
          rw [account_of_getElem? hget] at hy
          exact hy (by rw [hkey])
        · have hkept : (d.setAccount i f).latches.slots j = (d.accounts j).slot :=
            congrArg AccountRuntime.slot (d.setAccount_of_ne i hj f)
          rw [hkept]
          rfl

theorem emit_edge (d : Daemon) {e : Event} (h : e.isEdge = true) :
    (d.emit e).latches = { d.latches with edges := d.latches.edges ++ [e] } := by
  have hedges : (d.emit e).events.filter Event.isEdge = d.events.filter Event.isEdge ++ [e] := by
    unfold Daemon.emit
    rw [List.filter_append, List.filter_cons_of_pos h, List.filter_nil]
  exact congrArg (fun es => { d.latches with edges := es }) hedges

theorem emit_setAccount_edge (d : Daemon) (i : ℕ) (f : AccountRuntime → AccountRuntime) {e : Event}
    (h : e.isEdge = true) : ((d.emit e).setAccount i f).latches =
      { (d.setAccount i f).latches with edges := d.latches.edges ++ [e] } :=
  congrArg (fun l => { (d.setAccount i f).latches with edges := l.edges }) (emit_edge d h)

end Noting

/-! ## Moves -/

section Moves

variable {d d' : Daemon}

theorem noteCanonicalLiveness_noted (d : Daemon) (state : CanonicalLiveness) (active : Option ℕ) :
    Noted d.latches (d.noteCanonicalLiveness state active).latches := by
  have hother : ∀ (e : Event) (signaled : Bool) (y : Episode), y ≠ .canonicalScrubbed →
      ({ d.emit e with signaledCanonicalScrubbed := signaled } : Daemon).latches.isOpen y =
        d.latches.isOpen y := by
    intro e signaled y hy
    cases y with
    | canonicalScrubbed => exact absurd rfl hy
    | allExhausted => rfl
    | activeDeadNoTarget => rfl
    | account kind accountUuid => rfl
  unfold Daemon.noteCanonicalLiveness
  cases state with
  | scrubbed =>
    dsimp only
    split
    · exact .refl _
    · next hsignaled =>
      have hclosed : d.signaledCanonicalScrubbed = false := eq_false_of_ne_true hsignaled
      have hedges := congrArg Latches.edges
        (emit_edge d (e := .canonicalScrubbed (active.map (fun i => (d.account i).label))) rfl)
      refine noted_of_edge (x := .canonicalScrubbed) rfl hedges ?_ (hother _ true)
      rw [show d.latches.isOpen .canonicalScrubbed = false from hclosed]
      exact brackets_opening
  | present =>
    dsimp only
    split
    · next hsignaled =>
      have hedges := congrArg Latches.edges
        (emit_edge d (e := .canonicalRestored (active.map (fun i => (d.account i).label))) rfl)
      refine noted_of_edge (x := .canonicalScrubbed) rfl hedges ?_ (hother _ false)
      rw [show d.latches.isOpen .canonicalScrubbed = true from hsignaled]
      exact brackets_closing
    · exact .refl _
  | unknown => exact .refl _

theorem noteObservationGapOf_noted (hunique : UniqueUuids d.roster) {i : ℕ}
    (hi : i < d.roster.length) (active : Option ℕ) (threshold now : Nanos) :
    Noted d.latches (d.noteObservationGapOf active threshold now i).latches := by
  have hother : ∀ (anchor : Option ObservationGapAnchor) (other : AccountEpisode), other ≠ .gap →
      other.isOpen ({ d.accounts i with observationGap := anchor } : AccountRuntime).slot =
        other.isOpen (d.accounts i).slot := by
    intro anchor other h
    cases other with
    | gap => exact absurd rfl h
    | blind => rfl
    | slowPoll => rfl
  unfold Daemon.noteObservationGapOf
  dsimp only
  split
  · next anchor hopen =>
    split
    · exact .refl _
    · split
      · exact .refl _
      · refine noted_of_account .gap .closing (i := i)
          (f := fun a => { a with observationGap := none }) hunique hi rfl
          (emit_setAccount_edge d i _ rfl) ?_ (hother none)
        rw [show AccountEpisode.gap.isOpen (d.accounts i).slot =
          (d.accounts i).observationGap.isSome from rfl, hopen]
        exact brackets_closing
  · next hclosed =>
    split
    · exact .refl _
    · split
      · exact .refl _
      · next anchoredAt _ =>
        split
        · exact .refl _
        · refine noted_of_account .gap .opening (i := i)
            (f := fun a => { a with observationGap := some ⟨anchoredAt, true⟩ }) hunique hi rfl
            (emit_edge _ rfl) ?_ (hother _)
          rw [show AccountEpisode.gap.isOpen (d.accounts i).slot =
            (d.accounts i).observationGap.isSome from rfl, hclosed]
          exact brackets_opening

/-- Between polls only the canonical item, a gap and a terminal action are noted. -/
theorem Move.noted {k : Phase} (h : Move k d d') (hk : k ≠ .reload)
    (hunique : UniqueUuids d.roster) : Noted d.latches d'.latches := by
  have hterminal : ∀ (e : Event) (x : Episode), e.isEdge = true → e.edge = some (x, .opening) →
      ∀ s : Daemon, s.latches.edges = (d.emit e).latches.edges → d.latches.isOpen x = false →
      s.latches.isOpen x = true → (∀ y, y ≠ x → s.latches.isOpen y = d.latches.isOpen y) →
      Noted d.latches s.latches := by
    intro e x hedge he s hs hbefore hafter hother
    refine noted_of_edge he (hs.trans (congrArg Latches.edges (emit_edge d hedge))) ?_ hother
    rw [hbefore, hafter]
    exact brackets_opening
  cases h with
  | idle hd =>
    rw [hd]
    exact .refl _
  | redesignated next anchor _ _ hd =>
    rw [hd]
    apply noted_of_quiet
    · unfold Daemon.settleActive
      split <;> rfl
    · intro x
      unfold Daemon.settleActive
      split <;> cases x <;> rfl
  | @swapRecorded _ _ target at' _ _ =>
    rw [d.swapRecorded_latches target at']
    exact noted_of_quiet rfl (fun x => by cases x <;> rfl)
  | livenessNoted state => exact noteCanonicalLiveness_noted d state d.active
  | @gapNoted _ i threshold now hi => exact noteObservationGapOf_noted hunique hi d.active threshold now
  | adoptWindowRolled at' =>
    apply noted_of_quiet
    · unfold Daemon.rollScrubAdoptWindow
      split
      · split <;> rfl
      · rfl
    · intro x
      unfold Daemon.rollScrubAdoptWindow
      split
      · split <;> cases x <;> rfl
      · rfl
  | adoptExhaustionNoted active _ =>
    unfold Daemon.noteScrubAdoptExhausted
    split
    · exact .refl _
    · refine noted_of_silent (e := .canonicalRecoveryExhausted _) rfl
        (congrArg Latches.edges (emit_edge d rfl)) ?_
      intro x
      cases x <;> rfl
  | adopted target at' =>
    refine noted_of_silent (e := .canonicalRecovered (d.account target).label) rfl
      (congrArg Latches.edges (emit_edge _ rfl)) ?_
    intro x
    cases x <;> rfl
  | allExhaustedSignaled hold cause resetsAt hclosed =>
    refine hterminal (.allExhausted hold cause resetsAt) .allExhausted rfl rfl _ rfl hclosed rfl ?_
    intro y hy
    cases y with
    | allExhausted => exact absurd rfl hy
    | _ => rfl
  | activeDeadSignaled hold cause resetsAt hclosed =>
    refine hterminal (.activeDeadNoTarget hold cause resetsAt) .activeDeadNoTarget rfl rfl _ rfl
      hclosed rfl ?_
    intro y hy
    cases y with
    | activeDeadNoTarget => exact absurd rfl hy
    | _ => rfl
  | reloaded => exact absurd rfl hk

theorem Moves.noted {k : Phase} (h : Moves k d d') (hk : k ≠ .reload)
    (hunique : UniqueUuids d.roster) : Noted d.latches d'.latches := by
  induction h with
  | refl => exact .refl _
  | @tail b c hmoves hmove ih =>
    refine ih.trans (hmove.noted hk ?_)
    rw [Moves.roster hmoves hk]
    exact hunique

/-- Between ticks nothing is noted. -/
theorem Moves.isOpen_of_command (h : Moves .command d d') (x : Episode) :
    d'.latches.isOpen x = d.latches.isOpen x := by
  induction h with
  | refl => rfl
  | @tail b c _ hmove ih =>
    refine Eq.trans ?_ ih
    cases hmove with
    | idle hd => rw [hd]
    | redesignated next anchor _ _ hd =>
      rw [hd]
      unfold Daemon.settleActive
      split <;> cases x <;> rfl
    | @swapRecorded _ _ target at' _ _ =>
      rw [b.swapRecorded_latches target at']
      cases x <;> rfl

end Moves

/-! ## Polls -/

section Polls

variable {d d' : Daemon} {i : ℕ} {active : Option ℕ} {now : Nanos}

theorem noteBlindEpisode_noted (hunique : UniqueUuids d.roster) (hi : i < d.roster.length)
    (active : Option ℕ) (result : Except Error Usage) (now : Nanos) :
    Noted d.latches (d.noteBlindEpisode i active result now).latches := by
  have hother : ∀ (anchor : Option BlindAnchor) (other : AccountEpisode), other ≠ .blind →
      other.isOpen ({ d.accounts i with blindAnchor := anchor } : AccountRuntime).slot =
        other.isOpen (d.accounts i).slot := by
    intro anchor other h
    cases other with
    | blind => exact absurd rfl h
    | gap => rfl
    | slowPoll => rfl
  have hlatch : AccountEpisode.blind.isOpen (d.accounts i).slot =
      (d.accounts i).blindAnchor.isSome := rfl
  unfold Daemon.noteBlindEpisode
  split
  · next hclosed =>
    split
    · next prev prevAt _ _ =>
      refine noted_of_account .blind .opening (i := i)
        (f := fun a => { a with blindAnchor := some ⟨prev.session, prev.weekly, prevAt,
          decide (active = some i), atLeast prev.session d.settings.sessionCeilingBase⟩ })
        hunique hi rfl (emit_edge _ rfl) ?_ (hother _)
      rw [hlatch, hclosed]
      exact brackets_opening
    · exact .refl _
  · next hopen =>
    refine noted_of_account .blind .closing (i := i)
      (f := fun a => { a with blindAnchor := none }) hunique hi rfl
      (emit_setAccount_edge d i _ rfl) ?_ (hother none)
    rw [hlatch, hopen]
    exact brackets_closing
  · exact .refl _
  · exact .refl _

/-- A slow window is opened and closed with an edge, and prolonged without one. -/
theorem setExhaustedPollUntil_noted (hunique : UniqueUuids d.roster) (hi : i < d.roster.length)
    (until' : Option Nanos) (changed : Bool) {e : Event}
    (hchanged : changed = (until'.isSome != (d.accounts i).health.exhaustedPollUntil.isSome))
    (hedge : e.isEdge = true) (he : e.edge = some (.account .slowPoll (d.account i).accountUuid,
      if until'.isSome then .opening else .closing)) :
    Noted d.latches ((d.setHealth i (fun h => { h with exhaustedPollUntil := until' })).emitIf
      changed e).latches := by
  let f : AccountRuntime → AccountRuntime := fun a =>
    { a with health := { a.health with exhaustedPollUntil := until' } }
  have hother : ∀ other : AccountEpisode, other ≠ .slowPoll →
      other.isOpen (f (d.accounts i)).slot = other.isOpen (d.accounts i).slot := by
    intro other h
    cases other with
    | slowPoll => exact absurd rfl h
    | blind => rfl
    | gap => rfl
  have hafter : AccountEpisode.slowPoll.isOpen (f (d.accounts i)).slot = until'.isSome := rfl
  have hbefore : AccountEpisode.slowPoll.isOpen (d.accounts i).slot =
      (d.accounts i).health.exhaustedPollUntil.isSome := rfl
  change Noted d.latches ((d.setAccount i f).emitIf changed e).latches
  cases changed with
  | true =>
    refine noted_of_account .slowPoll _ (f := f) hunique hi he
      (emit_edge (d.setAccount i f) hedge) ?_ hother
    rw [hbefore, hafter]
    revert hchanged
    cases until'.isSome <;> cases (d.accounts i).health.exhaustedPollUntil.isSome
    · intro h
      cases h
    · exact fun _ => brackets_closing
    · exact fun _ => brackets_opening
    · intro h
      cases h
  | false =>
    have hsame : until'.isSome = (d.accounts i).health.exhaustedPollUntil.isSome :=
      bne_eq_false_iff_eq.mp hchanged.symm
    have hquiet : (d.setAccount i f).emitIf false e = d.setAccount i f := rfl
    have hedges : (d.setAccount i f).latches.edges = d.latches.edges := rfl
    rw [hquiet]
    apply noted_of_quiet hedges
    apply isOpen_of_unpolled (setAccount_unpolled d i f)
    intro kind j
    by_cases hj : j = i
    · rw [hj, d.setAccount_self]
      by_cases hkind : kind = .slowPoll
      · rw [hkind, hafter, hbefore, hsame]
      · exact hother kind hkind
    · rw [d.setAccount_of_ne i hj]

theorem noteExhaustedPoll_noted (hunique : UniqueUuids d.roster) (hi : i < d.roster.length)
    (active : Option ℕ) (now : Nanos) (nowSecs : Int) :
    Noted d.latches (d.noteExhaustedPoll i active now nowSecs).latches := by
  unfold Daemon.noteExhaustedPoll
  split
  · exact .refl _
  · dsimp only
    split
    · apply setExhaustedPollUntil_noted hunique hi _ _ _ rfl rfl
      rw [Option.isSome_some]
      cases (d.accounts i).health.exhaustedPollUntil.isSome <;> rfl
    · apply setExhaustedPollUntil_noted hunique hi none _ _ rfl rfl
      rw [Option.isSome_none]
      cases (d.accounts i).health.exhaustedPollUntil.isSome <;> rfl

theorem BackoffNoted.noted {isActive : Bool} {result : Except Error Usage} {t : Nanos}
    (h : BackoffNoted i isActive result t d d') : Noted d.latches d'.latches := by
  apply noted_of_quiet
  · cases h with
    | cleared _ hd =>
      rw [hd]
      unfold Daemon.clearBackoff
      rw [Daemon.emitIf_latches _ _ rfl]
      rfl
    | armed streak interval now _ _ hd =>
      rw [hd]
      rfl
  · apply isOpen_of_unpolled h.unpolled
    intro kind j
    exact h.kept kind.isOpen (fun _ _ _ => by cases kind <;> rfl) j

theorem storeReading_noted (d : Daemon) (i : ℕ) (active : Option ℕ) (result : Except Error Usage)
    (now : Nanos) : Noted d.latches (d.storeReading i active result now).latches := by
  apply noted_of_quiet
  · unfold Daemon.storeReading
    cases result with
    | error e => rfl
    | ok fresh =>
      dsimp only
      split <;> rfl
  · apply isOpen_of_unpolled (storeReading_unpolled d i active result now)
    intro kind j
    rw [storeReading_accounts]
    by_cases hj : j = i
    · rw [hj, Function.update_self]
      cases result <;> cases kind <;> rfl
    · rw [Function.update_of_ne hj]

theorem nextPollIndex_noted (d : Daemon) (active : Option ℕ) :
    Noted d.latches (d.nextPollIndex active).2.latches := by
  apply noted_of_quiet
  · unfold Daemon.nextPollIndex Daemon.refillPollSchedule
    dsimp only
    split <;> rfl
  · intro x
    unfold Daemon.nextPollIndex Daemon.refillPollSchedule
    dsimp only
    split <;> cases x <;> rfl

/-- A poll opens and closes episodes of its account. -/
theorem Polled.noted {p q : Daemon} {x : Option Answer} {t : Nanos} (h : Polled p x q t)
    (hp : p.Listed) (hunique : UniqueUuids p.roster) : Noted p.latches q.latches := by
  cases h with
  | skipped hq =>
    rw [hq]
    exact nextPollIndex_noted p p.active
  | @polled _ _ i s₁ s₂ s₃ s₄ s₅ result now nowSecs _ hpick h₁ h₂ h₃ h₄ h₅ hq =>
    have hi := (nextPollIndex_listed hp).2 i hpick
    have hroster₁ : s₁.roster = p.roster :=
      (Daemon.roster_of_latches h₁).trans (roster_of_frame (p.nextPollIndex_frame p.active))
    have hroster₃ : s₃.roster = p.roster :=
      (Daemon.roster_of_latches h₃).trans (h₂.keeps.2.trans hroster₁)
    have hroster₄ : s₄.roster = p.roster := (Daemon.roster_of_latches h₄).trans
      ((roster_of_frame (s₃.noteBlindEpisode_frame i p.active result now)).trans hroster₃)
    have hroster₅ : s₅.roster = p.roster := (Daemon.roster_of_latches h₅).trans
      ((roster_of_frame (s₄.storeReading_frame i p.active result now)).trans hroster₄)
    have hpicked : Noted p.latches s₁.latches := h₁ ▸ nextPollIndex_noted p p.active
    have hbackoff : Noted s₁.latches s₃.latches := h₃ ▸ h₂.noted
    have hblind : Noted s₃.latches s₄.latches :=
      h₄ ▸ noteBlindEpisode_noted (hroster₃ ▸ hunique) (hroster₃ ▸ hi) p.active result now
    have hstored : Noted s₄.latches s₅.latches := h₅ ▸ storeReading_noted s₄ i p.active result now
    have hslow : Noted s₅.latches q.latches :=
      hq ▸ noteExhaustedPoll_noted (hroster₅ ▸ hunique) (hroster₅ ▸ hi) p.active now nowSecs
    exact hpicked.trans (hbackoff.trans (hblind.trans (hstored.trans hslow)))

end Polls

/-! ## Turns -/

/-- The account that an episode may be about stays on the roster, if it was on it. -/
def Episode.Stays (x : Episode) (roster roster' : List Account) : Prop :=
  ∀ kind accountUuid, x = .account kind accountUuid →
    accountUuid ∈ roster.map (·.accountUuid) → accountUuid ∈ roster'.map (·.accountUuid)

section Turns

variable {d d' : Daemon}

theorem decide_and_of_not {p : Prop} [Decidable p] {b : Bool} (h : ¬ (¬ p ∧ b = true)) :
    (decide p && b) = b := by
  by_cases hp : p
  · rw [decide_eq_true hp, Bool.true_and]
  · rw [eq_false_of_ne_true (fun hb => h ⟨hp, hb⟩), Bool.and_false]

theorem settle_noted (d : Daemon) (action : TickAction) :
    Noted d.latches (d.settle action).latches := by
  have hexhausted : ∀ l : Latches, Noted l { l with
      signaledAllExhausted := decide (action = .noViableTarget) && l.signaledAllExhausted
      edges := l.edges ++ if action ≠ .noViableTarget ∧ l.signaledAllExhausted = true then
        [.allExhaustedCleared] else [] } := by
    intro l
    by_cases h : action ≠ .noViableTarget ∧ l.signaledAllExhausted = true
    · rw [if_pos h, decide_eq_false h.1, Bool.false_and]
      refine noted_of_edge (x := .allExhausted) (e := .allExhaustedCleared) rfl rfl ?_ ?_
      · rw [show l.isOpen .allExhausted = true from h.2]
        exact brackets_closing
      · intro y hy
        cases y with
        | allExhausted => exact absurd rfl hy
        | _ => rfl
    · rw [if_neg h, List.append_nil]
      refine noted_of_quiet rfl ?_
      intro y
      cases y with
      | allExhausted => exact decide_and_of_not h
      | _ => rfl
  have hdead : ∀ l : Latches, Noted l { l with
      signaledActiveDeadNoTarget :=
        decide (action = .activeDeadNoTarget) && l.signaledActiveDeadNoTarget
      edges := l.edges ++ if action ≠ .activeDeadNoTarget ∧ l.signaledActiveDeadNoTarget = true then
        [.activeDeadNoTargetCleared] else [] } := by
    intro l
    by_cases h : action ≠ .activeDeadNoTarget ∧ l.signaledActiveDeadNoTarget = true
    · rw [if_pos h, decide_eq_false h.1, Bool.false_and]
      refine noted_of_edge (x := .activeDeadNoTarget) (e := .activeDeadNoTargetCleared) rfl rfl ?_ ?_
      · rw [show l.isOpen .activeDeadNoTarget = true from h.2]
        exact brackets_closing
      · intro y hy
        cases y with
        | activeDeadNoTarget => exact absurd rfl hy
        | _ => rfl
    · rw [if_neg h, List.append_nil]
      refine noted_of_quiet rfl ?_
      intro y
      cases y with
      | activeDeadNoTarget => exact decide_and_of_not h
      | _ => rfl
  rw [settle_latches]
  exact (hexhausted d.latches).trans (hdead _)

theorem isEdge_of_edge {e : Event} (h : e.edge ≠ none) : e.isEdge = true := by
  cases e <;> first | rfl | exact absurd rfl h

/-- The log of an episode is read off the latched events. -/
theorem flatMap_edges (x : Episode) (es : List Event) :
    es.flatMap x.edges = (es.filter Event.isEdge).flatMap x.edges := by
  induction es with
  | nil => rfl
  | cons e es ih =>
    rw [List.flatMap_cons, ih]
    by_cases he : e.isEdge = true
    · rw [List.filter_cons_of_pos he, List.flatMap_cons]
    · have hnone : e.edge = none := by
        by_contra hedge
        exact he (isEdge_of_edge hedge)
      have hquiet : x.edges e = [] := by
        unfold Episode.edges
        rw [hnone]
      rw [List.filter_cons_of_neg he, hquiet, List.nil_append]

/-- A tick that has noted what it latched brackets every episode. -/
theorem brackets_of_tick (h : Noted d.beginTick.latches d'.latches) (x : Episode) :
    Brackets (d.latches.isOpen x) (d'.events.flatMap x.edges) (d'.latches.isOpen x) := by
  obtain ⟨es, hes, hopen⟩ := h
  have hbegun : d.beginTick.latches.isOpen x = d.latches.isOpen x := by cases x <;> rfl
  have hlog : d'.events.filter Event.isEdge = es := hes
  rw [flatMap_edges, hlog, ← hbegun]
  exact hopen x

theorem reconcileRoster_isOpen (hunique : UniqueUuids d.roster) (newRoster : List Account)
    (intent : ReloadIntent) {x : Episode}
    (hx : x.Stays d.roster (d.reconcileRoster newRoster intent).roster) :
    (d.reconcileRoster newRoster intent).latches.isOpen x = d.latches.isOpen x := by
  by_cases hrefuses : d.rosterState.refuses newRoster intent
  · rw [d.reconcileRoster_of_refuses hrefuses]
  · have hadopted := d.reconcileRoster_of_adopts hrefuses
    rw [hadopted] at hx ⊢
    cases x with
    | allExhausted => rfl
    | activeDeadNoTarget => rfl
    | canonicalScrubbed => rfl
    | account kind accountUuid =>
      have hfresh : kind.isOpen ({} : AccountRuntime).slot = false := by cases kind <;> rfl
      cases hold : rosterPosition d.roster accountUuid with
      | none =>
        rw [isOpen_of_none (l := d.latches) hold]
        cases hnew : rosterPosition newRoster accountUuid with
        | none => exact isOpen_of_none hnew
        | some j =>
          rw [isOpen_of_position hnew]
          obtain ⟨account, hget, hkey⟩ := Keyed.getElem?_of_position hnew
          rcases carryOver_cases d newRoster j with hslot | ⟨account', i, hget', hi, -⟩
          · exact (congrArg (fun a : AccountRuntime => kind.isOpen a.slot) hslot).trans hfresh
          · cases hget.symm.trans hget'
            rw [hkey, hold] at hi
            cases hi
      | some i =>
        rw [isOpen_of_position (l := d.latches) hold]
        obtain ⟨old, hget, hkey⟩ := Keyed.getElem?_of_position hold
        have hmem : accountUuid ∈ d.roster.map (·.accountUuid) :=
          List.mem_map.mpr ⟨old, List.mem_of_getElem? hget, hkey⟩
        cases hnew : rosterPosition newRoster accountUuid with
        | none => exact absurd (hx kind accountUuid rfl hmem) (Keyed.position_eq_none_iff.mp hnew)
        | some j =>
          rw [isOpen_of_position hnew]
          obtain ⟨account, hget', hkey'⟩ := Keyed.getElem?_of_position hnew
          have huuid : account.accountUuid = (d.account i).accountUuid := by
            rw [account_of_getElem? hget]
            exact hkey'.trans hkey.symm
          have hslot := carryOver_of_uuid hunique (getElem?_of_rosterPosition hold) hget' huuid
          exact congrArg (fun a : AccountRuntime => kind.isOpen a.slot) hslot

/-- Every turn that keeps the account of an episode brackets the episode. -/
theorem Course.brackets {l : Turn} {log : Option PollLog} {t t' : Nanos}
    (h : Course d t l log d' t') (hd : d.Listed) (hunique : UniqueUuids d.roster) {x : Episode}
    (hx : x.Stays d.roster d'.roster) :
    Brackets (d.latches.isOpen x) (l.events.flatMap x.edges) (d'.latches.isOpen x) := by
  have hlisted : d.beginTick.Listed := ⟨hd.active, hd.schedule⟩
  cases h with
  | between hmoves =>
    rw [hmoves.isOpen_of_command x]
    exact .nil _
  | reloaded newRoster intent =>
    rw [reconcileRoster_isOpen hunique newRoster intent hx]
    exact .nil _
  | locked hd' =>
    apply brackets_of_tick
    rw [hd']
    exact .refl _
  | @observed r r' e t₁ _ log y action _ _ hp hpolled _ hq hr he =>
    have huniqueₚ : UniqueUuids log.consulted.roster := by
      rw [hp.roster (by intro h; cases h)]
      exact hunique
    have huniqueq : UniqueUuids log.folded.roster := by
      rw [hpolled.keeps.2]
      exact huniqueₚ
    have huniquer : UniqueUuids r.roster := by
      rw [hq.roster (by intro h; cases h)]
      exact huniqueq
    have huniquer' : UniqueUuids r'.roster := by
      rw [hr.moves.roster (by intro h; cases h)]
      exact huniquer
    have hbefore := hp.noted (by intro h; cases h) hunique
    have hpoll := hpolled.noted (hp.listed hlisted) huniqueₚ
    have hafter := hq.noted (by intro h; cases h) huniqueq
    have hrecovered := hr.moves.noted (by intro h; cases h) huniquer
    have hdecided := he.noted (by intro h; cases h) huniquer'
    apply brackets_of_tick
    exact hbefore.trans (hpoll.trans (hafter.trans (hrecovered.trans (hdecided.trans
      (settle_noted e action)))))

end Turns

/-! ## What a tick leaves open -/

/-- When the account of a slot was last seen. -/
def Slot.observedAt (s : Slot) : Option Nanos :=
  Daemon.laterOf s.lastReadingAt (s.blindAnchor.map (·.at'))

/-- An open gap has not been looked into since its anchor. -/
def Slot.Unseen (s : Slot) : Prop :=
  ∀ anchor observed, s.observationGap = some anchor → s.observedAt = some observed →
    observed ≤ anchor.at'

/-- After a tick that observed, what is open is what the tick found on, and what it found over is
closed: by its action, by the canonical item, by the answer of the account it polled, and by when each
account was last seen. -/
structure Settled (l : Turn) (x : PollLog) (d : Daemon) : Prop where
  decided : ∀ y, l.decision = some y →
    (d.signaledAllExhausted = true ↔ y.action = .noViableTarget) ∧
    (d.signaledActiveDeadNoTarget = true ↔ y.action = .activeDeadNoTarget) ∧ d.Sees y.view.liveness
  recovered : l.decision = none →
    d.signaledAllExhausted = false ∧ d.signaledActiveDeadNoTarget = false ∧ d.Sees .scrubbed
  answered : ∀ i fresh at', x.Reads i fresh at' → (d.accounts i).blindAnchor = none ∧
    ((d.accounts i).health.exhaustedPollUntil.isSome = true ↔
      x.consulted.outOfRotation i x.consulted.active fresh = true)
  failed : ∀ i e at', x.scheduled = some i → x.answer = some ⟨.error e, at'⟩ →
    (x.consulted.accounts i).lastReading.isSome = true →
    (x.consulted.accounts i).lastReadingAt.isSome = true →
    (d.accounts i).blindAnchor.isSome = true
  unseen : ∀ i, i < d.roster.length → (d.accounts i).slot.Unseen

section Settling

variable {d d' : Daemon}

theorem le_laterOf {a b : Option Nanos} {m n : Nanos} (h : Daemon.laterOf a b = some m)
    (ha : a = some n) : n ≤ m := by
  subst ha
  cases b with
  | none =>
    cases h
    exact le_refl _
  | some b =>
    cases h
    exact le_max_left n b

theorem noteObservationGapOf_unseen (d : Daemon) (active : Option ℕ) (threshold now : Nanos)
    (i : ℕ) : ((d.noteObservationGapOf active threshold now i).accounts i).slot.Unseen := by
  have hshut : ∀ s : Slot, s.observationGap = none → s.Unseen := by
    intro s hs anchor observed hanchor
    rw [hs] at hanchor
    cases hanchor
  unfold Daemon.noteObservationGapOf
  dsimp only
  split
  · next anchor hopen =>
    split
    · next hnever =>
      intro anchor' observed _ hobserved
      exact absurd (hnever.symm.trans hobserved) (Option.some_ne_none observed).symm
    · next observed hobserved =>
      split
      · next hle =>
        intro anchor' observed' hanchor hobserved'
        cases hopen.symm.trans hanchor
        cases hobserved.symm.trans hobserved'
        exact hle
      · rw [Daemon.setAccount_self]
        exact hshut _ rfl
  · next hclosed =>
    split
    · exact hshut _ hclosed
    · split
      · exact hshut _ hclosed
      · next anchoredAt hanchored =>
        split
        · exact hshut _ hclosed
        · intro anchor observed hanchor hobserved
          have hslot := congrArg AccountRuntime.slot (d.setAccount_self i
            (fun a => { a with observationGap := some ⟨anchoredAt, true⟩ }))
          have hopened : some (⟨anchoredAt, true⟩ : ObservationGapAnchor) = some anchor :=
            (congrArg Slot.observationGap hslot).symm.trans hanchor
          have hseen : (d.accounts i).slot.observedAt = some observed :=
            (congrArg Slot.observedAt hslot).symm.trans hobserved
          cases hopened
          exact le_laterOf hanchored hseen

theorem noteObservationGapOf_other (d : Daemon) (active : Option ℕ) (threshold now : Nanos)
    {i j : ℕ} (hj : j ≠ i) :
    (d.noteObservationGapOf active threshold now i).accounts j = d.accounts j := by
  unfold Daemon.noteObservationGapOf
  dsimp only
  split
  · split
    · rfl
    · split
      · rfl
      · exact Function.update_of_ne hj _ _
  · split
    · rfl
    · split
      · rfl
      · split
        · rfl
        · exact Function.update_of_ne hj _ _

theorem noteObservationGap_unseen (d : Daemon) (active : Option ℕ) (now : Nanos) {i : ℕ}
    (hi : i < d.roster.length) : ((d.noteObservationGap active now).accounts i).slot.Unseen := by
  have hfold : ∀ (l : List ℕ) (s : Daemon), i ∈ l ∨ (s.accounts i).slot.Unseen →
      ((l.foldl (fun s i => s.noteObservationGapOf active d.observationGapThreshold now i)
        s).accounts i).slot.Unseen := by
    intro l
    induction l with
    | nil =>
      rintro s (hmem | hs)
      · cases hmem
      · exact hs
    | cons j l ih =>
      intro s hs
      rw [List.foldl_cons]
      apply ih
      by_cases hj : i = j
      · rw [hj]
        exact .inr (noteObservationGapOf_unseen s active _ now j)
      · rw [noteObservationGapOf_other s active _ now hj]
        rcases hs with hmem | hs
        · exact .inl ((List.mem_cons.mp hmem).resolve_left hj)
        · exact .inr hs
  exact hfold _ d (.inl (List.mem_range.mpr hi))

theorem noteObservationGap_scrubbed (d : Daemon) (active : Option ℕ) (now : Nanos) :
    (d.noteObservationGap active now).signaledCanonicalScrubbed = d.signaledCanonicalScrubbed := by
  have hone : ∀ (s : Daemon) (threshold : Nanos) (i : ℕ),
      (s.noteObservationGapOf active threshold now i).signaledCanonicalScrubbed =
        s.signaledCanonicalScrubbed := by
    intro s threshold i
    unfold Daemon.noteObservationGapOf
    dsimp only
    split
    · split
      · rfl
      · split <;> rfl
    · split
      · rfl
      · split
        · rfl
        · split <;> rfl
  have hfold : ∀ (l : List ℕ) (s : Daemon),
      (l.foldl (fun s i => s.noteObservationGapOf active d.observationGapThreshold now i)
        s).signaledCanonicalScrubbed = s.signaledCanonicalScrubbed := by
    intro l
    induction l with
    | nil => exact fun _ => rfl
    | cons i l ih =>
      intro s
      rw [List.foldl_cons, ih, hone]
  exact hfold _ d

theorem sees_of_scrubbed {state : CanonicalLiveness} (h : d.Sees state)
    (hd : d'.signaledCanonicalScrubbed = d.signaledCanonicalScrubbed) : d'.Sees state := by
  cases state with
  | scrubbed => exact hd.trans h
  | present => exact hd.trans h
  | unknown => exact trivial

/-- Once a tick has observed, it leaves the accounts and the mark of the canonical item alone. -/
theorem Move.settled {k : Phase} (h : Move k d d') (hk : k = .recover ∨ k = .decide) :
    d'.signaledCanonicalScrubbed = d.signaledCanonicalScrubbed ∧
      ∀ j, (d'.accounts j).slot = (d.accounts j).slot := by
  cases h with
  | idle hd => exact ⟨congrArg Latches.signaledCanonicalScrubbed hd, Daemon.slot_of_latches hd⟩
  | redesignated next anchor _ _ hd =>
    refine ⟨(congrArg Latches.signaledCanonicalScrubbed hd).trans ?_, fun j =>
      (Daemon.slot_of_latches hd j).trans ?_⟩
    · unfold Daemon.settleActive
      split <;> rfl
    · unfold Daemon.settleActive
      split <;> rfl
  | @swapRecorded _ _ target at' _ _ =>
    have hrecorded := d.swapRecorded_latches target at'
    exact ⟨congrArg Latches.signaledCanonicalScrubbed hrecorded,
      fun j => congrArg (fun l : Latches => l.slots j) hrecorded⟩
  | livenessNoted =>
    rcases hk with hk | hk
    · cases hk
    · cases hk
  | gapNoted =>
    rcases hk with hk | hk
    · cases hk
    · cases hk
  | adoptWindowRolled at' =>
    unfold Daemon.rollScrubAdoptWindow
    split
    · split <;> exact ⟨rfl, fun _ => rfl⟩
    · exact ⟨rfl, fun _ => rfl⟩
  | adoptExhaustionNoted active _ =>
    unfold Daemon.noteScrubAdoptExhausted
    split <;> exact ⟨rfl, fun _ => rfl⟩
  | adopted target at' => exact ⟨rfl, fun _ => rfl⟩
  | allExhaustedSignaled => exact ⟨rfl, fun _ => rfl⟩
  | activeDeadSignaled => exact ⟨rfl, fun _ => rfl⟩
  | reloaded =>
    rcases hk with hk | hk
    · cases hk
    · cases hk

theorem Moves.settled {k : Phase} (h : Moves k d d') (hk : k = .recover ∨ k = .decide) :
    d'.signaledCanonicalScrubbed = d.signaledCanonicalScrubbed ∧
      ∀ j, (d'.accounts j).slot = (d.accounts j).slot := by
  induction h with
  | refl => exact ⟨rfl, fun _ => rfl⟩
  | tail _ hmove ih =>
    obtain ⟨hscrubbed, hslots⟩ := hmove.settled hk
    exact ⟨hscrubbed.trans ih.1, fun j => (hslots j).trans (ih.2 j)⟩

/-- The blind episode of the polled account is noted on its reading before the poll. -/
theorem Polled.blindAnchor {p q : Daemon} {result : Except Error Usage} {at' t : Nanos} {i : ℕ}
    (h : Polled p (some ⟨result, at'⟩) q t) (hi : (p.nextPollIndex p.active).1 = some i) :
    ∃ s : Daemon, (s.accounts i).lastReading = (p.accounts i).lastReading ∧
      (s.accounts i).lastReadingAt = (p.accounts i).lastReadingAt ∧
      (q.accounts i).blindAnchor =
        ((s.noteBlindEpisode i p.active result at').accounts i).blindAnchor := by
  cases h with
  | @polled _ _ j s₁ s₂ s₃ s₄ s₅ _ _ nowSecs _ hpick h₁ h₂ h₃ h₄ h₅ hq =>
    cases hpick.symm.trans hi
    have hkept : ∀ {β : Type} (view : Slot → β), (∀ (s : Slot) (until' retryAfter : Option Nanos),
        view { s with pollBackoffUntil := until', pollBackoffRetryAfter := retryAfter } = view s) →
        view (s₃.accounts i).slot = view (p.accounts i).slot := by
      intro β view hview
      rw [Daemon.slot_of_latches h₃, h₂.kept view hview, Daemon.slot_of_latches h₁,
        nextPollIndex_accounts]
    refine ⟨s₃, hkept Slot.lastReading (fun _ _ _ => rfl),
      hkept Slot.lastReadingAt (fun _ _ _ => rfl), ?_⟩
    calc (q.accounts i).blindAnchor
      _ = ((s₅.noteExhaustedPoll i p.active at' nowSecs).accounts i).blindAnchor :=
          congrArg Slot.blindAnchor (Daemon.slot_of_latches hq i)
      _ = (s₅.accounts i).blindAnchor :=
          noteExhaustedPoll_kept AccountRuntime.blindAnchor (fun _ _ => rfl) s₅ i _ at' nowSecs i
      _ = ((s₄.storeReading i p.active result at').accounts i).blindAnchor :=
          congrArg Slot.blindAnchor (Daemon.slot_of_latches h₅ i)
      _ = (s₄.accounts i).blindAnchor := by
          rw [storeReading_accounts, Function.update_self]
          cases result <;> rfl
      _ = ((s₃.noteBlindEpisode i p.active result at').accounts i).blindAnchor :=
          congrArg Slot.blindAnchor (Daemon.slot_of_latches h₄ i)

/-- A poll that reads its account ends its blind episode. -/
theorem Polled.recovered {p q : Daemon} {fresh : Usage} {at' t : Nanos} {i : ℕ}
    (h : Polled p (some ⟨.ok fresh, at'⟩) q t) (hi : (p.nextPollIndex p.active).1 = some i) :
    (q.accounts i).blindAnchor = none := by
  obtain ⟨s, -, -, hq⟩ := h.blindAnchor hi
  rw [hq]
  unfold Daemon.noteBlindEpisode
  cases hanchor : (s.accounts i).blindAnchor with
  | none => exact hanchor
  | some anchor =>
    dsimp only
    rw [Daemon.setAccount_self]

/-- A poll that fails opens a blind episode, or finds one open, where there is a reading to lose. -/
theorem Polled.failed {p q : Daemon} {e : Error} {at' t : Nanos} {i : ℕ}
    (h : Polled p (some ⟨.error e, at'⟩) q t) (hi : (p.nextPollIndex p.active).1 = some i)
    (hread : (p.accounts i).lastReading.isSome = true)
    (hreadAt : (p.accounts i).lastReadingAt.isSome = true) :
    (q.accounts i).blindAnchor.isSome = true := by
  obtain ⟨s, hsread, hsreadAt, hq⟩ := h.blindAnchor hi
  obtain ⟨prev, hprev⟩ := Option.isSome_iff_exists.mp hread
  obtain ⟨prevAt, hprevAt⟩ := Option.isSome_iff_exists.mp hreadAt
  rw [hq]
  unfold Daemon.noteBlindEpisode
  rw [hsread, hsreadAt, hprev, hprevAt]
  cases hanchor : (s.accounts i).blindAnchor with
  | some anchor =>
    dsimp only
    rw [hanchor]
    rfl
  | none =>
    dsimp only
    unfold Daemon.emit
    dsimp only
    rw [Daemon.setAccount_self]
    rfl

/-- A poll that reads its account opens or closes its slow window. -/
theorem Polled.slowPoll {p q : Daemon} {fresh : Usage} {at' t : Nanos} {i : ℕ}
    (h : Polled p (some ⟨.ok fresh, at'⟩) q t) (hi : (p.nextPollIndex p.active).1 = some i) :
    (q.accounts i).health.exhaustedPollUntil.isSome = true ↔
      p.outOfRotation i p.active fresh = true := by
  cases h with
  | @polled _ _ j s₁ s₂ s₃ s₄ s₅ _ _ nowSecs _ hpick h₁ h₂ h₃ h₄ h₅ hq =>
    cases hpick.symm.trans hi
    have hread : (s₅.accounts i).lastReading = some fresh := by
      rw [lastReading_of_latches h₅, storeReading_accounts, Function.update_self]
      rfl
    have hsettings : s₅.settings = p.settings := by
      have hunpolled : s₅.unpolled = (p.nextPollIndex p.active).2.unpolled := by
        rw [unpolled_of_latches h₅, storeReading_unpolled, unpolled_of_latches h₄,
          noteBlindEpisode_unpolled, unpolled_of_latches h₃, h₂.unpolled, unpolled_of_latches h₁]
      exact (congrArg Latches.settings hunpolled).trans
        (settings_of_frame (p.nextPollIndex_frame p.active))
    have hout : s₅.outOfRotation i p.active fresh = p.outOfRotation i p.active fresh := by
      unfold Daemon.outOfRotation Daemon.weeklyRotationLine
      rw [hsettings]
    have hslow : (q.accounts i).health.exhaustedPollUntil =
        ((s₅.noteExhaustedPoll i p.active at' nowSecs).accounts i).health.exhaustedPollUntil :=
      congrArg Slot.exhaustedPollUntil (Daemon.slot_of_latches hq i)
    rw [hslow, ← hout]
    unfold Daemon.noteExhaustedPoll Daemon.setHealth
    rw [hread]
    dsimp only
    split
    · next hexhausted =>
      rw [emitIf_accounts, Daemon.setAccount_self, hexhausted]
      exact iff_of_true rfl rfl
    · next hserving =>
      rw [emitIf_accounts, Daemon.setAccount_self]
      exact iff_of_false Bool.false_ne_true hserving

theorem Polled.scrubbed {p q : Daemon} {x : Option Answer} {t : Nanos} (h : Polled p x q t) :
    q.signaledCanonicalScrubbed = p.signaledCanonicalScrubbed := by
  have hpicked : (p.nextPollIndex p.active).2.signaledCanonicalScrubbed =
      p.signaledCanonicalScrubbed := by
    unfold Daemon.nextPollIndex Daemon.refillPollSchedule
    dsimp only
    split <;> rfl
  exact (congrArg Latches.signaledCanonicalScrubbed h.unpolled).trans hpicked

/-- Every tick that observes leaves open what it found on, and closed what it found over. -/
theorem Course.settled {l : Turn} {x : PollLog} {t t' : Nanos}
    (h : Course d t l (some x) d' t') : Settled l x d' := by
  cases h with
  | @observed r r' e t₁ _ _ y action _ _ hp hpolled _ hq hr he htold =>
    obtain ⟨state, hsees, hview, hnone, -⟩ := htold.found
    obtain ⟨now, hnow⟩ := htold.noted
    obtain ⟨hscrubbed, hslots⟩ := hr.moves.settled (.inl rfl)
    obtain ⟨hscrubbed', hslots'⟩ := he.settled (.inr rfl)
    have hfinal := settle_latches e action
    have hexhausted : (e.settle action).signaledAllExhausted =
        (decide (action = .noViableTarget) && e.signaledAllExhausted) :=
      congrArg Latches.signaledAllExhausted hfinal
    have hdead : (e.settle action).signaledActiveDeadNoTarget =
        (decide (action = .activeDeadNoTarget) && e.signaledActiveDeadNoTarget) :=
      congrArg Latches.signaledActiveDeadNoTarget hfinal
    have hexhausted' : (e.settle action).signaledAllExhausted = true ↔ action = .noViableTarget := by
      rw [hexhausted, Bool.and_eq_true_iff, decide_eq_true_iff]
      exact ⟨And.left, fun haction => ⟨haction, htold.signaled.1 haction⟩⟩
    have hdead' : (e.settle action).signaledActiveDeadNoTarget = true ↔
        action = .activeDeadNoTarget := by
      rw [hdead, Bool.and_eq_true_iff, decide_eq_true_iff]
      exact ⟨And.left, fun haction => ⟨haction, htold.signaled.2 haction⟩⟩
    have hseen : (e.settle action).Sees state := by
      apply sees_of_scrubbed hsees
      calc (e.settle action).signaledCanonicalScrubbed
        _ = e.signaledCanonicalScrubbed := congrArg Latches.signaledCanonicalScrubbed hfinal
        _ = r.signaledCanonicalScrubbed := hscrubbed'.trans hscrubbed
        _ = (x.folded.noteObservationGap x.folded.active now).signaledCanonicalScrubbed :=
            congrArg Latches.signaledCanonicalScrubbed hnow
        _ = x.folded.signaledCanonicalScrubbed := noteObservationGap_scrubbed _ _ _
        _ = x.consulted.signaledCanonicalScrubbed := hpolled.scrubbed
    have hslot : ∀ j, ((e.settle action).accounts j).slot = (r.accounts j).slot := fun j =>
      (congrArg (fun l : Latches => l.slots j) hfinal).trans ((hslots' j).trans (hslots j))
    have hkept : ∀ {β : Type} (view : Slot → β), (∀ (s : Slot) (anchor : Option ObservationGapAnchor),
        view { s with observationGap := anchor } = view s) → ∀ j,
        view ((e.settle action).accounts j).slot = view (x.folded.accounts j).slot := by
      intro β view hview j
      rw [hslot]
      exact hq.kept (by intro h; cases h) view hview j
    have hblind : ∀ j, ((e.settle action).accounts j).blindAnchor =
        (x.folded.accounts j).blindAnchor := hkept Slot.blindAnchor (fun _ _ => rfl)
    have hslow : ∀ j, ((e.settle action).accounts j).health.exhaustedPollUntil =
        (x.folded.accounts j).health.exhaustedPollUntil :=
      hkept Slot.exhaustedPollUntil (fun _ _ => rfl)
    refine ⟨?_, ?_, ?_, ?_, ?_⟩
    · intro z hz
      obtain ⟨hstate, haction⟩ := hview z hz
      rw [haction, hstate]
      exact ⟨hexhausted', hdead', hseen⟩
    · intro hy
      obtain ⟨hstate, hterminal⟩ := hnone hy
      refine ⟨?_, ?_, hstate ▸ hseen⟩
      · exact eq_false_of_ne_true (fun h => hterminal (.inl (hexhausted'.mp h)))
      · exact eq_false_of_ne_true (fun h => hterminal (.inr (hdead'.mp h)))
    · rintro i fresh at' ⟨hscheduled, hanswer⟩
      rw [hanswer] at hpolled
      rw [hblind, hslow]
      exact ⟨hpolled.recovered hscheduled, hpolled.slowPoll hscheduled⟩
    · intro i e' at' hscheduled hanswer hread hreadAt
      rw [hanswer] at hpolled
      rw [hblind]
      exact hpolled.failed hscheduled hread hreadAt
    · intro i hi
      have hroster : (e.settle action).roster = x.folded.roster := by
        rw [roster_of_frame (e.settle_frame action), he.roster (by intro h; cases h),
          hr.moves.roster (by intro h; cases h), hq.roster (by intro h; cases h)]
      rw [hroster] at hi
      rw [hslot, Daemon.slot_of_latches hnow]
      exact noteObservationGap_unseen x.folded _ now hi

end Settling

/-! ## Runs -/

/-- The edges of an episode that a run reports. -/
def edgeLog (x : Episode) (tr : List (Turn × Option PollLog)) : List Edge :=
  tr.flatMap (fun l => l.1.events.flatMap x.edges)

section Runs

variable [SerdeJson] [Sha256] {pid : ℕ} {s s' : Daemon × World}
  {tr : List (Turn × Option PollLog)}

/-- A turn under a loaded roster that keeps the account, if it had it. -/
def TenuredStep (D : Device Seams World) (x : Episode) (s : Daemon × World)
    (l : Turn × Option PollLog) (s' : Daemon × World) : Prop :=
  LoadedStep D s l s' ∧ x.Stays s.1.roster s'.1.roster

theorem brackets_tenure {x : Episode}
    (hrun : Runs (TenuredStep ((surroundings pid).under Elapses) x) s tr s') (hs : s.1.Listed)
    (hunique : UniqueUuids s.1.roster) :
    Brackets (s.1.latches.isOpen x) (edgeLog x tr) (s'.1.latches.isOpen x) := by
  have hstep : ∀ (a : Daemon × World) (l : Turn × Option PollLog) (b : Daemon × World),
      (a.1.Listed ∧ UniqueUuids a.1.roster) →
      TenuredStep ((surroundings pid).under Elapses) x a l b →
      (b.1.Listed ∧ UniqueUuids b.1.roster) ∧
        Brackets (a.1.latches.isOpen x) (l.1.events.flatMap x.edges) (b.1.latches.isOpen x) := by
    rintro ⟨d, w⟩ ⟨l, log⟩ ⟨d', w'⟩ ⟨hd, hunique⟩ ⟨⟨hstep, hunique'⟩, hstays⟩
    have hcourse := course_of_logged hstep
    exact ⟨⟨(hcourse.listed hd).1, hunique'⟩, hcourse.brackets hd hunique hstays⟩
  exact (brackets_run hstep hrun ⟨hs, hunique⟩).2

omit [SerdeJson] [Sha256] in
theorem Started.closed (h : s.1.Started) (x : Episode) : s.1.latches.isOpen x = false := by
  rw [h.fresh]
  cases x with
  | account kind accountUuid =>
    cases hposition : rosterPosition s.1.roster accountUuid with
    | none => exact isOpen_of_none hposition
    | some i =>
      rw [isOpen_of_position hposition]
      cases kind <;> rfl
  | _ => rfl

end Runs

section Sample

local instance bracketsJson : SerdeJson := sampleJson

local instance bracketsSha : Sha256 := ⟨fun _ => 0⟩

theorem startedDaemon_started : startedDaemon.Started := by
  refine ⟨by unfold UniqueUuids; decide, ?_, rfl⟩
  rintro i ⟨⟩

/-- Every account has used up its limits. -/
def spent : Script :=
  { Script.calm with
    poll := fun _ _ => .ok ⟨⟨some (99 / 100), some (99 / 100), none, some 7200⟩, none⟩ }

theorem spent_refines : (spent.handler 0).Refines (surroundings 0) :=
  Script.handler_refines spent ⟨by decide, by decide⟩ 0

/-- Nobody is active, and the first account is polled and found spent. -/
def spentTick : (Turn × Option PollLog) × (Daemon × World) :=
  rehearse (spent.handler 0) startedDaemon (sampleWorld ⟨[9]⟩ "Z")

/-- The first account is removed, and captured again. -/
def recaptured : Daemon :=
  (spentTick.2.1.reconcileRoster [sampleAccount "B", sampleAccount "C"] .mutating).reconcileRoster
    [sampleAccount "A", sampleAccount "B", sampleAccount "C"] .mutating

def respentTick : (Turn × Option PollLog) × (Daemon × World) :=
  rehearse (spent.handler 0) recaptured spentTick.2.2

end Sample

end Sessiometer
