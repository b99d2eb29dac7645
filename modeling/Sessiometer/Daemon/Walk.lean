import Sessiometer.Pacing.Window
import Sessiometer.Daemon.LockedSwap
import Sessiometer.Daemon.Run
import Sessiometer.Daemon.WalkRules

/-! # The throttle walk

A blind swap whose retained session figure is below the risk band goes by the server's back-off
alone. The walk record counts the blind swaps that had such a back-off to go by, and the walk
breaker counts the record. -/

namespace Sessiometer

open Effects Pacing

/-- The record with what has left the window forgotten. -/
def Daemon.walkRecord (d : Daemon) (at' : Nanos) : List Nanos :=
  recent retryAfterWalkWindow at' d.retryAfterSwaps

theorem pruneRetryAfterSwaps_eq (d : Daemon) (at' : Nanos) :
    (d.pruneRetryAfterSwaps at').retryAfterSwaps = d.walkRecord at' := by
  unfold Daemon.pruneRetryAfterSwaps Daemon.walkRecord recent
  apply List.filter_congr
  intro s _
  rw [decide_eq_decide]
  have hage : ∀ a s W : ℕ, 0 < W → (a - s < W ↔ a < s + W) := by omega
  exact hage at' s retryAfterWalkWindow (by decide)

def TickAction.isBlindSwap : TickAction → Bool
  | .preemptivelySwapped _ _ => true
  | _ => false

section Breakers

variable {at' : Nanos} {i : ℕ} {speculative : Option Nanos}

/-- What a breaker says: it never stands in the way of a swap that is not speculative, and lets a
speculative one pass only where `ok` holds. -/
structure BreakerVerdict (record : List Nanos) (speculative : Option Nanos) (ok : Prop)
    (r : Bool × Daemon) : Prop where
  record : r.2.retryAfterSwaps = record
  unasked : speculative = none → r.1 = false
  passed : speculative.isSome → r.1 = false → ok

section Verdicts

variable {record : List Nanos} {ok : Prop} {d : Daemon} {ra : Nanos}

theorem breaker_unasked (h : d.retryAfterSwaps = record) :
    BreakerVerdict record none ok (false, d) where
  record := h
  unasked := fun _ => rfl
  passed := fun hs => absurd hs Bool.false_ne_true

theorem breaker_blocks (h : d.retryAfterSwaps = record) :
    BreakerVerdict record (some ra) ok (true, d) where
  record := h
  unasked := fun hs => absurd hs (Option.some_ne_none ra)
  passed := fun _ hb => absurd hb.symm Bool.false_ne_true

theorem breaker_passes (h : d.retryAfterSwaps = record) (hok : ok) :
    BreakerVerdict record (some ra) ok (false, d) where
  record := h
  unasked := fun _ => rfl
  passed := fun _ _ => hok

end Verdicts

theorem returns_retryAfterWalkCount (d : Daemon) :
    Returns (fun r => r.1 = (d.walkRecord at').length ∧ r.2 = d.pruneRetryAfterSwaps at')
      ((retryAfterWalkCount at').run d) := by
  unfold retryAfterWalkCount
  rw [returns_state_bind, returns_modify, returns_state_bind, returns_get, returns_state_pure]
  exact ⟨congrArg List.length (pruneRetryAfterSwaps_eq d at'), rfl⟩

/-- The walk breaker lets a speculative swap pass only with fewer than the allowed on the record. -/
theorem returns_walkBreaker (d : Daemon) :
    Returns (BreakerVerdict (d.walkRecord at') speculative
        ((d.walkRecord at').length < retryAfterWalkMax))
      ((walkBreaker at' i speculative).run d) := by
  unfold walkBreaker
  rw [returns_state_bind]
  apply (returns_retryAfterWalkCount d).mono
  rintro ⟨swaps, d₁⟩ ⟨hswaps, hd₁⟩
  dsimp only at hswaps hd₁
  subst hswaps hd₁
  have hrecord := pruneRetryAfterSwaps_eq d at'
  cases speculative with
  | none => exact breaker_unasked hrecord
  | some ra =>
    dsimp only
    split
    · rw [returns_state_bind, returns_get]
      split
      · exact breaker_blocks hrecord
      · exact breaker_blocks hrecord
    · next hlt => exact breaker_passes hrecord (not_le.mp hlt)

/-- The reserve breaker lets a speculative swap pass only where its target is not the only one. -/
theorem returns_reserveBreaker (d : Daemon) (reason : NextSwapReason) (blindElapsed : ℕ) :
    Returns (BreakerVerdict d.retryAfterSwaps speculative (reason ≠ .onlyCandidate))
      ((reserveBreaker i speculative reason blindElapsed).run d) := by
  unfold reserveBreaker
  cases speculative with
  | none => exact breaker_unasked rfl
  | some ra =>
    dsimp only
    split
    · rw [returns_state_bind, returns_get]
      split
      · exact breaker_blocks rfl
      · exact breaker_blocks rfl
    · next hne => exact breaker_passes rfl hne

end Breakers

section BlindSwap

variable [SerdeJson] {at' : Nanos} {i : ℕ} {readings : ℕ → Option Usage}

/-- What a tick may do about an account it cannot read, and to the walk record. -/
inductive BlindOutcome (d : Daemon) (at' : Nanos) (i : ℕ) (readings : ℕ → Option Usage) :
    TickAction × Daemon → Prop
  | stayed {action : TickAction} {d' : Daemon} : action.isBlindSwap = false →
      (d'.retryAfterSwaps = d.retryAfterSwaps ∨ d'.retryAfterSwaps = d.walkRecord at') →
      BlindOutcome d at' i readings (action, d')
  | swapped {anchor : LastGood} {target : ℕ} {reason : NextSwapReason} {d' : Daemon} :
      d.lastGood = some anchor → d.blindSwapArmed i at' anchor = true →
      d.pickBlind i readings = some (target, reason) →
      ((d.speculative i at' anchor).isSome →
        (d.walkRecord at').length < retryAfterWalkMax ∧ reason ≠ .onlyCandidate) →
      d'.retryAfterSwaps =
        d.walkRecord at' ++ (if (d.retryAfter i at').isSome then [at'] else []) →
      BlindOutcome d at' i readings (.preemptivelySwapped i target, d')

theorem returns_performBlindSwap (d : Daemon) (target : ℕ) (anchor : LastGood)
    (retryAfter : Option Nanos) :
    Returns (fun r => (r.1 = .swapFailed ∧ r.2.retryAfterSwaps = d.retryAfterSwaps) ∨
        (r.1 = .preemptivelySwapped i target ∧ r.2.retryAfterSwaps =
          d.retryAfterSwaps ++ (if retryAfter.isSome then [at'] else [])))
      ((performBlindSwap at' i target anchor retryAfter).run d) := by
  unfold performBlindSwap
  rw [returns_state_bind, returns_get, returns_state_bind]
  apply (keepsWalk_of_frame (keepsFrame_lockedSwap _ _ false) d).mono
  rintro ⟨r, d₁⟩ hr
  cases r with
  | error e => exact .inl ⟨rfl, hr⟩
  | ok report =>
    dsimp only
    rw [returns_state_bind]
    apply (keepsWalk_recordSwap _ _ _ d₁).mono
    rintro ⟨u, d₂⟩ hr₂
    have hkept : d₂.retryAfterSwaps = d.retryAfterSwaps := hr₂.trans hr
    rw [← hkept]
    cases retryAfter with
    | none => exact .inr ⟨rfl, (List.append_nil _).symm⟩
    | some ra => exact .inr ⟨rfl, rfl⟩

/-- The blind swap passes both breakers before it swaps. -/
theorem returns_blindSwap (d : Daemon) :
    Returns (BlindOutcome d at' i readings) ((blindSwap at' i readings).run d) := by
  unfold blindSwap
  rw [returns_state_bind, returns_get]
  dsimp only
  split
  · exact .stayed rfl (.inl rfl)
  · next anchor hanchor =>
    split
    · exact .stayed rfl (.inl rfl)
    · next harmed =>
      split
      · exact .stayed rfl (.inl rfl)
      · rw [returns_state_bind]
        apply (observes_drawCooldown.walk d).mono
        rintro ⟨cooldown, d₁⟩ h₁
        dsimp only at h₁ ⊢
        split
        · exact .stayed rfl (.inl h₁)
        · rw [returns_state_bind]
          have hrecord : d₁.walkRecord at' = d.walkRecord at' := by
            unfold Daemon.walkRecord
            rw [h₁]
          apply (returns_walkBreaker d₁).mono
          rintro ⟨walk, d₂⟩ ⟨h₂, -, hwalk⟩
          dsimp only at h₂ hwalk
          rw [hrecord] at h₂ hwalk
          cases walk with
          | true => exact .stayed rfl (.inr h₂)
          | false =>
            rw [if_neg Bool.false_ne_true]
            split
            · exact .stayed rfl (.inr h₂)
            · next target reason hpick =>
              rw [returns_state_bind]
              apply (returns_reserveBreaker d₂ reason _).mono
              rintro ⟨reserve, d₃⟩ ⟨h₃, -, hreserve⟩
              have hkept : d₃.retryAfterSwaps = d.walkRecord at' := h₃.trans h₂
              cases reserve with
              | true => exact .stayed rfl (.inr hkept)
              | false =>
                apply (returns_performBlindSwap d₃ target anchor _).mono
                rintro ⟨action, d₄⟩ (⟨rfl, h₄⟩ | ⟨rfl, h₄⟩)
                · exact .stayed rfl (.inr (h₄.trans hkept))
                · rw [hkept] at h₄
                  have hspeculative : (d.speculative i at' anchor).isSome →
                      (d.walkRecord at').length < retryAfterWalkMax ∧ reason ≠ .onlyCandidate :=
                    fun hs => ⟨hwalk hs rfl, hreserve hs rfl⟩
                  exact .swapped hanchor (not_not.mp harmed) hpick hspeculative h₄

/-- With the anchor's authority neither breaker is asked. -/
theorem returns_blindSwap_anchored {d : Daemon} {anchor : LastGood} {target : ℕ}
    {reason : NextSwapReason} (hanchor : d.lastGood = some anchor)
    (harmed : d.blindSwapArmed i at' anchor = true) (hband : d.anchorArmed i anchor = true)
    (hwarm : d.warmedUp = true) (hpick : d.pickBlind i readings = some (target, reason)) :
    Returns (fun r => r.1 = .skippedCooldown ∨ r.1 = .swapFailed ∨
        r.1 = .preemptivelySwapped i target) ((blindSwap at' i readings).run d) := by
  have hspeculative : d.speculative i at' anchor = none := if_pos hband
  unfold blindSwap
  rw [returns_state_bind, returns_get]
  simp only [hanchor, harmed, hwarm, hpick, hspeculative, not_true_eq_false, if_false]
  rw [returns_state_bind]
  apply returns_of_forall
  rintro ⟨cooldown, d₁⟩
  dsimp only
  split
  · exact .inl rfl
  · rw [returns_state_bind]
    apply (returns_walkBreaker d₁).mono
    rintro ⟨walk, d₂⟩ hwalk
    obtain rfl : walk = false := hwalk.unasked rfl
    rw [if_neg Bool.false_ne_true, returns_state_bind]
    apply (returns_reserveBreaker d₂ reason _).mono
    rintro ⟨reserve, d₃⟩ hreserve
    obtain rfl : reserve = false := hreserve.unasked rfl
    apply (returns_performBlindSwap d₃ target anchor _).mono
    rintro ⟨action, d₄⟩ (⟨rfl, -⟩ | ⟨rfl, -⟩)
    · exact .inr (.inl rfl)
    · exact .inr (.inr rfl)

end BlindSwap

/-! ## The other arms -/

section OtherArms

variable [SerdeJson] {at' : Nanos} {i : ℕ} {readings : ℕ → Option Usage}

theorem yields_emergencySwap :
    Yields (·.isBlindSwap = false) (emergencySwap at' i readings) := by
  unfold emergencySwap
  apply yields_bind
  intro d
  apply yields_bind
  intro drawn
  dsimp only
  split
  · split
    · exact yields_bind (fun _ => yields_bind (fun _ => yields_pure rfl))
    · exact yields_pure rfl
  · apply yields_bind
    intro r
    cases r with
    | error e => exact yields_pure rfl
    | ok report => exact yields_bind (fun _ => yields_bind (fun _ => yields_pure rfl))

theorem yields_velocitySwap (sessionCeiling weeklyThreshold : ℚ) :
    Yields (·.isBlindSwap = false)
      (velocitySwap at' i sessionCeiling weeklyThreshold readings) := by
  unfold velocitySwap
  apply yields_bind
  intro d
  dsimp only
  split
  · exact yields_pure rfl
  · split
    · split
      · exact yields_pure rfl
      · split
        · exact yields_pure rfl
        · split
          · exact yields_pure rfl
          · apply yields_bind
            intro cooldown
            split
            · exact yields_pure rfl
            · split
              · exact yields_pure rfl
              · apply yields_bind
                intro r
                cases r with
                | error e => exact yields_pure rfl
                | ok report => exact yields_bind (fun _ => yields_bind (fun _ => yields_pure rfl))
    · exact yields_pure rfl

theorem yields_reactiveSwap (activeUsage : Usage) (sessionCeiling weeklyCeiling : ℚ) :
    Yields (·.isBlindSwap = false)
      (reactiveSwap at' i activeUsage sessionCeiling weeklyCeiling readings) := by
  unfold reactiveSwap
  apply yields_bind
  intro d
  dsimp only
  split
  · exact yields_pure rfl
  · apply yields_bind
    intro cooldown
    split
    · exact yields_pure rfl
    · split
      · split
        · exact yields_bind (fun _ => yields_bind (fun _ => yields_pure rfl))
        · exact yields_pure rfl
      · apply yields_bind
        intro r
        cases r with
        | error e => exact yields_pure rfl
        | ok report =>
          apply yields_bind
          intro _
          apply yields_bind
          intro _
          split
          · exact yields_bind (fun _ => yields_pure rfl)
          · exact yields_pure rfl

theorem yields_decideReadable (activeUsage : Usage) (sessionCeiling weeklyCeiling : ℚ) :
    Yields (·.isBlindSwap = false)
      (decideReadable at' i activeUsage sessionCeiling weeklyCeiling readings) := by
  unfold decideReadable
  apply yields_bind
  intro d
  dsimp only
  split
  · exact yields_velocitySwap _ _
  · exact yields_reactiveSwap _ _ _

/-- What a decision does to the walk record. -/
def DecisionOutcome (d : Daemon) (at' : Nanos) (active : Option ℕ) (readings : ℕ → Option Usage)
    (r : TickAction × Daemon) : Prop :=
  (r.1.isBlindSwap = false ∧ r.2.retryAfterSwaps = d.retryAfterSwaps) ∨
    ∃ i, active = some i ∧ BlindOutcome d at' i readings r

omit [SerdeJson] in
theorem DecisionOutcome.of_keeps {d : Daemon} {m : DaemonM TickAction} {active : Option ℕ}
    (hkeeps : KeepsWalk m) (hyields : Yields (·.isBlindSwap = false) m) :
    Returns (DecisionOutcome d at' active readings) (m.run d) := by
  apply ((hyields d).and (hkeeps d)).mono
  intro r hr
  exact .inl hr

theorem returns_decideAction (d : Daemon) (active : Option ℕ) :
    Returns (DecisionOutcome d at' active readings) ((decideAction at' active readings).run d) := by
  unfold decideAction
  cases active with
  | none => exact .inl ⟨rfl, rfl⟩
  | some i =>
    dsimp only
    rw [returns_state_bind, returns_get]
    dsimp only
    split
    · split
      · exact DecisionOutcome.of_keeps (keepsWalk_emergencySwap at' i readings) yields_emergencySwap
      · exact .inl ⟨rfl, rfl⟩
    · split
      · apply (returns_blindSwap d).mono
        intro r hr
        exact .inr ⟨i, rfl, hr⟩
      · next usage =>
        apply DecisionOutcome.of_keeps
        · apply keepsWalk_modify_bind
          · intro d'
            rfl
          · intro _
            apply (observes_drawDownward _ _ _).walk.bind
            intro sessionPct
            apply (observes_drawDownward _ _ _).walk.bind
            intro weeklyPct
            exact keepsWalk_decideReadable at' i readings _ _ _
        · apply yields_bind
          intro _
          apply yields_bind
          intro sessionPct
          apply yields_bind
          intro weeklyPct
          exact yields_decideReadable _ _ _

end OtherArms

/-! ## Over runs -/

namespace Decision

/-- The decision was a blind swap on the server's back-off alone: the anchor is below the band. -/
def onRetryAfterAlone (x : Decision) : Bool :=
  match x.action, x.before.lastGood with
  | .preemptivelySwapped i _, some anchor => !x.before.anchorArmed i anchor
  | _, _ => false

/-- The targets that the blind swap had to choose from. -/
def blindTargets (x : Decision) (i : ℕ) : List (ℕ × Usage) :=
  viableTargets x.before.roster.length i x.view.readings x.before.enabledMask
    (some x.before.settings.targetMaxSessionUsage) (some x.before.settings.sessionCeilingBase)
    x.before.weeklyRotationLine

/-- The anchor's session figure authorises a blind swap from `i` to `target`. -/
structure AnchorAuthorises (x : Decision) (i target : ℕ) : Prop where
  active : x.view.active = some i
  live : (x.before.accounts i).health.quarantined = false
  unreadable : x.view.readings i = none
  anchored : ∃ anchor, x.before.lastGood = some anchor ∧
    x.before.blindSwapArmed i x.view.at' anchor = true ∧ x.before.anchorArmed i anchor = true
  warmedUp : x.before.warmedUp = true
  picked : ∃ reason, x.before.pickBlind i x.view.readings = some (target, reason)

end Decision

/-- The instants of the blind swaps on the server's back-off alone. -/
def retryAfterAloneSwaps (tr : List Turn) : List Nanos :=
  ((decisions tr).filter Decision.onRetryAfterAlone).map (·.view.at')

section Run

variable [SerdeJson] [Sha256] {pid : ℕ} {w w' : World} {d d' : Daemon}

/-- What the run lemma carries: the swaps on the server's word alone are paced, and the walk record
covers them. -/
structure WalkPaced (tr : List Turn) (s : Daemon × World) : Prop where
  paced : Paced retryAfterWalkWindow retryAfterWalkMax (retryAfterAloneSwaps tr)
  covered : Covers retryAfterWalkWindow s.2.clock s.1.retryAfterSwaps (retryAfterAloneSwaps tr)

omit [SerdeJson] [Sha256] in
theorem retryAfterAloneSwaps_append (tr tr' : List Turn) :
    retryAfterAloneSwaps (tr ++ tr') = retryAfterAloneSwaps tr ++ retryAfterAloneSwaps tr' := by
  unfold retryAfterAloneSwaps
  rw [decisions_append, List.filter_append, List.map_append]

omit [SerdeJson] [Sha256] in
theorem retryAfterAloneSwaps_decided (events : List Event) (x : Decision) :
    retryAfterAloneSwaps [.tick events (some x)] =
      if x.onRetryAfterAlone then [x.view.at'] else [] := by
  have hdecisions : decisions [.tick events (some x)] = [x] := rfl
  unfold retryAfterAloneSwaps
  rw [hdecisions, List.filter_cons, List.filter_nil]
  split <;> rfl

section Step

variable {tr : List Turn} {l : Turn}

omit [SerdeJson] [Sha256] in
/-- A turn that fires no such swap and keeps a record that covers keeps the invariant. -/
theorem WalkPaced.quiet (h : WalkPaced tr (d, w)) (hl : retryAfterAloneSwaps [l] = [])
    (hc : Covers retryAfterWalkWindow w'.clock d'.retryAfterSwaps (retryAfterAloneSwaps tr)) :
    WalkPaced (tr ++ [l]) (d', w') := by
  have hlog : retryAfterAloneSwaps (tr ++ [l]) = retryAfterAloneSwaps tr := by
    rw [retryAfterAloneSwaps_append, hl, List.append_nil]
  constructor
  · rw [hlog]
    exact h.paced
  · rw [hlog]
    exact hc

omit [SerdeJson] [Sha256] in
theorem WalkPaced.kept (h : WalkPaced tr (d, w)) (hl : retryAfterAloneSwaps [l] = [])
    (hr : d'.retryAfterSwaps = d.retryAfterSwaps) (hw : Elapses w w') :
    WalkPaced (tr ++ [l]) (d', w') := by
  apply h.quiet hl
  rw [hr]
  exact h.covered.later hw

omit [SerdeJson] [Sha256] in
theorem onRetryAfterAlone_of_not_blind {x : Decision} (h : x.action.isBlindSwap = false) :
    x.onRetryAfterAlone = false := by
  unfold Decision.onRetryAfterAlone
  cases hx : x.action with
  | preemptivelySwapped i target =>
    rw [hx] at h
    cases h
  | _ => rfl

omit [SerdeJson] [Sha256] in
/-- A blind swap below the band that was armed had the server's back-off to go by. -/
theorem speculative_isSome {i : ℕ} {at' : Nanos} {anchor : LastGood}
    (harmed : d.blindSwapArmed i at' anchor = true) (hband : d.anchorArmed i anchor = false) :
    (d.speculative i at' anchor).isSome := by
  unfold Daemon.blindSwapArmed at harmed
  unfold Daemon.speculative
  rw [hband, Bool.false_or, Bool.and_eq_true] at harmed
  rw [hband]
  exact harmed.2

omit [SerdeJson] [Sha256] in
/-- A decision keeps the invariant: what is fired on the server's word alone was first counted. -/
theorem WalkPaced.decided {x : Decision} {events : List Event} (h : WalkPaced tr (d, w))
    (hbefore : x.before.retryAfterSwaps = d.retryAfterSwaps) (hle : w.clock ≤ x.view.at')
    (hw : x.view.at' ≤ w'.clock)
    (ho : DecisionOutcome x.before x.view.at' x.view.active x.view.readings (x.action, d')) :
    WalkPaced (tr ++ [.tick events (some x)]) (d', w') := by
  have hcovered : Covers retryAfterWalkWindow w'.clock (x.before.walkRecord x.view.at')
      (retryAfterAloneSwaps tr) := by
    unfold Daemon.walkRecord
    rw [hbefore]
    exact ((h.covered.later hle).prune).later hw
  have hlog := retryAfterAloneSwaps_decided events x
  have hquiet : x.onRetryAfterAlone = false →
      retryAfterAloneSwaps [.tick events (some x)] = [] := by
    intro hx
    rw [hlog, hx]
    rfl
  rcases ho with ⟨hblind, hr⟩ | ⟨i, -, ho⟩
  · exact h.kept (hquiet (onRetryAfterAlone_of_not_blind hblind)) (hr.trans hbefore)
      (le_trans hle hw)
  · generalize hres : (x.action, d') = res at ho
    cases ho with
    | stayed hblind hr =>
      obtain ⟨rfl, rfl⟩ := Prod.mk.inj hres
      have hl := hquiet (onRetryAfterAlone_of_not_blind hblind)
      rcases hr with hr | hr
      · exact h.kept hl (hr.trans hbefore) (le_trans hle hw)
      · apply h.quiet hl
        rw [hr]
        exact hcovered
    | @swapped anchor target reason d'' hanchor harmed hpick hspeculative hr =>
      obtain ⟨haction, rfl⟩ := Prod.mk.inj hres
      have hx : x.onRetryAfterAlone = !x.before.anchorArmed i anchor := by
        unfold Decision.onRetryAfterAlone
        rw [haction, hanchor]
      by_cases hband : x.before.anchorArmed i anchor = true
      · -- the anchor carries the swap, but the record may grow all the same
        have hl := hquiet (by rw [hx, hband]; rfl)
        apply h.quiet hl
        rw [hr]
        split
        · exact hcovered.record_snoc _
        · rw [List.append_nil]
          exact hcovered
      · rw [Bool.not_eq_true] at hband
        have hs := speculative_isSome harmed hband
        have hra : (x.before.retryAfter i x.view.at').isSome := by
          unfold Daemon.speculative at hs
          rw [hband] at hs
          exact hs
        have hl : retryAfterAloneSwaps [.tick events (some x)] = [x.view.at'] := by
          rw [hlog, hx, hband]
          rfl
        have hcount : (recent retryAfterWalkWindow x.view.at' d.retryAfterSwaps).length <
            retryAfterWalkMax := by
          rw [← hbefore]
          exact (hspeculative hs).1
        constructor
        · rw [retryAfterAloneSwaps_append, hl]
          exact h.paced.extend h.covered hle hcount
        · rw [retryAfterAloneSwaps_append, hl, hr, if_pos hra]
          exact hcovered.snoc _

end Step

/-- One turn keeps the invariant. -/
theorem walkPaced_step {tr : List Turn} {s s' : Daemon × World} {l : Turn}
    (h : WalkPaced tr s) (hs : DaemonStep ((surroundings pid).under Elapses) s l s') :
    WalkPaced (tr ++ [l]) s' := by
  cases hs with
  | locked hobserve =>
    exact h.kept rfl (keepsWalk_observeTick.exec hobserve) (exec_elapses hobserve)
  | recovered hobserve hrecover =>
    have hr := ((keepsWalk_recoverIfScrubbed _).exec hrecover).trans
      (keepsWalk_observeTick.exec hobserve)
    have hw : Elapses _ _ := le_trans (exec_elapses hobserve) (exec_elapses hrecover)
    exact h.kept rfl ((retryAfterSwaps_of_frame (Daemon.settle_frame _ _)).trans hr) hw
  | @decided d d₁ d₂ d₃ w w₁ w₂ w₃ view action hobserve hrecover hdecide =>
    have hr := ((keepsWalk_recoverIfScrubbed _).exec hrecover).trans
      (keepsWalk_observeTick.exec hobserve)
    have hat := exec_observeTick_at hobserve
    have hw : view.at' ≤ w₃.clock :=
      le_trans hat.2 (le_trans (exec_elapses hrecover) (exec_elapses hdecide))
    have ho := (returns_decideAction d₂ view.active).exec hdecide
    have hsettled : DecisionOutcome d₂ view.at' view.active view.readings
        (action, d₃.settle action) := by
      have hsettle := retryAfterSwaps_of_frame (d₃.settle_frame action)
      rcases ho with ⟨hblind, hr⟩ | ⟨i, hi, ho⟩
      · exact .inl ⟨hblind, hsettle.trans hr⟩
      · apply Or.inr
        refine ⟨i, hi, ?_⟩
        cases ho with
        | stayed hblind hr =>
          apply BlindOutcome.stayed hblind
          rw [hsettle]
          exact hr
        | swapped hanchor harmed hpick hspeculative hr =>
          exact .swapped hanchor harmed hpick hspeculative (hsettle.trans hr)
    exact h.decided (x := ⟨d₂, view, action⟩) hr hat.1 hw hsettled
  | manualSwapped hx => exact h.kept rfl (keepsWalk_adoptManualSwap.exec hx) (exec_elapses hx)
  | swapRequested hx =>
    exact h.kept rfl ((keepsWalk_performSocketSwap _ _).exec hx) (exec_elapses hx)
  | reprobed hx => exact h.kept rfl (keepsWalk_reprobeActiveIfDead.exec hx) (exec_elapses hx)
  | restored hx => exact h.kept rfl ((keepsWalk_reconcileRestored _).exec hx) (exec_elapses hx)
  | swept restored observations =>
    have hrestored := Daemon.foldl_frame (fun d u => d.applyRefreshRestore_frame u) restored
    have hobserved := Daemon.foldl_frame (fun d o => d.applyRefreshObservation_frame o) observations
    exact h.kept rfl (retryAfterSwaps_of_frame ((hobserved _).trans (hrestored _))) (le_refl _)
  | reloaded newRoster intent =>
    exact h.kept rfl (reconcileRoster_retryAfterSwaps _ newRoster intent) (le_refl _)

theorem walkPaced_runs {tr : List Turn} {s s' : Daemon × World}
    (hrun : Runs (DaemonStep ((surroundings pid).under Elapses)) s tr s') : WalkPaced tr s' :=
  hrun.invariant ⟨paced_nil, covers_nil⟩ (fun _ _ _ _ h hs => walkPaced_step h hs)

omit [Sha256] in
/-- A swap on the server's word alone was not onto the only viable target. -/
theorem two_targets_of_alone {x : Decision} (hx : x.Taken) (halone : x.onRetryAfterAlone = true)
    {i target : ℕ} (haction : x.action = .preemptivelySwapped i target) :
    2 ≤ (x.blindTargets i).length := by
  obtain ⟨D, d', w, w', he⟩ := hx
  have ho := (returns_decideAction x.before x.view.active).exec he
  rcases ho with ⟨hblind, -⟩ | ⟨j, -, ho⟩
  · dsimp only at hblind
    rw [haction] at hblind
    cases hblind
  · generalize hres : (x.action, d') = res at ho
    cases ho with
    | stayed hblind _ =>
      obtain ⟨rfl, -⟩ := Prod.mk.inj hres
      rw [haction] at hblind
      cases hblind
    | @swapped anchor target' reason d'' hanchor harmed hpick hspeculative hr =>
      obtain ⟨haction', -⟩ := Prod.mk.inj hres
      obtain ⟨rfl, rfl⟩ := TickAction.preemptivelySwapped.inj (haction.symm.trans haction')
      have hband : x.before.anchorArmed i anchor = false := by
        unfold Decision.onRetryAfterAlone at halone
        rw [haction, hanchor] at halone
        simpa using halone
      have hne := (hspeculative (speculative_isSome harmed hband)).2
      have hiff := pickTarget_onlyCandidate_iff hpick
      exact not_lt.mp (fun hlt => hne (hiff.mpr hlt))

omit [Sha256] in
/-- What the anchor authorises is tried, unless a cooldown runs. -/
theorem action_of_authorised {x : Decision} (hx : x.Taken) {i target : ℕ}
    (ha : x.AnchorAuthorises i target) : x.action = .skippedCooldown ∨ x.action = .swapFailed ∨
      x.action = .preemptivelySwapped i target := by
  obtain ⟨D, d', w, w', he⟩ := hx
  obtain ⟨anchor, hanchor, harmed, hband⟩ := ha.anchored
  obtain ⟨reason, hpick⟩ := ha.picked
  have hblind := returns_blindSwap_anchored hanchor harmed hband ha.warmedUp hpick
  unfold decideAction at he
  rw [ha.active] at he
  obtain ⟨d₁, d₂, w₁, hget, he⟩ := exec_state_bind.mp he
  obtain ⟨hr, rfl⟩ := exec_pure_iff.mp hget
  cases hr
  rw [if_neg (by rw [ha.live]; exact Bool.false_ne_true), ha.unreadable] at he
  exact hblind.exec he

omit [SerdeJson] [Sha256] in
/-- A count forgets what is older than the window. -/
theorem count_forgets {D : Device Seams World} {at' : Nanos} {n : ℕ}
    (he : Exec D ((retryAfterWalkCount at').run d) w (n, d') w') :
    n = d'.retryAfterSwaps.length ∧
      ∀ s ∈ d'.retryAfterSwaps, saturatingDurationSince at' s < retryAfterWalkWindow := by
  obtain ⟨hn, rfl⟩ := (returns_retryAfterWalkCount d).exec he
  rw [pruneRetryAfterSwaps_eq]
  refine ⟨hn, ?_⟩
  intro s hs
  rw [← pruneRetryAfterSwaps_eq] at hs
  exact of_decide_eq_true (List.mem_filter.mp hs).2

/-- The throttle walk is bounded: in every run, whatever else goes on, no window holds more than
the allowed number of blind swaps on the server's word alone, none of them takes the only viable
target, no breaker stands in the way of a swap that the anchor authorises, and a count leaves no
instant older than the window on the record. -/
theorem throttle_walk_bounded (pid : ℕ) (s s' : Daemon × World) (tr : List Turn)
    (hrun : Runs (DaemonStep ((surroundings pid).under Elapses)) s tr s') :
    Paced retryAfterWalkWindow retryAfterWalkMax (retryAfterAloneSwaps tr) ∧
    (∀ x ∈ decisions tr, x.onRetryAfterAlone = true → ∀ i target,
      x.action = .preemptivelySwapped i target → 2 ≤ (x.blindTargets i).length) ∧
    (∀ x ∈ decisions tr, ∀ i target, x.AnchorAuthorises i target →
      x.action = .skippedCooldown ∨ x.action = .swapFailed ∨
        x.action = .preemptivelySwapped i target) ∧
    (∀ d w at' n d' w', Exec ((surroundings pid).under Elapses) ((retryAfterWalkCount at').run d) w
        (n, d') w' →
      n = d'.retryAfterSwaps.length ∧
        ∀ s ∈ d'.retryAfterSwaps, saturatingDurationSince at' s < retryAfterWalkWindow) := by
  have htaken := decisions_taken hrun
  refine ⟨(walkPaced_runs hrun).paced, ?_, ?_, ?_⟩
  · intro x hx halone i target haction
    exact two_targets_of_alone (htaken x hx) halone haction
  · intro x hx i target ha
    exact action_of_authorised (htaken x hx) ha
  · intro d w at' n d' w' he
    exact count_forgets he

end Run

section Sample

local instance walkJson : SerdeJson := sampleJson

local instance walkSha : Sha256 := ⟨fun _ => 0⟩

/-- The active account is told to wait and has a low anchor; two other accounts are viable. -/
def throttledDaemon : Daemon :=
  { sampleDaemon with
    warmedUp := true
    pollSchedule := [0]
    lastGood := some ⟨some (1 / 10), none, 0⟩
    accounts := fun i =>
      if i = 0 then
        { health := {
            pollBackoffUntil := some (secs 9000)
            pollBackoffRetryAfter := some (secs 600) } }
      else
        { lastReading := some ⟨some (1 / 10), some (1 / 10), none, none⟩
          lastReadingAt := some 0
          polledOnce := true } }

def throttledWorld : World := { sampleWorld ⟨[1]⟩ "A" with clock := secs 5000 }

theorem throttled_refines : (calmly 0).Refines ((surroundings 0).under Elapses) :=
  (calmly_refines 0).under (fun w => le_refl w.clock)

/-- A tick that fires such a swap is a run of the bound. -/
theorem throttle_walk_bounded_throttled : ∃ tr s',
    Runs (DaemonStep ((surroundings 0).under Elapses)) (throttledDaemon, throttledWorld) tr s' ∧
    retryAfterAloneSwaps tr = [secs 5000] ∧
    Paced retryAfterWalkWindow retryAfterWalkMax (retryAfterAloneSwaps tr) ∧
    ∀ x ∈ decisions tr, x.onRetryAfterAlone = true → ∀ i target,
      x.action = .preemptivelySwapped i target → 2 ≤ (x.blindTargets i).length := by
  let observed := run (calmly 0) (observeTick.run throttledDaemon) throttledWorld
  let view := observed.1.1.getD ⟨0, none, .unknown, fun _ => none⟩
  let recovered := run (calmly 0) ((recoverIfScrubbed view).run observed.1.2) observed.2
  let decided := run (calmly 0) ((decideAction view.at' view.active view.readings).run
    recovered.1.2) recovered.2
  have hview : observed.1.1 = some view := by
    have hsome : observed.1.1.isSome = true := by decide +kernel
    obtain ⟨v, hv⟩ := Option.isSome_iff_exists.mp hsome
    rw [hv, show view = v from by rw [show view = observed.1.1.getD _ from rfl, hv]; rfl]
  have hpair : observed.1 = (some view, observed.1.2) := Prod.fst_eq_iff.mp hview
  have hobserve : Exec ((surroundings 0).under Elapses) (observeTick.run throttledDaemon)
      throttledWorld observed.1 observed.2 := exec_of_run_eq throttled_refines rfl
  rw [hpair] at hobserve
  have hnone : recovered.1 = (none, recovered.1.2) := Prod.fst_eq_iff.mp (by decide +kernel)
  have hrecover : Exec ((surroundings 0).under Elapses) ((recoverIfScrubbed view).run observed.1.2)
      observed.2 recovered.1 recovered.2 := exec_of_run_eq throttled_refines rfl
  rw [hnone] at hrecover
  have haction : decided.1.1 = .preemptivelySwapped 0 1 := by decide +kernel
  have hpair' : decided.1 = (.preemptivelySwapped 0 1, decided.1.2) := Prod.fst_eq_iff.mp haction
  have hdecide : Exec ((surroundings 0).under Elapses)
      ((decideAction view.at' view.active view.readings).run recovered.1.2) recovered.2
      decided.1 decided.2 := exec_of_run_eq throttled_refines rfl
  rw [hpair'] at hdecide
  have halone : (⟨recovered.1.2, view, .preemptivelySwapped 0 1⟩ : Decision).onRetryAfterAlone =
      true := by decide +kernel
  have hat : view.at' = secs 5000 := by decide +kernel
  clear_value decided recovered view observed
  have hrun := runs_single (DaemonStep.decided hobserve hrecover hdecide)
  have hbounded := throttle_walk_bounded 0 _ _ _ hrun
  refine ⟨_, _, hrun, ?_, hbounded.1, hbounded.2.1⟩
  rw [retryAfterAloneSwaps_decided, halone, if_pos rfl]
  exact congrArg (fun t => [t]) hat

end Sample

end Sessiometer
