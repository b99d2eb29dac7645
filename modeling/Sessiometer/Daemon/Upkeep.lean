import Sessiometer.Daemon.WalkRules

/-! # Invariants of a tick

A tick is made of observations and of a few methods that write: the re-stash, the keep-warm
promotion, the swaps. An invariant of what the daemon knows and of what the stores hold is kept by
a tick when those few keep it. -/

namespace Sessiometer

open Effects

/-- What the daemon knows of the canonical item, and what it has reported of it. -/
structure Core where
  roster : List Account
  active : Option ℕ
  canonicalWatch : CanonicalWatch
  externalChanges : List Event

def Daemon.core (d : Daemon) : Core where
  roster := d.roster
  active := d.active
  canonicalWatch := d.canonicalWatch
  externalChanges := d.events.filter Event.isExternalChange

theorem core_of_frame {d d' : Daemon} (h : d'.frame = d.frame) : d'.core = d.core := by
  unfold Daemon.core
  rw [roster_of_frame h, active_of_frame h, watch_of_frame h, externalChanges_of_frame h]

theorem account_of_core {d d' : Daemon} (h : d'.core = d.core) (i : ℕ) :
    d'.account i = d.account i := by
  unfold Daemon.account
  rw [show d'.roster = d.roster from congrArg Core.roster h]

abbrev CoreInv := Core → Stores → Prop

/-- From any state that meets `J`, each operation of the method is guaranteed, and its result and
the state it leaves meet `K`. -/
def Ensures {α : Type} (D G : Device Seams World) (J : CoreInv) (K : α → CoreInv)
    (m : DaemonM α) : Prop :=
  ∀ d w, J d.core w.stores → wp D G (m.run d) w (fun r w' => K r.1 r.2.core w'.stores)

abbrev Preserves {α : Type} (D G : Device Seams World) (J : CoreInv) (m : DaemonM α) : Prop :=
  Ensures D G J (fun _ => J) m

section Rules

variable {α β : Type} {D G : Device Seams World} {J : CoreInv}

theorem Ensures.bind {M : α → CoreInv} {K : β → CoreInv} {m : DaemonM α} {f : α → DaemonM β}
    (hm : Ensures D G J M m) (hf : ∀ a, Ensures D G (M a) K (f a)) :
    Ensures D G J K (m >>= f) := by
  intro d w hJ
  rw [wp_state_bind]
  apply wp_mono (hm d w hJ)
  intro r w' hM
  exact hf r.1 r.2 w' hM

theorem ensures_pure {K : α → CoreInv} {a : α} (h : ∀ c t, J c t → K a c t) :
    Ensures D G J K (pure a : DaemonM α) :=
  fun d w hJ => h d.core w.stores hJ

theorem preserves_pure {a : α} : Preserves D G J (pure a : DaemonM α) :=
  ensures_pure (fun _ _ hJ => hJ)

theorem ensures_modify {K : PUnit → CoreInv} {f : Daemon → Daemon}
    (h : ∀ d t, J d.core t → K ⟨⟩ (f d).core t) : Ensures D G J K (modify f : DaemonM PUnit) :=
  fun d w hJ => h d w.stores hJ

theorem preserves_fold {f : Daemon → Daemon} (h : ∀ d, (f d).core = d.core) :
    Preserves D G J (modify f : DaemonM PUnit) := by
  apply ensures_modify
  intro d t hJ
  rw [h d]
  exact hJ

theorem preserves_fold_bind {K : β → CoreInv} {f : Daemon → Daemon} {g : PUnit → DaemonM β}
    (h : ∀ d, (f d).core = d.core) (hg : ∀ a, Ensures D G J K (g a)) :
    Ensures D G J K (modify f >>= g) :=
  (preserves_fold h).bind hg

/-- What the precondition implies may be used of it. -/
theorem ensures_assuming {P : Prop} {K : α → CoreInv} {m : DaemonM α} (hP : ∀ c t, J c t → P)
    (h : P → Ensures D G J K m) : Ensures D G J K m :=
  fun d w hJ => h (hP _ _ hJ) d w hJ

/-- A method that reads the state goes on knowing its core. -/
theorem ensures_get {K : β → CoreInv} {f : Daemon → DaemonM β}
    (hf : ∀ d, Ensures D G (fun c t => J c t ∧ c = d.core) K (f d)) :
    Ensures D G J K (get >>= f) := by
  intro d w hJ
  rw [wp_state_bind, wp_get]
  exact hf d d w ⟨hJ, rfl⟩

theorem Ensures.mono {K K' : α → CoreInv} {J' : CoreInv} {m : DaemonM α} (h : Ensures D G J K m)
    (hJ : ∀ c t, J' c t → J c t) (hK : ∀ a c t, K a c t → K' a c t) : Ensures D G J' K' m := by
  intro d w h'
  apply wp_mono (h d w (hJ _ _ h'))
  intro r w' hr
  exact hK _ _ _ hr

theorem ensures_map {K : α → CoreInv} {K' : β → CoreInv} {m : DaemonM α} {f : α → β}
    (h : Ensures D G J K m) (hK : ∀ a c t, K a c t → K' (f a) c t) :
    Ensures D G J K' (f <$> m) := by
  rw [map_eq_pure_bind]
  exact h.bind (fun a => ensures_pure (hK a))

end Rules

/-- What is asked of a device, a guarantee and an invariant for observations to keep them. -/
structure Upkeep (pid : ℕ) (D G : Device Seams World) (J : CoreInv) : Prop where
  device : ∀ o w r w', D o w r w' → surroundings pid o w r w'
  quiet : ∀ o w r w', o.isQuiet = true → D o w r w' → G o w r w'
  refresh : ∀ account w r w', D (.refresh account) w r w' →
    G (.refresh account) w r w' ∧ ∀ c, J c w.stores → J c w'.stores

namespace Upkeep

variable {α β : Type} {pid : ℕ} {D G : Device Seams World} {J : CoreInv}

/-- More may be asked of the core, as observations leave it alone. -/
theorem core (U : Upkeep pid D G J) (P : Core → Prop) :
    Upkeep pid D G (fun c t => J c t ∧ P c) where
  device := U.device
  quiet := U.quiet
  refresh := by
    intro account w r w' hd
    have h := U.refresh account w r w' hd
    exact ⟨h.1, fun c hc => ⟨h.2 c hc.1, hc.2⟩⟩

theorem observes (U : Upkeep pid D G J) {m : DaemonM α} (hm : Observes m) :
    Preserves D G J m := by
  intro d w hJ
  let R : World → World → Prop := fun w w' => ∀ c, J c w.stores → J c w'.stores
  have hstores : wp D G (m.run d) w (fun _ w' => R w w') := by
    apply wp_only (R := R) (hm.only d) (fun _ _ h => h) (fun h h' c hc => h' c (h c hc))
    intro o w r w' ho hd
    rcases Op.isObservation_cases ho with hq | ⟨account, rfl⟩
    · have hs := surroundings_quiet hq (U.device _ _ _ _ hd)
      refine ⟨U.quiet _ _ _ _ hq hd, ?_⟩
      intro c hc
      rw [hs.1]
      exact hc
    · exact U.refresh account w r w' hd
  apply wp_mono (wp_returns hstores (hm.keeps d))
  rintro r w' ⟨hR, hframe⟩
  rw [core_of_frame hframe]
  exact hR _ hJ

theorem observed (U : Upkeep pid D G J) {K : β → CoreInv} {m : DaemonM α} {f : α → DaemonM β}
    (hm : Observes m) (hf : ∀ a, Ensures D G J K (f a)) : Ensures D G J K (m >>= f) :=
  (U.observes hm).bind hf

theorem noted (U : Upkeep pid D G J) {K : β → CoreInv} {f : Daemon → Daemon}
    {g : PUnit → DaemonM β} (h : ∀ d, (f d).frame = d.frame) (hg : ∀ a, Ensures D G J K (g a)) :
    Ensures D G J K (modify f >>= g) :=
  U.observed (observes_modify h) hg

end Upkeep

/-! ## The poll and the keep-warm mints -/

section Warm

variable {pid : ℕ} {D G : Device Seams World} {J : CoreInv}

theorem observes_keepWarm (account : Account) (canonical : Credential) :
    Observes (StateT.lift (Prog.call (S := Seams) (.keepWarm account canonical)) : DaemonM _) :=
  observes_quiet (only_call rfl)

variable [SerdeJson]

/-- A mint keeps what its promotion keeps. -/
theorem preserves_keepWarmAndPromote (U : Upkeep pid D G J) {i : ℕ} {canonical : Credential}
    (hpromote : ∀ cred, Preserves D G J (promoteCanonical i cred)) (trigger : KeepWarmTrigger) :
    Preserves D G J (keepWarmAndPromote i canonical trigger) := by
  unfold keepWarmAndPromote
  split
  · exact preserves_pure
  · apply U.observed observes_clockNow
    intro now
    apply U.noted (fun d => d.setHealth_frame i _)
    intro _
    apply U.observed observes_get
    intro d
    split
    · exact preserves_pure
    · apply U.observed (observes_keepWarm _ canonical)
      intro minted
      apply U.noted (fun d => d.noteOwnCredentialRefresh_frame i)
      intro _
      apply U.observed (observes_emit rfl)
      intro _
      split
      · exact (hpromote _).bind (fun _ => preserves_pure)
      · exact preserves_pure

variable {canonical : Option Credential}

/-- What the mints for the canonical credential of this tick keep. -/
def WarmKeeps (D G : Device Seams World) (J : CoreInv) (canonical : Option Credential) : Prop :=
  ∀ c, canonical = some c → ∀ i trigger, Preserves D G J (keepWarmAndPromote i c trigger)

theorem preserves_pollResult (U : Upkeep pid D G J) (hwarm : WarmKeeps D G J canonical) (i : ℕ)
    (polled : Except Error Usage) : Preserves D G J (pollResult i canonical polled) := by
  unfold pollResult
  apply U.observed observes_get
  intro d
  split
  · apply U.observed (observes_refreshRetry i)
    intro result
    exact U.noted (fun d => d.noteOwnCredentialRefresh_frame i) (fun _ => preserves_pure)
  · split
    · unfold keepWarmRetry
      cases hc : canonical with
      | none => exact preserves_pure
      | some c =>
        apply U.observed observes_get
        intro d
        apply (hwarm c hc i .reactive).bind
        intro r
        split
        · exact U.observes (observes_poll _ true)
        · exact preserves_pure
    · exact preserves_pure

theorem preserves_pollAccount (U : Upkeep pid D G J) (hwarm : WarmKeeps D G J canonical) (i : ℕ)
    (active : Option ℕ) : Preserves D G J (pollAccount i active canonical) := by
  unfold pollAccount
  apply U.observed observes_get
  intro d
  apply U.observed (observes_poll _ _)
  intro polled
  apply (preserves_pollResult U hwarm i polled).bind
  intro result
  apply U.noted (fun d => d.notePollOutcome_frame i result)
  intro _
  apply U.observed (observes_noteAccountBackoff i _ result)
  intro _
  apply U.observed observes_clockNow
  intro now
  apply U.noted (fun d => d.noteReading_frame i active result now)
  intro _
  apply U.observed observes_wallClockNowSecs
  intro nowSecs
  apply U.noted (fun d => d.noteExhaustedPoll_frame i active now nowSecs)
  intro _
  apply U.observed (observes_readPollClocks _ _)
  rintro ⟨clocks, source⟩
  apply U.noted (fun d => d.setClocks_frame i clocks)
  intro _
  apply U.observed observes_wallClockNowSecs
  intro nowSecs
  apply U.noted (fun d => d.notePolledExpiry_frame i _ source nowSecs)
  intro _
  exact U.observes (observes_modify (fun d => d.notePolled_frame i))

theorem preserves_pollNext (U : Upkeep pid D G J) (hwarm : WarmKeeps D G J canonical)
    (active : Option ℕ) : Preserves D G J (pollNext active canonical) := by
  unfold pollNext
  apply U.observed observes_get
  intro d
  apply U.noted (fun d => d.nextPollIndex_frame active)
  intro _
  cases (d.nextPollIndex active).1 with
  | none => exact preserves_pure
  | some i =>
    apply U.observed (observes_accountBackingOff i)
    intro backingOff
    split
    · exact preserves_pure
    · apply U.observed (observes_exhaustedSlowPolling i active)
      intro slow
      split
      · exact preserves_pure
      · exact preserves_pollAccount U hwarm i active

theorem preserves_keepActiveWarm [Sha256] (U : Upkeep pid D G J)
    (hwarm : WarmKeeps D G J canonical) (active : Option ℕ) (nowMs : Int) :
    Preserves D G J (keepActiveWarm active canonical nowMs) := by
  unfold keepActiveWarm
  apply U.observed observes_get
  intro d
  split
  · next i c =>
    split
    · apply U.observed observes_clockNow
      intro now
      split
      · exact preserves_pure
      · exact (hwarm c rfl i .proactive).bind (fun _ => preserves_pure)
    · exact preserves_pure
  · exact preserves_pure

end Warm

/-! ## Observing -/

section Observe

variable {pid : ℕ} {D G : Device Seams World} {J M : CoreInv} {canonical : Option Credential}

/-- Where the resolution of the active account leads, what else the tick observes stays. -/
theorem ensures_observeReconciled [SerdeJson] [Sha256] (U : Upkeep pid D G J)
    (hresolve : Ensures D G M (fun _ => J) (resolveUnknownActive canonical))
    (hwarm : ∀ active, WarmKeeps D G (fun c t => J c t ∧ c.active = active) canonical)
    (at' : Nanos) (activeBefore : Option ℕ) (absent : Bool) :
    Ensures D G M (fun view c t => (J c t ∧ c.active = view.active) ∧
      view.liveness = canonicalLiveness canonical absent)
      (observeReconciled at' activeBefore canonical absent) := by
  unfold observeReconciled
  apply hresolve.bind
  intro _
  apply U.noted (fun d => d.settleActive_frame activeBefore)
  intro _
  apply ensures_get
  intro d
  have hpre : ∀ c t, J c t ∧ c = d.core → J c t ∧ c.active = d.active := by
    rintro c t ⟨hJ, rfl⟩
    exact ⟨hJ, rfl⟩
  have U' : Upkeep pid D G (fun c t => J c t ∧ c.active = d.active) :=
    U.core (fun c => c.active = d.active)
  refine Ensures.mono ?_ hpre (fun _ _ _ h => h)
  apply U'.observed (observes_noteActiveDesignation d.active)
  intro _
  apply U'.noted (fun d' => d'.noteCanonicalLiveness_frame _ d.active)
  intro _
  apply (preserves_pollNext U' (hwarm d.active) d.active).bind
  intro _
  apply U'.observed observes_clockNow
  intro observationNow
  apply U'.noted (fun d' => d'.noteObservationGap_frame d.active observationNow)
  intro _
  apply U'.observed observes_wallClockNowMs
  intro nowMs
  apply (preserves_keepActiveWarm U' (hwarm d.active) d.active nowMs).bind
  intro _
  apply U'.observed observes_get
  intro observed
  apply U'.noted (fun d' => d'.noteBlindGateEligibility_frame d.active _ at')
  intro _
  exact ensures_pure (fun c t h => ⟨h, rfl⟩)

/-- What a reconciliation leads to survives what else the tick observes. -/
theorem wp_observe [SerdeJson] [Sha256] (U : Upkeep pid D G J) {d : Daemon} {w : World}
    (hreconcile : wp D G ((reconcileIfRead canonical).run d.clearLockBackoff) w
      (fun r w' => M r.2.core w'.stores))
    (hresolve : Ensures D G M (fun _ => J) (resolveUnknownActive canonical))
    (hwarm : ∀ active, WarmKeeps D G (fun c t => J c t ∧ c.active = active) canonical)
    (at' : Nanos) (activeBefore : Option ℕ) (absent : Bool) :
    wp D G ((observe at' activeBefore canonical absent).run d) w
      (fun r w' => (J r.2.core w'.stores ∧ r.2.core.active = r.1.active) ∧
        r.1.liveness = canonicalLiveness canonical absent) := by
  unfold observe
  rw [wp_state_bind, wp_modify, wp_state_bind]
  apply wp_mono hreconcile
  rintro ⟨u, d₁⟩ w₁ hM
  exact ensures_observeReconciled U hresolve hwarm at' activeBefore absent d₁ w₁ hM

/-- A tick observes from the canonical item as it stands, or not at all. -/
theorem wp_observeTick [SerdeJson] [Sha256]
    (hdevice : ∀ o w r w', D o w r w' → surroundings pid o w r w')
    (hquiet : ∀ o w r w', o.isQuiet = true → D o w r w' → G o w r w') {d : Daemon} {w : World}
    {Q : Option TickView × Daemon → World → Prop}
    (hlocked : ∀ w', w'.stores = w.stores → Q (none, d.beginTick.lockedTick) w')
    (hobserve : ∀ at' canonical absent w', w'.stores = w.stores → w'.claudeJson = w.claudeJson →
      (∀ c, canonical = some c → w.stores.canonical = some c) →
      wp D G ((observe at' d.active canonical absent).run d.beginTick) w'
        (fun r w'' => Q (some r.1, r.2) w'')) : wp D G (observeTick.run d) w Q := by
  unfold observeTick
  rw [wp_state_bind, wp_modify, wp_state_bind]
  intro at' w₁ hd
  refine ⟨hquiet _ _ _ _ rfl hd, ?_⟩
  have hnow := hdevice _ _ _ _ hd
  have hw₁ : w₁ = { w with clock := at' } := hnow.2
  subst hw₁
  intro r w₂ hd
  refine ⟨hquiet _ _ _ _ rfl hd, ?_⟩
  obtain ⟨rfl, hr⟩ := hdevice _ _ _ _ hd
  have hmap : ∀ canonical absent, (∀ c, canonical = some c → w.stores.canonical = some c) →
      wp D G ((some <$> observe at' d.active canonical absent).run d.beginTick)
        { w with clock := at' } Q := by
    intro canonical absent hc
    rw [map_eq_pure_bind, wp_state_bind]
    exact hobserve at' canonical absent { w with clock := at' } rfl rfl hc
  have hnone : ∀ c, (none : Option Credential) = some c → w.stores.canonical = some c := by
    intro c hc
    cases hc
  change wp D G ((observeRead at' d.active r).run d.beginTick) { w with clock := at' } Q
  unfold observeRead
  split
  · exact hlocked _ rfl
  · next canonical =>
    apply hmap
    intro c hc
    cases hc
    exact hr
  · exact hmap none true hnone
  · exact hmap none false hnone

end Observe

/-! ## Deciding -/

section Decide

variable {pid : ℕ} {D G : Device Seams World} {J K : CoreInv}

/-- What a swap and its record lead to: a swap that fails leads to `K` too. -/
def SwapLeads [SerdeJson] (D G : Device Seams World) (J K : CoreInv) (d : Daemon)
    (i target : ℕ) (force : Bool) : Prop :=
  ∃ M : CoreInv, Ensures D G (fun c t => J c t ∧ c = d.core)
      (fun r => match r with
        | .ok _ => M
        | .error _ => K) (lockedSwap (d.account i).stash (d.account target).stash force) ∧
    ∀ at', Ensures D G M (fun _ => K) (recordSwap target (d.account target).stash at')

/-- What the adopt of a target and its record lead to: an adopt that fails keeps `J`. -/
def AdoptLeads (D G : Device Seams World) (J K : CoreInv) (d : Daemon) (target : ℕ) : Prop :=
  ∃ M : CoreInv, Ensures D G (fun c t => J c t ∧ c = d.core)
      (fun r => match r with
        | .ok _ => M
        | .error _ => J) (lockedAdopt (d.account target).stash) ∧
    ∀ at', Ensures D G M (fun _ => K) (recordSwap target (d.account target).stash at')

/-- A swap, its record, and what is noted of it. -/
theorem SwapLeads.bind [SerdeJson] {β : Type} {d : Daemon} {i target : ℕ} {force : Bool}
    (h : SwapLeads D G J K d i target force) {f : Except Error SwapReport → DaemonM β} {b : Error → β}
    {at' : Nanos} {g : Unit → DaemonM β} (herror : ∀ e, f (.error e) = pure (b e))
    (hok : ∀ report, f (.ok report) = (recordSwap target (d.account target).stash at' >>= g))
    (hg : ∀ u, Preserves D G K (g u)) :
    Ensures D G (fun c t => J c t ∧ c = d.core) (fun _ => K)
      (lockedSwap (d.account i).stash (d.account target).stash force >>= f) := by
  obtain ⟨M, hlocked, hrecord⟩ := h
  apply hlocked.bind
  intro r
  cases r with
  | error e =>
    rw [herror]
    exact preserves_pure
  | ok report =>
    rw [hok]
    exact (hrecord at').bind hg

/-- A target that a selection may name: another account of the roster. -/
structure Eligible (d : Daemon) (i target : ℕ) : Prop where
  other : target ≠ i
  listed : target < d.roster.length

theorem eligible_of_reason {d : Daemon} {i target : ℕ} {readings : ℕ → Option Usage}
    {floor sessionCeiling : Option ℚ} {weeklyCeiling : ℚ} {reason : NextSwapReason}
    (h : pickTargetWithReasonRanked d.roster.length i readings d.enabledMask floor sessionCeiling
      weeklyCeiling d.selectionTiebreak = some (target, reason)) : Eligible d i target := by
  obtain ⟨usage, hlt, -, hv⟩ := pickTarget_viable h
  unfold isViable at hv
  simp only [Bool.and_eq_true, bne_iff_ne] at hv
  exact ⟨hv.1.1.1.1, hlt⟩

theorem eligible_of_pickRanked {d : Daemon} {i target : ℕ} {readings : ℕ → Option Usage}
    {floor sessionCeiling : Option ℚ} {weeklyCeiling : ℚ}
    (h : d.pickRanked i readings floor sessionCeiling weeklyCeiling = some target) :
    Eligible d i target := by
  unfold Daemon.pickRanked pickTargetRanked at h
  obtain ⟨⟨target', reason⟩, hp, rfl⟩ := Option.map_eq_some_iff.mp h
  exact eligible_of_reason hp

section Swapping

variable [SerdeJson] (U : Upkeep pid D G J) (hJK : ∀ c t, J c t → K c t) {at' : Nanos} {i : ℕ}
  {readings : ℕ → Option Usage}
  (hswap : ∀ d target, Eligible d i target → SwapLeads D G J K d i target false)

include U hJK hswap

theorem ensures_emergencySwap :
    Ensures D G J (fun _ => K) (emergencySwap at' i readings) := by
  unfold emergencySwap
  apply ensures_get
  intro d
  have U' : Upkeep pid D G (fun c t => J c t ∧ c = d.core) := U.core (fun c => c = d.core)
  have hstay : ∀ a : TickAction, Ensures D G (fun c t => J c t ∧ c = d.core) (fun _ => K) (pure a) :=
    fun a => ensures_pure (fun c t h => hJK c t h.1)
  apply U'.observed (observes_draw _ _ _)
  intro drawn
  dsimp only
  split
  · split
    · apply U'.observed (observes_emit rfl)
      intro _
      exact preserves_fold_bind (fun _ => rfl) (fun _ => hstay _)
    · exact hstay _
  · next target hpick =>
    refine (hswap d target (eligible_of_pickRanked hpick)).bind (fun _ => rfl) (fun _ => rfl) ?_
    intro _
    exact preserves_fold_bind (fun d => core_of_frame (d.emit_frame rfl)) (fun _ => preserves_pure)

theorem ensures_velocitySwap (sessionCeiling weeklyThreshold : ℚ) : Ensures D G J (fun _ => K)
    (velocitySwap at' i sessionCeiling weeklyThreshold readings) := by
  unfold velocitySwap
  apply ensures_get
  intro d
  have U' : Upkeep pid D G (fun c t => J c t ∧ c = d.core) := U.core (fun c => c = d.core)
  have hstay : ∀ a : TickAction, Ensures D G (fun c t => J c t ∧ c = d.core) (fun _ => K) (pure a) :=
    fun a => ensures_pure (fun c t h => hJK c t h.1)
  dsimp only
  split
  · exact hstay _
  · split
    · split
      · exact hstay _
      · split
        · exact hstay _
        · split
          · exact hstay _
          · apply U'.observed observes_drawCooldown
            intro cooldown
            split
            · exact hstay _
            · split
              · exact hstay _
              · next target hpick =>
                refine (hswap d target (eligible_of_pickRanked hpick)).bind (fun _ => rfl) (fun _ => rfl) ?_
                intro _
                exact preserves_fold_bind (fun d => core_of_frame (d.emit_frame rfl))
                  (fun _ => preserves_pure)
    · exact hstay _

theorem ensures_reactiveSwap (activeUsage : Usage) (sessionCeiling weeklyCeiling : ℚ) :
    Ensures D G J (fun _ => K)
      (reactiveSwap at' i activeUsage sessionCeiling weeklyCeiling readings) := by
  unfold reactiveSwap
  apply ensures_get
  intro d
  have U' : Upkeep pid D G (fun c t => J c t ∧ c = d.core) := U.core (fun c => c = d.core)
  have hstay : ∀ a : TickAction, Ensures D G (fun c t => J c t ∧ c = d.core) (fun _ => K) (pure a) :=
    fun a => ensures_pure (fun c t h => hJK c t h.1)
  dsimp only
  split
  · exact hstay _
  · apply U'.observed observes_drawCooldown
    intro cooldown
    split
    · exact hstay _
    · split
      · split
        · apply U'.observed (observes_emit rfl)
          intro _
          exact preserves_fold_bind (fun _ => rfl) (fun _ => hstay _)
        · exact hstay _
      · next target hpick =>
        refine (hswap d target (eligible_of_pickRanked hpick)).bind (fun _ => rfl) (fun _ => rfl) ?_
        intro _
        apply preserves_fold_bind (fun d => core_of_frame (d.emit_frame rfl))
        intro _
        split
        · exact preserves_fold_bind (fun d => core_of_frame (d.setAccount_frame i _))
            (fun _ => preserves_pure)
        · exact preserves_pure

omit hJK hswap [SerdeJson] in
theorem preserves_walkBreaker (speculative : Option Nanos) :
    Preserves D G J (walkBreaker at' i speculative) := by
  unfold walkBreaker retryAfterWalkCount
  apply Ensures.bind (M := fun _ => J)
  · refine preserves_fold_bind (fun _ => rfl) ?_
    intro _
    exact U.observed observes_get (fun _ => preserves_pure)
  · intro swaps
    split
    · exact preserves_pure
    · split
      · apply U.observed observes_get
        intro d
        split
        · apply U.observed (observes_emit rfl)
          intro _
          exact preserves_fold_bind (fun _ => rfl) (fun _ => preserves_pure)
        · exact preserves_pure
      · exact preserves_pure

omit U hJK in
theorem ensures_performBlindSwap {d : Daemon} {target : ℕ} (he : Eligible d i target)
    (anchor : LastGood) (retryAfter : Option Nanos) :
    Ensures D G (fun c t => J c t ∧ c = d.core) (fun _ => K)
      (performBlindSwap at' i target anchor retryAfter) := by
  unfold performBlindSwap
  apply ensures_get
  intro d'
  apply ensures_assuming (P := d'.core = d.core)
  · rintro c t ⟨⟨-, rfl⟩, h⟩
    exact h.symm
  · intro hcore
    have he' : Eligible d' i target := by
      refine ⟨he.other, ?_⟩
      rw [show d'.roster = d.roster from congrArg Core.roster hcore]
      exact he.listed
    have hpre : ∀ c t, (J c t ∧ c = d.core) ∧ c = d'.core → J c t ∧ c = d'.core :=
      fun c t h => ⟨h.1.1, h.2⟩
    refine Ensures.mono ?_ hpre (fun _ _ _ h => h)
    refine (hswap d' target he').bind (fun _ => rfl) (fun _ => rfl) ?_
    intro _
    apply preserves_fold_bind (fun d => core_of_frame (d.emit_frame rfl))
    intro _
    refine preserves_fold_bind (fun _ => rfl) ?_
    intro _
    split
    · exact preserves_fold_bind (fun _ => rfl) (fun _ => preserves_pure)
    · exact preserves_pure

theorem ensures_blindSwap : Ensures D G J (fun _ => K) (blindSwap at' i readings) := by
  unfold blindSwap
  apply ensures_get
  intro d
  have U' : Upkeep pid D G (fun c t => J c t ∧ c = d.core) := U.core (fun c => c = d.core)
  have hstay : ∀ a : TickAction, Ensures D G (fun c t => J c t ∧ c = d.core) (fun _ => K) (pure a) :=
    fun a => ensures_pure (fun c t h => hJK c t h.1)
  split
  · exact hstay _
  · next anchor hanchor =>
    split
    · exact hstay _
    · split
      · exact hstay _
      · apply U'.observed observes_drawCooldown
        intro cooldown
        split
        · exact hstay _
        · apply (preserves_walkBreaker U' _).bind
          intro walk
          split
          · exact hstay _
          · split
            · exact hstay _
            · next target reason hpick =>
              apply U'.observed (observes_reserveBreaker i _ reason _)
              intro reserve
              split
              · exact hstay _
              · exact ensures_performBlindSwap hswap (eligible_of_reason hpick) anchor _

theorem ensures_decideReadable (activeUsage : Usage) (sessionCeiling weeklyCeiling : ℚ) :
    Ensures D G J (fun _ => K)
      (decideReadable at' i activeUsage sessionCeiling weeklyCeiling readings) := by
  unfold decideReadable
  apply U.observed observes_get
  intro d
  dsimp only
  split
  · exact ensures_velocitySwap U hJK hswap _ _
  · exact ensures_reactiveSwap U hJK hswap _ _ _

end Swapping

/-- A decision leads from `J` to `K` when the swaps out of the active account do. -/
theorem ensures_decideAction [SerdeJson] (U : Upkeep pid D G J) (hJK : ∀ c t, J c t → K c t)
    {active : Option ℕ} {readings : ℕ → Option Usage}
    (hswap : ∀ i, active = some i → ∀ d target, Eligible d i target →
      SwapLeads D G J K d i target false) (at' : Nanos) :
    Ensures D G J (fun _ => K) (decideAction at' active readings) := by
  have hstay : ∀ a : TickAction, Ensures D G J (fun _ => K) (pure a) :=
    fun a => ensures_pure hJK
  unfold decideAction
  cases active with
  | none => exact hstay _
  | some i =>
    have hswap' := hswap i rfl
    apply U.observed observes_get
    intro d
    dsimp only
    split
    · split
      · exact ensures_emergencySwap U hJK hswap'
      · exact hstay _
    · split
      · exact ensures_blindSwap U hJK hswap'
      · refine preserves_fold_bind (fun _ => rfl) ?_
        intro _
        apply U.observed (observes_drawDownward _ _ _)
        intro sessionPct
        apply U.observed (observes_drawDownward _ _ _)
        intro weeklyPct
        exact ensures_decideReadable U hJK hswap' _ _ _

/-- A recovery of a cleared item leads from `J` to `K` when the adopt of a target does; without a
target `J` still holds. -/
theorem ensures_recoverScrubbedCanonical (U : Upkeep pid D G J) {active : Option ℕ}
    (hadopt : ∀ d target, target < d.roster.length → AdoptLeads D G J K d target)
    (readings : ℕ → Option Usage) (at' : Nanos) :
    Ensures D G J (fun r => if r.isSome then K else J)
      (recoverScrubbedCanonical active readings at') := by
  have hstay : ∀ J' : CoreInv, (∀ c t, J' c t → J c t) → Ensures D G J'
      (fun r => if r.isSome then K else J) (pure (none : Option TickAction)) :=
    fun J' h => ensures_pure h
  unfold recoverScrubbedCanonical
  apply U.noted (fun d => d.rollScrubAdoptWindow_frame at')
  intro _
  apply ensures_get
  intro d
  have U' : Upkeep pid D G (fun c t => J c t ∧ c = d.core) := U.core (fun c => c = d.core)
  split
  · apply U'.noted (fun d => d.noteScrubAdoptExhausted_frame active)
    intro _
    exact hstay _ (fun c t h => h.1)
  · apply U'.observed (observes_draw _ _ _)
    intro drawn
    split
    · exact hstay _ (fun c t h => h.1)
    · next target hpick =>
      obtain ⟨M, hlocked, hrecord⟩ := hadopt d target (eligible_of_pickRanked hpick).listed
      apply hlocked.bind
      intro r
      cases r with
      | error e => exact hstay _ (fun c t h => h)
      | ok report =>
        apply (hrecord at').bind
        intro _
        apply preserves_fold_bind (fun d => core_of_frame (d.scrubAdopted_frame target at'))
        intro _
        exact ensures_pure (fun c t h => h)

theorem ensures_recoverIfScrubbed (U : Upkeep pid D G J) {view : TickView}
    (hadopt : ∀ d target, target < d.roster.length → AdoptLeads D G J K d target) :
    Ensures D G J (fun r => if r.isSome then K else J) (recoverIfScrubbed view) := by
  unfold recoverIfScrubbed
  split
  · exact ensures_recoverScrubbedCanonical U hadopt _ _
  · exact ensures_pure (fun c t h => h)

theorem ensures_decideTick [SerdeJson] (U : Upkeep pid D G J) (hJK : ∀ c t, J c t → K c t)
    {view : TickView}
    (hadopt : ∀ d target, target < d.roster.length → AdoptLeads D G J K d target)
    (hswap : ∀ i, view.active = some i → ∀ d target, Eligible d i target →
      SwapLeads D G J K d i target false) :
    Ensures D G J (fun _ => K) (decideTick view) := by
  unfold decideTick
  apply (ensures_recoverIfScrubbed U hadopt).bind
  intro r
  cases r with
  | some recovered => exact preserves_pure
  | none => exact ensures_decideAction U hJK hswap _

end Decide

end Sessiometer
