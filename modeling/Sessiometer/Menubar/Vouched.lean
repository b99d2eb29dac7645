import Sessiometer.Menubar.Timers

namespace Sessiometer.Menubar

open HonestStateMachine

namespace HonestStateMachine

/-- The connection the machine follows is open, silent or not. -/
def Liveness.isOpen : Liveness → Bool
  | .live | .stale => true
  | _ => false

/-- A connection was held and lost. -/
def Liveness.isDropped : Liveness → Bool
  | .reconnecting _ | .disconnected _ => true
  | _ => false

end HonestStateMachine

/-! ## Histories -/

namespace Heard

def isStaleness : Heard → Bool
  | .told .stale => true
  | .elapsed .validFrameWatchdog => true
  | _ => false

variable [JsonDecoder]

def isValidFrame : Heard → Bool
  | .told (.line text) => validFrame (parseWatchFrame text)
  | _ => false

/-- The class an entry settles. -/
def verdict : Heard → Option SnapshotClass
  | .told (.line text) => HonestStateMachine.verdict (parseWatchFrame text)
  | _ => none

end Heard

/-- What has been heard since the newest connection was made, newest first. -/
def thisConnection (heard : List Heard) : List Heard :=
  heard.takeWhile fun entry => entry ≠ .told .connected

/-- An established connection was lost. -/
def Lost (heard : List Heard) : Prop :=
  ∃ later reason earlier, heard = later ++ .told (.disconnected reason) :: earlier ∧
    .told .connected ∈ earlier

variable [JsonDecoder]

/-- Each staleness has been followed by a valid frame. -/
def Followed (heard : List Heard) : Prop :=
  ∀ later staleness earlier, heard = later ++ staleness :: earlier →
    staleness.isStaleness = true → ∃ frame ∈ later, frame.isValidFrame = true

/-- The last snapshot that decoded is supported and has accounts, and no unsupported frame has
followed it. -/
def Standing (connection : List Heard) : Prop :=
  ∃ later text earlier status, connection = later ++ .told (.line text) :: earlier ∧
    decodedSnapshot (parseWatchFrame text) = some status ∧ status.isSchemaSupported = true ∧
    status.accounts ≠ [] ∧
    ∀ other, .told (.line other) ∈ later →
      decodedSnapshot (parseWatchFrame other) = none ∧
      unsupportedFrame (parseWatchFrame other) = false

/-- What the one healthy state must have earned. -/
structure Earned (heard : List Heard) : Prop where
  connected : .told .connected ∈ heard
  open' : ∀ reason, .told (.disconnected reason) ∉ thisConnection heard
  standing : Standing (thisConnection heard)
  followed : Followed heard
  stabilized : Lost heard → .elapsed .stability ∈ thisConnection heard

/-! ### Lists -/

/-- The class the newest verdict of a connection leaves. -/
def classOf (connection : List Heard) : SnapshotClass :=
  (connection.findSome? Heard.verdict).getD .none

theorem classOf_cons (entry : Heard) (connection : List Heard) :
    classOf (entry :: connection) = entry.verdict.getD (classOf connection) := by
  cases hv : entry.verdict <;> simp [classOf, hv]

omit [JsonDecoder] in
theorem thisConnection_connected (heard : List Heard) :
    thisConnection (.told .connected :: heard) = [] := by
  simp [thisConnection]

omit [JsonDecoder] in
theorem thisConnection_cons (entry : Heard) (h : entry ≠ .told .connected)
    (heard : List Heard) : thisConnection (entry :: heard) = entry :: thisConnection heard := by
  simp [thisConnection, h]

omit [JsonDecoder] in
theorem lost_cons {entry : Heard} {heard : List Heard} (h : Lost (entry :: heard)) :
    Lost heard ∨ (∃ reason, entry = .told (.disconnected reason)) ∧ .told .connected ∈ heard := by
  obtain ⟨later, reason, earlier, heq, hc⟩ := h
  cases later with
  | nil =>
    simp only [List.nil_append, List.cons.injEq] at heq
    exact .inr ⟨⟨reason, heq.1⟩, heq.2 ▸ hc⟩
  | cons first later =>
    simp only [List.cons_append, List.cons.injEq] at heq
    exact .inl ⟨later, reason, earlier, heq.2, hc⟩

theorem followed_cons {entry : Heard} {heard : List Heard} (hentry : entry.isStaleness = false)
    (h : entry.isValidFrame = true ∨ Followed heard) : Followed (entry :: heard) := by
  intro later staleness earlier heq hs
  cases later with
  | nil =>
    simp only [List.nil_append, List.cons.injEq] at heq
    rw [heq.1, hs] at hentry
    exact absurd hentry (by simp)
  | cons first later =>
    simp only [List.cons_append, List.cons.injEq] at heq
    obtain ⟨rfl, rfl⟩ := heq
    rcases h with hvalid | hfollowed
    · exact ⟨entry, by simp, hvalid⟩
    · obtain ⟨frame, hmem, hframe⟩ := hfollowed later staleness earlier rfl hs
      exact ⟨frame, List.mem_cons_of_mem _ hmem, hframe⟩

/-- The class is healthy only under a standing snapshot. -/
theorem standing_of_classOf {connection : List Heard} (h : classOf connection = .healthy) :
    Standing connection := by
  have hsome : connection.findSome? Heard.verdict = some .healthy := by
    cases hf : connection.findSome? Heard.verdict with
    | none => simp [classOf, hf] at h
    | some c => simpa [classOf, hf] using h
  obtain ⟨later, entry, earlier, rfl, hentry, hlater⟩ := List.findSome?_eq_some_iff.1 hsome
  cases entry with
  | told event =>
    cases event with
    | line text =>
      obtain ⟨status, hstatus, hsupported, hne⟩ := verdict_eq_healthy hentry
      refine ⟨later, text, earlier, status, rfl, hstatus, hsupported, hne, ?_⟩
      intro other hother
      exact verdict_eq_none.1 (hlater _ hother)
    | _ => simp [Heard.verdict] at hentry
  | _ => simp [Heard.verdict] at hentry

/-! ## The invariant of the two machines together -/

/-- What the machine's flags know of the history, whatever the transport's counters are. -/
structure Vouches (state : WatchStateMachine.State) (m : HonestStateMachine)
    (heard : List Heard) : Prop where
  heldEver : m.hasEverConnected = true ↔ .told .connected ∈ heard
  linked : state ≠ .stopped → m.liveness.isOpen = state.isConnected
  open' : m.liveness.isOpen = true → m.hasEverConnected = true ∧
    ∀ reason, .told (.disconnected reason) ∉ thisConnection heard
  dropped : m.liveness.isDropped = true → m.hasEverDisconnected = true
  classified : m.liveness.isOpen = true → m.snapshotClass = classOf (thisConnection heard)
  followed : m.liveness = .live → m.snapshotClass ≠ .none → Followed heard
  lost : Lost heard → m.hasEverDisconnected = true
  stabilized : m.liveness.isOpen = true → m.stabilizedThisConnection = true →
    .elapsed .stability ∈ thisConnection heard

theorem vouches_init : Vouches .idle .init [] := by
  constructor
  · simp [HonestStateMachine.init]
  · intro _
    rfl
  · intro h
    simp [HonestStateMachine.init, Liveness.isOpen] at h
  · intro h
    simp [HonestStateMachine.init, Liveness.isDropped] at h
  · intro h
    simp [HonestStateMachine.init, Liveness.isOpen] at h
  · intro h
    simp [HonestStateMachine.init] at h
  · rintro ⟨later, reason, earlier, heq, _⟩
    simp at heq
  · intro h
    simp [HonestStateMachine.init, Liveness.isOpen] at h

/-- The tokens carry none of it. -/
theorem vouches_retime {state : WatchStateMachine.State} {before after : HonestStateMachine}
    {heard : List Heard} (h : Vouches state after heard) :
    Vouches state (before.retime after) heard :=
  ⟨h.heldEver, h.linked, h.open', h.dropped, h.classified, h.followed, h.lost, h.stabilized⟩

theorem vouches_connected {state : WatchStateMachine.State} {m : HonestStateMachine}
    {heard : List Heard} (h : Vouches state m heard) :
    Vouches (.connected false) (m.fold .connected).1 (.told .connected :: heard) := by
  constructor
  · simp [fold]
  · intro _
    rfl
  · intro _
    simp [fold, thisConnection_connected]
  · intro hd
    simp [fold, Liveness.isDropped] at hd
  · intro _
    simp [fold, thisConnection_connected, classOf]
  · intro _ hne
    simp [fold] at hne
  · intro hlost
    rcases lost_cons hlost with hlost | ⟨⟨reason, heq⟩, _⟩
    · exact h.lost hlost
    · simp at heq
  · intro _ hs
    simp [fold] at hs

theorem vouches_disconnected {state : WatchStateMachine.State} {m : HonestStateMachine}
    {heard : List Heard} (h : Vouches state m heard) (reason : String) :
    Vouches .backingOff (m.fold (.disconnected reason)).1
      (.told (.disconnected reason) :: heard) := by
  have hever : (m.dropped reason).hasEverConnected = m.hasEverConnected := by
    unfold HonestStateMachine.dropped
    split
    · split <;> rfl
    · split <;> rfl
  have hclosed : (m.dropped reason).liveness.isOpen = false := by
    unfold HonestStateMachine.dropped
    split
    · split <;> simp_all [Liveness.isOpen]
    · split <;> simp_all [Liveness.isOpen]
  have hwarm : m.hasEverConnected = true ∨ (m.dropped reason).liveness.isDropped = true →
      (m.dropped reason).hasEverDisconnected = true := by
    intro hw
    unfold HonestStateMachine.dropped at hw ⊢
    by_cases hc : m.hasEverConnected = true
    · rw [if_pos hc]
      split
      · rename_i hl
        exact h.dropped (by simp [hl, Liveness.isDropped])
      · rename_i hl
        exact h.dropped (by simp [hl, Liveness.isDropped])
      · rfl
    · rw [if_neg hc] at hw ⊢
      split at hw <;> simp_all [Liveness.isDropped]
  have hkeeps : m.hasEverDisconnected = true → (m.dropped reason).hasEverDisconnected = true := by
    intro hd
    unfold HonestStateMachine.dropped
    split
    · split <;> simp_all
    · split <;> simp_all
  have hfold : (m.fold (.disconnected reason)).1 = m.dropped reason := rfl
  rw [hfold]
  constructor
  · rw [hever, h.heldEver]
    simp
  · intro _
    rw [hclosed]
    rfl
  · intro ho
    rw [hclosed] at ho
    exact absurd ho (by simp)
  · intro hd
    exact hwarm (.inr hd)
  · intro ho
    rw [hclosed] at ho
    exact absurd ho (by simp)
  · intro hl
    rw [hl] at hclosed
    simp [Liveness.isOpen] at hclosed
  · intro hlost
    rcases lost_cons hlost with hlost | ⟨_, hc⟩
    · exact hkeeps (h.lost hlost)
    · exact hwarm (.inl (h.heldEver.2 hc))
  · intro ho
    rw [hclosed] at ho
    exact absurd ho (by simp)

theorem vouches_stale {m : HonestStateMachine} {heard : List Heard} {stale : Bool}
    (h : Vouches (.connected stale) m heard) :
    Vouches (.connected true) (m.fold .stale).1 (.told .stale :: heard) := by
  have hopen : m.liveness.isOpen = true := by
    rw [h.linked (by simp)]
    rfl
  have hconn := thisConnection_cons (.told .stale) (by simp) heard
  constructor
  · simp [fold, h.heldEver]
  · intro _
    rfl
  · intro _
    refine ⟨(h.open' hopen).1, ?_⟩
    rw [hconn]
    simpa using (h.open' hopen).2
  · intro hd
    simp [fold, Liveness.isDropped] at hd
  · intro _
    rw [hconn]
    simpa [fold, classOf_cons, Heard.verdict] using h.classified hopen
  · intro hl
    simp [fold] at hl
  · intro hlost
    rcases lost_cons hlost with hlost | ⟨⟨reason, heq⟩, _⟩
    · exact h.lost hlost
    · simp at heq
  · intro _ hs
    rw [hconn]
    exact List.mem_cons_of_mem _ (h.stabilized hopen hs)

theorem vouches_line {m : HonestStateMachine} {heard : List Heard} {stale : Bool}
    (h : Vouches (.connected stale) m heard) (text : String) :
    Vouches (.connected false) (m.fold (.line text)).1 (.told (.line text) :: heard) := by
  have hopen : m.liveness.isOpen = true := by
    rw [h.linked (by simp)]
    rfl
  have hever := (h.open' hopen).1
  have hconn := thisConnection_cons (.told (.line text)) (by simp) heard
  obtain ⟨generatedAt, hline⟩ := m.fold_line text
  have hopen' : (m.fold (.line text)).1.liveness.isOpen = true := by
    rw [hline]
    by_cases hv : validFrame (parseWatchFrame text)
    · simp [hv, Liveness.isOpen]
    · simp [hv, hopen]
  constructor
  · rw [hline]
    simp [hever, h.heldEver.1 hever]
  · intro _
    rw [hopen']
    rfl
  · intro _
    rw [hline, hconn]
    refine ⟨by simp [hever], ?_⟩
    simpa using (h.open' hopen).2
  · intro hd
    cases hl : (m.fold (.line text)).1.liveness <;>
      simp [hl, Liveness.isOpen, Liveness.isDropped] at hopen' hd
  · intro _
    rw [hline, hconn]
    simp [classOf_cons, Heard.verdict, h.classified hopen]
  · intro hl hne
    rw [hline] at hl hne
    refine followed_cons rfl ?_
    by_cases hv : validFrame (parseWatchFrame text) = true
    · exact .inl hv
    · right
      have hkeeps : verdict (parseWatchFrame text) = none := by
        cases hframe : parseWatchFrame text with
        | error e => rfl
        | ok frame => cases frame <;> simp_all [validFrame, verdict]
      simp only [hv, Bool.false_eq_true, if_false] at hl
      exact h.followed hl (by simpa [hkeeps] using hne)
  · intro hlost
    rw [hline]
    rcases lost_cons hlost with hlost | ⟨⟨reason, heq⟩, _⟩
    · exact h.lost hlost
    · simp at heq
  · intro _ hs
    rw [hline] at hs
    rw [hconn]
    exact List.mem_cons_of_mem _ (h.stabilized hopen hs)

/-- An entry that is neither told nor a staleness is beside the point of every field. -/
theorem vouches_aside {state state' : WatchStateMachine.State} {m : HonestStateMachine}
    {heard : List Heard} (entry : Heard) (h : Vouches state m heard)
    (hstate : state' = state ∨ state' = .stopped)
    (htold : ∀ event, entry ≠ .told event) (hentry : entry.isStaleness = false) :
    Vouches state' m (entry :: heard) := by
  have hconn := thisConnection_cons entry (htold _) heard
  constructor
  · rw [h.heldEver]
    have := (htold .connected).symm
    simp [this]
  · intro hne
    rcases hstate with rfl | rfl
    · exact h.linked hne
    · exact absurd rfl hne
  · intro ho
    refine ⟨(h.open' ho).1, ?_⟩
    intro reason
    rw [hconn]
    have := (htold (.disconnected reason)).symm
    simp [this, (h.open' ho).2 reason]
  · exact h.dropped
  · intro ho
    have hskip : entry.verdict = none := by
      cases entry with
      | told event => exact absurd rfl (htold event)
      | _ => rfl
    simp [hconn, classOf_cons, hskip, h.classified ho]
  · intro hl hne
    exact followed_cons hentry (.inr (h.followed hl hne))
  · intro hlost
    rcases lost_cons hlost with hlost | ⟨⟨reason, heq⟩, _⟩
    · exact h.lost hlost
    · exact absurd heq (htold _)
  · intro ho hs
    rw [hconn]
    exact List.mem_cons_of_mem _ (h.stabilized ho hs)

/-- A step of the transport that tells the store nothing. -/
theorem vouches_quiet {state state' : WatchStateMachine.State} {m : HonestStateMachine}
    {heard : List Heard} (h : Vouches state m heard)
    (hstate : state ≠ .stopped ∧ state'.isConnected = state.isConnected ∨ state' = .stopped) :
    Vouches state' m heard := by
  refine ⟨h.heldEver, ?_, h.open', h.dropped, h.classified, h.followed, h.lost, h.stabilized⟩
  intro hne
  rcases hstate with ⟨hrunning, hsame⟩ | hstopped
  · rw [hsame]
    exact h.linked hrunning
  · exact absurd hstopped hne

/-- A closed connection stays closed: only how its loss is told apart changes. -/
theorem vouches_closed {state : WatchStateMachine.State} {m m' : HonestStateMachine}
    {heard : List Heard} (h : Vouches state m heard) (hclosed : m.liveness.isOpen = false)
    (hclosed' : m'.liveness.isOpen = false)
    (hdropped : m'.liveness.isDropped = true → m.liveness.isDropped = true)
    (hever : m'.hasEverConnected = m.hasEverConnected)
    (hlost : m'.hasEverDisconnected = m.hasEverDisconnected) : Vouches state m' heard := by
  have hno : m'.liveness.isOpen = true → False := by simp [hclosed']
  constructor
  · rw [hever]
    exact h.heldEver
  · intro hne
    rw [hclosed', ← hclosed]
    exact h.linked hne
  · intro ho
    exact (hno ho).elim
  · intro hd
    rw [hlost]
    exact h.dropped (hdropped hd)
  · intro ho
    exact (hno ho).elim
  · intro hl
    exact (hno (by simp [hl, Liveness.isOpen])).elim
  · intro hl
    rw [hlost]
    exact h.lost hl
  · intro ho
    exact (hno ho).elim

theorem vouches_watchdogElapsed {state : WatchStateMachine.State} {m : HonestStateMachine}
    {heard : List Heard} (h : Vouches state m heard) (hl : m.liveness = .live) :
    Vouches state (m.watchdogElapsed m.watchdogGeneration)
      (.elapsed .validFrameWatchdog :: heard) := by
  have hopen : m.liveness.isOpen = true := by simp [hl, Liveness.isOpen]
  have hconn := thisConnection_cons (.elapsed .validFrameWatchdog) (by simp) heard
  have hafter : ∃ g, m.watchdogElapsed m.watchdogGeneration =
      { m with liveness := .stale, stabilityGeneration := g } := by
    simp only [watchdogElapsed, hl, and_self, if_true]
    split
    · exact ⟨m.stabilityGeneration, rfl⟩
    · exact ⟨m.stabilityGeneration + 1, rfl⟩
  obtain ⟨g, hafter⟩ := hafter
  rw [hafter]
  constructor
  · simpa using h.heldEver
  · intro hne
    rw [← h.linked hne, hopen]
    rfl
  · intro _
    refine ⟨(h.open' hopen).1, ?_⟩
    rw [hconn]
    simpa using (h.open' hopen).2
  · intro hd
    simp [Liveness.isDropped] at hd
  · intro _
    simpa [hconn, classOf_cons, Heard.verdict] using h.classified hopen
  · intro hstale
    simp at hstale
  · intro hlost
    rcases lost_cons hlost with hlost | ⟨⟨reason, heq⟩, _⟩
    · exact h.lost hlost
    · simp at heq
  · intro _ hs
    rw [hconn]
    exact List.mem_cons_of_mem _ (h.stabilized hopen hs)

theorem vouches_stabilityElapsed {state : WatchStateMachine.State} {m : HonestStateMachine}
    {heard : List Heard} (h : Vouches state m heard) (hs : m.isStabilizing = true) :
    Vouches state (m.stabilityElapsed m.stabilityGeneration)
      (.elapsed .stability :: heard) := by
  have haside := vouches_aside (.elapsed .stability) h (.inl rfl) (by simp) rfl
  have hconn := thisConnection_cons (.elapsed .stability) (by simp) heard
  simp only [stabilityElapsed, hs, and_self, if_true]
  refine ⟨haside.heldEver, haside.linked, haside.open', haside.dropped, haside.classified,
    haside.followed, haside.lost, ?_⟩
  intro _ _
  rw [hconn]
  exact List.mem_cons_self

theorem vouches_dwellElapsed {state : WatchStateMachine.State} {m : HonestStateMachine}
    {heard : List Heard} (h : Vouches state m heard) (generation : ℕ) :
    Vouches state (m.dwellElapsed generation) heard := by
  unfold dwellElapsed
  split
  · split
    · rename_i reason hl
      refine vouches_closed h (by simp [hl, Liveness.isOpen]) rfl ?_ rfl rfl
      simp [hl, Liveness.isDropped]
    · exact h
  · exact h

theorem vouches_graceElapsed {state : WatchStateMachine.State} {m : HonestStateMachine}
    {heard : List Heard} (h : Vouches state m heard) (generation : ℕ) :
    Vouches state (m.graceElapsed generation) heard := by
  unfold graceElapsed
  split
  · rename_i hg
    refine vouches_closed h (by simp [hg.2, Liveness.isOpen]) rfl ?_ rfl rfl
    simp [Liveness.isDropped]
  · exact h

omit [JsonDecoder] in
/-- The watchdog and the stability elapse act only from the flight. -/
theorem elapsed_grounded {s : WatchStatusStore} (harmed : s.Armed) {timer : Timer}
    {generation : ℕ} (h : s.tasks timer ≠ some generation) :
    timer.elapsed s.machine generation = s.machine ∨
      timer = .warmDwell := by
  by_cases hg : generation = timer.generation s.machine
  · have hw : timer.wanted s.machine = false := by
      by_contra hw
      exact h ((harmed timer generation).2 ⟨by simpa using hw, hg⟩)
    cases timer <;>
      simp_all [Timer.wanted, Timer.elapsed, watchdogElapsed, stabilityElapsed, graceElapsed,
        isWatchingForValidFrames, isAwaitingStartGrace]
  · exact .inl (Timer.elapsed_superseded hg)

theorem vouches_elapsed {state : WatchStateMachine.State} {store : WatchStatusStore}
    {heard : List Heard} (harmed : store.Armed) (h : Vouches state store.machine heard)
    (timer : Timer) (generation : ℕ) :
    Vouches state (timer.elapsed store.machine generation)
      ((if store.tasks timer = some generation then [.elapsed timer] else []) ++ heard) := by
  by_cases hin : store.tasks timer = some generation
  · obtain ⟨hw, rfl⟩ := (harmed timer generation).1 hin
    rw [if_pos hin]
    cases timer
    · exact vouches_watchdogElapsed h
        (by simpa [Timer.wanted, isWatchingForValidFrames] using hw)
    · exact vouches_stabilityElapsed h hw
    · exact vouches_aside _ (vouches_graceElapsed h _) (.inl rfl) (by simp) rfl
    · exact vouches_aside _ (vouches_dwellElapsed h _) (.inl rfl) (by simp) rfl
  · rw [if_neg hin]
    rcases elapsed_grounded harmed hin with hsame | rfl
    · rw [hsame]
      exact h
    · exact vouches_dwellElapsed h generation

omit [JsonDecoder] in
theorem systemWillSleep_flags (m : HonestStateMachine) :
    ∃ g, m.systemWillSleep = { m with dwellSuspended := true, dwellGeneration := g } := by
  simp only [systemWillSleep]
  split
  · exact ⟨m.dwellGeneration, rfl⟩
  · exact ⟨m.dwellGeneration + 1, rfl⟩

omit [JsonDecoder] in
theorem systemDidWake_flags (m : HonestStateMachine) :
    ∃ g, m.systemDidWake = { m with dwellSuspended := false, dwellGeneration := g } := by
  simp only [systemDidWake]
  split
  · exact ⟨m.dwellGeneration, rfl⟩
  · exact ⟨m.dwellGeneration + 1, rfl⟩

/-! ## Over whole runs -/

structure Session.Vouched (s : Session) : Prop where
  armed : s.client.store.Armed
  vouches : Vouches s.client.transport.state s.client.store.machine s.heard

theorem Vouches.known {state : WatchStateMachine.State} {m : HonestStateMachine}
    {heard : List Heard} (h : Vouches state m heard) : m.Known := by
  intro hl
  exact (h.open' (by simp [hl, Liveness.isOpen])).1

theorem armed_ingest {s : WatchStatusStore} (harmed : s.Armed) (hknown : s.machine.Known)
    (event : TransportEvent) : (s.ingest event).Armed :=
  WatchStatusStore.armed_resyncTimers harmed fun _ => apply_turn hknown

/-- Each of the transport's moves, with what it tells the store. -/
theorem vouches_emits {state state' : WatchStateMachine.State} {events : List TransportEvent}
    {store : WatchStatusStore} {heard : List Heard}
    (hemits : WatchStateMachine.Emits state state' events) (harmed : store.Armed)
    (h : Vouches state store.machine heard) :
    (events.foldl WatchStatusStore.ingest store).Armed ∧
      Vouches state' (events.foldl WatchStatusStore.ingest store).machine
        (events.map .told ++ heard) := by
  have harmed' := armed_ingest harmed h.known
  cases hemits with
  | quiet => exact ⟨harmed, h⟩
  | start => exact ⟨harmed, vouches_quiet h (.inl ⟨by simp, rfl⟩)⟩
  | retry => exact ⟨harmed, vouches_quiet h (.inl ⟨by simp, rfl⟩)⟩
  | stop => exact ⟨harmed, vouches_quiet h (.inr rfl)⟩
  | connected => exact ⟨harmed' _, vouches_retime (vouches_connected h)⟩
  | refused reason => exact ⟨harmed' _, vouches_retime (vouches_disconnected h reason)⟩
  | dropped stale reason => exact ⟨harmed' _, vouches_retime (vouches_disconnected h reason)⟩
  | line stale text => exact ⟨harmed' _, vouches_retime (vouches_line h text)⟩
  | stale => exact ⟨harmed' _, vouches_retime (vouches_stale h)⟩

omit [JsonDecoder] in
theorem advance_stop (m : WatchStateMachine) :
    (m.advance .stop).1.state = .stopped ∧
      WatchStateMachine.emitted (m.advance .stop).2 = [] := by
  unfold WatchStateMachine.advance
  cases hs : m.state <;> simp [WatchStateMachine.emitted, WatchStateMachine.State.isConnected]

theorem vouched_transport {s : Session} (h : s.Vouched) (event : WatchStateMachine.Event) :
    (s.step (.transport event)).Vouched := by
  by_cases hstop : event = .stop
  · subst hstop
    obtain ⟨hstate, hnone⟩ := advance_stop s.client.transport
    have hstopped : Vouches .stopped s.client.store.machine s.heard :=
      vouches_quiet h.vouches (.inr rfl)
    constructor
    · simpa [Session.step, Client.step, hnone] using h.armed
    · simp only [Session.step, Client.step, Client.hears, hnone, hstate, List.foldl_nil,
        List.map_nil, List.nil_append, true_and]
      by_cases hc : s.client.transport.state.isConnected = true
      · rw [if_pos hc]
        exact vouches_aside _ hstopped (.inl rfl) (by simp) rfl
      · rw [if_neg hc]
        exact hstopped
  · have hall := vouches_emits (s.client.transport.advance_emits event) h.armed h.vouches
    constructor
    · exact hall.1
    · simpa [Session.step, Client.step, Client.hears, hstop] using hall.2

theorem vouched_step {s : Session} (h : s.Vouched) (act : Act) : (s.step act).Vouched := by
  cases act with
  | transport event => exact vouched_transport h event
  | elapsed timer generation =>
    exact ⟨WatchStatusStore.armed_timerElapsed h.armed timer generation,
      vouches_elapsed h.armed h.vouches timer generation⟩
  | systemWillSleep =>
    refine ⟨WatchStatusStore.armed_resyncTimers h.armed fun _ => systemWillSleep_turn, ?_⟩
    obtain ⟨g, hflags⟩ := systemWillSleep_flags s.client.store.machine
    have hv := h.vouches
    simp only [Session.step, Client.step, Client.hears, WatchStatusStore.systemWillSleep,
      WatchStatusStore.resyncTimers, hflags, List.nil_append]
    exact ⟨hv.heldEver, hv.linked, hv.open', hv.dropped, hv.classified, hv.followed, hv.lost,
      hv.stabilized⟩
  | systemDidWake =>
    refine ⟨WatchStatusStore.armed_resyncTimers h.armed fun _ => systemDidWake_turn, ?_⟩
    obtain ⟨g, hflags⟩ := systemDidWake_flags s.client.store.machine
    have hv := h.vouches
    simp only [Session.step, Client.step, Client.hears, WatchStatusStore.systemDidWake,
      WatchStatusStore.resyncTimers, hflags, List.nil_append]
    exact ⟨hv.heldEver, hv.linked, hv.open', hv.dropped, hv.classified, hv.followed, hv.lost,
      hv.stabilized⟩

theorem vouched_run (backoff : ExponentialBackoff) (livenessWindow : ℚ) (acts : List Act) :
    (Session.run backoff livenessWindow acts).Vouched :=
  Session.run_induction (P := Session.Vouched) backoff livenessWindow
    ⟨WatchStatusStore.armed_init, vouches_init⟩ (fun _ act h => vouched_step h act) acts

/-! ## The healthy view -/

omit [JsonDecoder] in
theorem connected_iff (m : HonestStateMachine) :
    m.connectionState = .connected ↔
      m.liveness = .live ∧ m.snapshotClass = .healthy ∧ m.isStabilizing = false := by
  unfold connectionState
  cases hl : m.liveness <;> simp
  cases hc : m.snapshotClass <;> simp
  by_cases hs : m.isStabilizing = true
  · simp only [hs]
    split <;> simp
  · simp [hs]

omit [JsonDecoder] in
/-- The two glyphs that speak for the fleet are read off the one healthy state. -/
theorem make_vouched {state : ConnectionState} {accountCount : ℕ}
    {hasNoViableTarget keychainLocked : Bool} {canonicalScrub : Option CanonicalScrub}
    {activeBlindDegraded : Bool} {systemicRefreshFailure : Option UInt32}
    {systemicRefreshSource : Option SystemicRefreshSource}
    (h : (PresentationState.make state accountCount hasNoViableTarget keychainLocked
      canonicalScrub activeBlindDegraded systemicRefreshFailure
      systemicRefreshSource).glyph = .healthy ∨
      (PresentationState.make state accountCount hasNoViableTarget keychainLocked
      canonicalScrub activeBlindDegraded systemicRefreshFailure
      systemicRefreshSource).glyph = .noRunway) : state = .connected := by
  cases state <;> simp [PresentationState.make] at h ⊢

theorem earned_of_vouched {s : Session} (h : s.Vouched)
    (hc : s.client.store.machine.connectionState = .connected) : Earned s.heard := by
  obtain ⟨hl, hclass, hstable⟩ := (connected_iff _).1 hc
  have hopen : s.client.store.machine.liveness.isOpen = true := by
    rw [hl]
    rfl
  obtain ⟨hever, hno⟩ := h.vouches.open' hopen
  constructor
  · exact h.vouches.heldEver.1 hever
  · exact hno
  · exact standing_of_classOf (h.vouches.classified hopen ▸ hclass)
  · exact h.vouches.followed hl (by simp [hclass])
  · intro hlost
    have hever := h.vouches.lost hlost
    refine h.vouches.stabilized hopen ?_
    simpa [isStabilizing, hl, hclass, hever] using hstable

/-- The menu bar is never healthy on a dead daemon, and no state that should pass waits without
its timer. -/
structure NeverHealthyWhenDead (s : Session) : Prop where
  earned : s.client.store.machine.connectionState = .connected → Earned s.heard
  open' : s.client.store.machine.connectionState = .connected →
    s.client.transport.state.isConnected = true ∨ s.client.transport.state = .stopped
  vouched : s.client.store.machine.presentation.glyph = .healthy ∨
      s.client.store.machine.presentation.glyph = .noRunway →
    s.client.store.machine.connectionState = .connected
  timed : ∀ timer generation, s.client.store.tasks timer = some generation ↔
    timer.wanted s.client.store.machine = true ∧
      generation = timer.generation s.client.store.machine
  leaves : ∀ timer : Timer, timer.wanted s.client.store.machine = true →
    timer.wanted (s.client.step (.elapsed timer
      (timer.generation s.client.store.machine))).store.machine = false
  superseded : ∀ timer generation, generation ≠ timer.generation s.client.store.machine →
    s.client.step (.elapsed timer generation) = s.client
  supersededLiveness : ∀ generation, generation ≠ s.client.transport.livenessGeneration →
    s.client.step (.transport (.livenessElapsed generation)) = s.client
  supersededBackoff : ∀ generation, generation ≠ s.client.transport.backoffGeneration →
    s.client.step (.transport (.backoffElapsed generation)) = s.client

def liveLine : String :=
  "\x7b\"type\":\"snapshot\",\"schema_version\":\x7b\"major\":1,\"minor\":14\x7d," ++
  "\"generated_at\":42,\"accounts\":[\x7b\"label\":\"work\",\"active\":true," ++
  "\"enabled\":true,\"quarantined\":false\x7d]\x7d"

def liveFrame : Value :=
  .object [("type", .string "snapshot"),
    ("schema_version", .object [("major", .int 1), ("minor", .int 14)]),
    ("generated_at", .int 42),
    ("accounts", .array [.object [("label", .string "work"), ("active", .bool true),
      ("enabled", .bool true), ("quarantined", .bool false)]])]

/-- A parser that reads the one line it is given. -/
@[reducible] def liveDecoder : JsonDecoder :=
  { parse := fun line => if line = liveLine then some liveFrame else none }

def stoppedRun : List Act :=
  [.transport .start, .transport .connectSucceeded, .transport (.lineReceived liveLine),
   .transport .stop]

end Sessiometer.Menubar
