import Mathlib.Data.List.Induction
import Sessiometer.Menubar.Vouched

namespace Sessiometer.Menubar

open HonestStateMachine

/-! ## One connection against the clock -/

/-- A line and the instant it is read. -/
structure Arrival where
  at' : ℚ
  text : String

/-- One connection's lines in the order they are read, and the instant the view is looked at. -/
structure Stream where
  window : ℚ
  positive : 0 < window
  openedAt : ℚ
  arrivals : List Arrival
  now : ℚ
  ordered : (openedAt :: (arrivals.map Arrival.at' ++ [now])).Pairwise (· ≤ ·)

/-- The store with the deadline of the valid-frame watchdog in flight. -/
structure Clocked where
  store : WatchStatusStore
  deadline : ℚ

namespace Clocked

/-- The watchdog in flight fires once its window has passed. -/
def expire (now : ℚ) (c : Clocked) : Clocked :=
  match c.store.tasks .validFrameWatchdog with
  | some generation =>
    if c.deadline ≤ now then
      { c with store := c.store.timerElapsed .validFrameWatchdog generation }
    else c
  | none => c

variable [JsonDecoder]

def ingest (window now : ℚ) (c : Clocked) (event : TransportEvent) : Clocked :=
  let after := c.store.ingest event
  { store := after
    deadline :=
      if after.machine.watchdogGeneration = c.store.machine.watchdogGeneration then c.deadline
      else now + window }

def receive (window : ℚ) (c : Clocked) (arrival : Arrival) : Clocked :=
  (c.expire arrival.at').ingest window arrival.at' (.line arrival.text)

end Clocked

namespace Stream

variable [JsonDecoder]

/-- The store once it has read the lines, from any store a connection may find. -/
def read (st : Stream) (s : WatchStatusStore) (arrivals : List Arrival) : Clocked :=
  arrivals.foldl (Clocked.receive st.window)
    (Clocked.ingest st.window st.openedAt { store := s, deadline := st.openedAt } .connected)

/-- The machine the view is drawn from at the instant it is looked at. -/
def shown (st : Stream) (s : WatchStatusStore) : HonestStateMachine :=
  ((st.read s st.arrivals).expire st.now).store.machine

end Stream

variable [JsonDecoder]

def frameOf (arrival : Arrival) : Decoding WatchFrame := parseWatchFrame arrival.text

/-- The last snapshot frame that decoded. -/
def lastSnapshot (arrivals : List Arrival) : Option VersionedStatus :=
  arrivals.reverse.findSome? fun arrival => decodedSnapshot (frameOf arrival)

/-- The class the last verdict of the lines leaves. -/
def classOfArrivals (arrivals : List Arrival) : SnapshotClass :=
  (arrivals.reverse.findSome? fun arrival => verdict (frameOf arrival)).getD .none

/-- When the last valid frame was read, or the connection made. -/
def lastValid (openedAt : ℚ) (arrivals : List Arrival) : ℚ :=
  arrivals.foldl (fun t arrival => if validFrame (frameOf arrival) then arrival.at' else t)
    openedAt

def lastRead (openedAt : ℚ) (arrivals : List Arrival) : ℚ :=
  (arrivals.getLast?.map Arrival.at').getD openedAt

theorem lastSnapshot_append (arrivals : List Arrival) (arrival : Arrival) :
    lastSnapshot (arrivals ++ [arrival]) =
      (decodedSnapshot (frameOf arrival)).or (lastSnapshot arrivals) := by
  cases hd : decodedSnapshot (frameOf arrival) <;>
    simp [lastSnapshot, hd]

theorem classOfArrivals_append (arrivals : List Arrival) (arrival : Arrival) :
    classOfArrivals (arrivals ++ [arrival]) =
      (verdict (frameOf arrival)).getD (classOfArrivals arrivals) := by
  cases hv : verdict (frameOf arrival) <;>
    simp [classOfArrivals, hv]

theorem lastValid_append (openedAt : ℚ) (arrivals : List Arrival) (arrival : Arrival) :
    lastValid openedAt (arrivals ++ [arrival]) =
      if validFrame (frameOf arrival) then arrival.at' else lastValid openedAt arrivals := by
  simp [lastValid, List.foldl_append]

omit [JsonDecoder] in
theorem lastRead_append (openedAt : ℚ) (arrivals : List Arrival) (arrival : Arrival) :
    lastRead openedAt (arrivals ++ [arrival]) = arrival.at' := by
  simp [lastRead]

omit [JsonDecoder] in
/-- Between verdicts the payload stays, and a healthy verdict brings its own. -/
theorem payload_after (p : Payload) (frame : Decoding WatchFrame) :
    (verdict frame = none → p.after frame = p) ∧
      (verdict frame = some .healthy → ∃ status,
        decodedSnapshot frame = some status ∧ p.after frame = .ofStatus status) := by
  cases frame with
  | error e => simp [verdict, Payload.after]
  | ok frame =>
    cases frame with
    | snapshot status =>
      by_cases hs : status.isSchemaSupported = true
      · cases ha : status.accounts.isEmpty <;>
          simp [verdict, Payload.after, decodedSnapshot, hs, ha]
      · simp [verdict, hs]
    | heartbeat generatedAt schemaVersion =>
      by_cases hs : WireContract.isSupported schemaVersion = true <;>
        simp [verdict, Payload.after, hs]
    | unknown => simp [verdict, Payload.after]

omit [JsonDecoder] in
theorem verdict_of_invalid {frame : Decoding WatchFrame} (h : ¬validFrame frame = true) :
    verdict frame = none := by
  cases frame with
  | error e => rfl
  | ok frame => cases frame <;> simp_all [validFrame, verdict]

/-! ### What reading keeps -/

/-- A reading store: its clock, its class and its payload are those of the lines so far. -/
structure Reads (st : Stream) (s : WatchStatusStore) (c : Clocked) (seen : ℚ)
    (arrivals : List Arrival) : Prop where
  clock : c.store.machine.liveness = .live ∧
      c.store.tasks .validFrameWatchdog = some c.store.machine.watchdogGeneration ∧
      c.deadline = lastValid st.openedAt arrivals + st.window ∧
      seen < lastValid st.openedAt arrivals + st.window ∨
    c.store.machine.liveness = .stale ∧ lastValid st.openedAt arrivals + st.window ≤ seen
  class' : c.store.machine.snapshotClass = classOfArrivals arrivals
  payload : c.store.machine.snapshotClass = .healthy → ∃ status,
    lastSnapshot arrivals = some status ∧ c.store.machine.payload = .ofStatus status
  everDisconnected : c.store.machine.hasEverDisconnected = s.machine.hasEverDisconnected
  unstable : c.store.machine.consecutiveUnstableReconnects =
    s.machine.consecutiveUnstableReconnects
  unstabilized : c.store.machine.stabilizedThisConnection = false

theorem reads_connected (st : Stream) (s : WatchStatusStore) :
    Reads st s (st.read s []) st.openedAt [] := by
  have hgen : ((s.machine.apply .connected).1).watchdogGeneration =
      s.machine.watchdogGeneration + 1 := rfl
  constructor
  · left
    refine ⟨rfl, ?_, ?_, ?_⟩
    · simp [Stream.read, Clocked.ingest, WatchStatusStore.ingest, WatchStatusStore.resyncTimers,
        WatchStatusStore.rearm, Timer.generation, Timer.wanted, isWatchingForValidFrames, apply,
        retime, fold]
    · simp [Stream.read, Clocked.ingest, WatchStatusStore.ingest, WatchStatusStore.resyncTimers,
        hgen, lastValid]
    · have := st.positive
      simpa [lastValid] using this
  · rfl
  · intro h
    simp [Stream.read, Clocked.ingest, WatchStatusStore.ingest, WatchStatusStore.resyncTimers,
      apply, retime, fold] at h
  · rfl
  · rfl
  · rfl

omit [JsonDecoder] in
theorem watchdogElapsed_flags (m : HonestStateMachine) (generation : ℕ) :
    (m.watchdogElapsed generation).snapshotClass = m.snapshotClass ∧
      (m.watchdogElapsed generation).payload = m.payload ∧
      (m.watchdogElapsed generation).hasEverDisconnected = m.hasEverDisconnected ∧
      (m.watchdogElapsed generation).consecutiveUnstableReconnects =
        m.consecutiveUnstableReconnects ∧
      (m.watchdogElapsed generation).stabilizedThisConnection = m.stabilizedThisConnection := by
  simp only [watchdogElapsed]
  split
  · split <;> simp
  · simp

/-- The clock runs to `now`: the watchdog fires if its window has passed. -/
theorem reads_expire {st : Stream} {s : WatchStatusStore} {c : Clocked} {seen now : ℚ}
    {arrivals : List Arrival} (h : Reads st s c seen arrivals) (hnow : seen ≤ now) :
    Reads st s (c.expire now) now arrivals := by
  rcases h.clock with ⟨hl, htask, hdeadline, _⟩ | ⟨hl, hpassed⟩
  · by_cases hd : c.deadline ≤ now
    · have hexpire : (c.expire now).store.machine =
          c.store.machine.watchdogElapsed c.store.machine.watchdogGeneration := by
        simp [Clocked.expire, htask, hd, WatchStatusStore.timerElapsed,
          WatchStatusStore.resyncTimers, Timer.elapsed]
      obtain ⟨hclass, hpayload, hever, hcount, hstable⟩ :=
        watchdogElapsed_flags c.store.machine c.store.machine.watchdogGeneration
      have hstale : (c.store.machine.watchdogElapsed
          c.store.machine.watchdogGeneration).liveness = .stale := by
        simp only [watchdogElapsed, hl, and_self, if_true]
        split <;> rfl
      constructor
      · right
        rw [hexpire, hstale, ← hdeadline]
        exact ⟨rfl, hd⟩
      · rw [hexpire, hclass, h.class']
      · rw [hexpire, hclass, hpayload]
        exact h.payload
      · rw [hexpire, hever, h.everDisconnected]
      · rw [hexpire, hcount, h.unstable]
      · rw [hexpire, hstable, h.unstabilized]
    · have hexpire : c.expire now = c := by simp [Clocked.expire, htask, hd]
      rw [hexpire]
      refine ⟨.inl ⟨hl, htask, hdeadline, ?_⟩, h.class', h.payload, h.everDisconnected,
        h.unstable, h.unstabilized⟩
      rw [← hdeadline]
      exact not_le.1 hd
  · have hexpire : (c.expire now).store.machine = c.store.machine := by
      unfold Clocked.expire
      split
      · split
        · simp [WatchStatusStore.timerElapsed, WatchStatusStore.resyncTimers, Timer.elapsed,
            watchdogElapsed, hl]
        · rfl
      · rfl
    constructor
    · right
      rw [hexpire]
      exact ⟨hl, hpassed.trans hnow⟩
    · rw [hexpire, h.class']
    · rw [hexpire]
      exact h.payload
    · rw [hexpire, h.everDisconnected]
    · rw [hexpire, h.unstable]
    · rw [hexpire, h.unstabilized]

/-- A line read at `now`, the clock having run there. -/
theorem reads_ingest {st : Stream} {s : WatchStatusStore} {c : Clocked} {arrival : Arrival}
    {arrivals : List Arrival} (h : Reads st s c arrival.at' arrivals) :
    Reads st s (c.ingest st.window arrival.at' (.line arrival.text)) arrival.at'
      (arrivals ++ [arrival]) := by
  obtain ⟨generatedAt, hline⟩ := c.store.machine.fold_line arrival.text
  have hframe : parseWatchFrame arrival.text = frameOf arrival := rfl
  rw [hframe] at hline
  have hmachine : (c.ingest st.window arrival.at' (.line arrival.text)).store.machine =
      c.store.machine.retime (c.store.machine.fold (.line arrival.text)).1 := rfl
  have hgen : (c.ingest st.window arrival.at' (.line arrival.text)).store.machine.watchdogGeneration =
      if validFrame (frameOf arrival) then c.store.machine.watchdogGeneration + 1
      else c.store.machine.watchdogGeneration := by
    rw [hmachine]
    simp [retime, hline]
  constructor
  · by_cases hv : validFrame (frameOf arrival) = true
    · left
      rw [if_pos hv] at hgen
      have hlive : (c.ingest st.window arrival.at'
          (.line arrival.text)).store.machine.liveness = .live := by
        rw [hmachine]
        simp [retime, hline, hv]
      refine ⟨hlive, ?_, ?_, ?_⟩
      · have hmoved : (c.store.machine.apply (.line arrival.text)).1.watchdogGeneration ≠
            c.store.machine.watchdogGeneration := by
          rw [show (c.store.machine.apply (.line arrival.text)).1.watchdogGeneration = _ from hgen]
          omega
        have hwanted : (c.store.machine.apply (.line arrival.text)).1.liveness = .live := hlive
        simp [Clocked.ingest, WatchStatusStore.ingest, WatchStatusStore.resyncTimers,
          WatchStatusStore.rearm, Timer.generation, Timer.wanted, isWatchingForValidFrames,
          hmoved, hwanted]
      · have hmoved : ¬(c.store.ingest (.line arrival.text)).machine.watchdogGeneration =
            c.store.machine.watchdogGeneration := by
          rw [show (c.store.ingest (.line arrival.text)).machine.watchdogGeneration = _ from hgen]
          omega
        simp [Clocked.ingest, hmoved, lastValid_append, hv]
      · have := st.positive
        simpa [lastValid_append, hv] using this
    · rw [if_neg hv] at hgen
      have hkept : (c.store.machine.apply (.line arrival.text)).1.watchdogGeneration =
          c.store.machine.watchdogGeneration := hgen
      have hliveness : (c.ingest st.window arrival.at'
          (.line arrival.text)).store.machine.liveness = c.store.machine.liveness := by
        rw [hmachine]
        simp [retime, hline, hv]
      have htasks : (c.ingest st.window arrival.at'
          (.line arrival.text)).store.tasks .validFrameWatchdog =
          c.store.tasks .validFrameWatchdog := by
        simp [Clocked.ingest, WatchStatusStore.ingest, WatchStatusStore.resyncTimers,
          WatchStatusStore.rearm, Timer.generation, hkept]
      have hdeadline : (c.ingest st.window arrival.at' (.line arrival.text)).deadline =
          c.deadline := by
        simp [Clocked.ingest, WatchStatusStore.ingest, WatchStatusStore.resyncTimers, hkept]
      rw [hliveness, htasks, hdeadline, hgen, lastValid_append, if_neg hv]
      exact h.clock
  · rw [hmachine, classOfArrivals_append, ← h.class']
    simp [retime, hline]
  · intro hhealthy
    rw [hmachine] at hhealthy ⊢
    simp only [retime, hline] at hhealthy ⊢
    rw [lastSnapshot_append]
    obtain ⟨hnone, hsome⟩ := payload_after c.store.machine.payload (frameOf arrival)
    cases hv : verdict (frameOf arrival) with
    | none =>
      obtain ⟨hd, _⟩ := verdict_eq_none.1 hv
      rw [hv] at hhealthy
      obtain ⟨status, hlast, hpayload⟩ := h.payload hhealthy
      exact ⟨status, by simp [hd, hlast], by rw [hnone hv, hpayload]⟩
    | some k =>
      rw [hv] at hhealthy
      simp only [Option.getD_some] at hhealthy
      subst hhealthy
      obtain ⟨status, hd, hpayload⟩ := hsome hv
      exact ⟨status, by simp [hd], hpayload⟩
  · rw [hmachine]
    simp [retime, hline, h.everDisconnected]
  · rw [hmachine]
    simp [retime, hline, h.unstable]
  · rw [hmachine]
    simp [retime, hline, h.unstabilized]

/-- The instants of the lines lie in order before each later one. -/
theorem reads_all (st : Stream) (s : WatchStatusStore) (arrivals : List Arrival)
    (hordered : (st.openedAt :: arrivals.map Arrival.at').Pairwise (· ≤ ·)) :
    Reads st s (st.read s arrivals) (lastRead st.openedAt arrivals) arrivals := by
  induction arrivals using List.reverseRecOn with
  | nil => exact reads_connected st s
  | append_singleton arrivals arrival ih =>
    have hsplit : (st.openedAt :: (arrivals ++ [arrival]).map Arrival.at') =
        (st.openedAt :: arrivals.map Arrival.at') ++ [arrival.at'] := by simp
    rw [hsplit, List.pairwise_append] at hordered
    have hlast : lastRead st.openedAt arrivals ∈ st.openedAt :: arrivals.map Arrival.at' := by
      unfold lastRead
      cases hg : arrivals.getLast? with
      | none => simp
      | some last =>
        have := List.mem_of_getLast? hg
        simp only [Option.map_some, Option.getD_some, List.mem_cons, List.mem_map]
        exact .inr ⟨last, this, rfl⟩
    have hread := reads_expire (ih hordered.1) (hordered.2.2 _ hlast arrival.at' (by simp))
    rw [lastRead_append]
    simpa [Stream.read, List.foldl_append, Clocked.receive] using reads_ingest hread

theorem reads_shown (st : Stream) (s : WatchStatusStore) :
    Reads st s ((st.read s st.arrivals).expire st.now) st.now st.arrivals := by
  have hsplit : (st.openedAt :: (st.arrivals.map Arrival.at' ++ [st.now])) =
      (st.openedAt :: st.arrivals.map Arrival.at') ++ [st.now] := by simp
  have hordered := st.ordered
  rw [hsplit, List.pairwise_append] at hordered
  refine reads_expire (reads_all st s st.arrivals hordered.1) ?_
  refine hordered.2.2 _ ?_ st.now (by simp)
  unfold lastRead
  cases hg : st.arrivals.getLast? with
  | none => simp
  | some last =>
    have := List.mem_of_getLast? hg
    simp only [Option.map_some, Option.getD_some, List.mem_cons, List.mem_map]
    exact .inr ⟨last, this, rfl⟩

/-- In an ordered stream every valid frame lies at or before the last. -/
theorem le_lastValid {openedAt : ℚ} {arrivals : List Arrival}
    (hordered : (openedAt :: arrivals.map Arrival.at').Pairwise (· ≤ ·)) :
    ∀ arrival ∈ arrivals, validFrame (frameOf arrival) = true →
      arrival.at' ≤ lastValid openedAt arrivals := by
  induction arrivals using List.reverseRecOn with
  | nil => simp
  | append_singleton arrivals last ih =>
    have hsplit : (openedAt :: (arrivals ++ [last]).map Arrival.at') =
        (openedAt :: arrivals.map Arrival.at') ++ [last.at'] := by simp
    rw [hsplit, List.pairwise_append] at hordered
    intro arrival hmem hvalid
    rw [lastValid_append]
    rcases List.mem_append.1 hmem with hearlier | hlast
    · split
      · refine hordered.2.2 arrival.at' ?_ last.at' (by simp)
        exact List.mem_cons_of_mem _ (List.mem_map_of_mem hearlier)
      · exact ih hordered.1 arrival hearlier hvalid
    · obtain rfl := List.mem_singleton.1 hlast
      rw [if_pos hvalid]

theorem lastValid_mem (openedAt : ℚ) (arrivals : List Arrival) :
    lastValid openedAt arrivals = openedAt ∨ ∃ arrival ∈ arrivals,
      validFrame (frameOf arrival) = true ∧ lastValid openedAt arrivals = arrival.at' := by
  induction arrivals using List.reverseRecOn with
  | nil => simp [lastValid]
  | append_singleton arrivals last ih =>
    rw [lastValid_append]
    by_cases hv : validFrame (frameOf last) = true
    · exact .inr ⟨last, by simp, hv, by simp [hv]⟩
    · rw [if_neg hv]
      rcases ih with hopen | ⟨arrival, hmem, hvalid, heq⟩
      · exact .inl hopen
      · exact .inr ⟨arrival, List.mem_append_left _ hmem, hvalid, heq⟩

/-! ## A snapshot that does not decode -/

/-- The last verdict of the lines is the class. -/
def Settled (arrivals : List Arrival) (c : SnapshotClass) : Prop :=
  ∃ earlier arrival later, arrivals = earlier ++ arrival :: later ∧
    verdict (frameOf arrival) = some c ∧ ∀ other ∈ later, verdict (frameOf other) = none

theorem classOfArrivals_eq_iff {arrivals : List Arrival} {c : SnapshotClass} (hc : c ≠ .none) :
    classOfArrivals arrivals = c ↔ Settled arrivals c := by
  have hsome : classOfArrivals arrivals = c ↔
      (arrivals.reverse.findSome? fun arrival => verdict (frameOf arrival)) = some c := by
    cases hf : arrivals.reverse.findSome? fun arrival => verdict (frameOf arrival) with
    | none => simp [classOfArrivals, hf, Ne.symm hc]
    | some k => simp [classOfArrivals, hf]
  rw [hsome, List.findSome?_eq_some_iff]
  constructor
  · rintro ⟨later, arrival, earlier, heq, hv, hnone⟩
    refine ⟨earlier.reverse, arrival, later.reverse, ?_, hv, by simpa using hnone⟩
    have := congrArg List.reverse heq
    simpa using this
  · rintro ⟨earlier, arrival, later, rfl, hv, hnone⟩
    exact ⟨later.reverse, arrival, earlier.reverse, by simp, hv, by simpa using hnone⟩

/-- A snapshot frame that failed to decode, with no later one that did, a window ago. -/
structure Undecoded (st : Stream) (failure : Arrival) (after : List Arrival) : Prop where
  tagged : TaggedSnapshot failure.text
  failed : ∃ refusal, frameOf failure = .error refusal
  unreplaced : ∀ arrival ∈ after, decodedSnapshot (frameOf arrival) = none
  elapsed : failure.at' + st.window ≤ st.now

/-- What takes the older roster down: a window without a heartbeat, a refused version, a roster
without accounts, or a reconnect held as a crash loop. -/
def Relents (st : Stream) (s : WatchStatusStore) (after : List Arrival) : Prop :=
  (∀ beat ∈ after, validFrame (frameOf beat) = true → beat.at' + st.window ≤ st.now) ∨
    Settled st.arrivals .unsupported ∨ Settled st.arrivals .empty ∨
    Settled st.arrivals .healthy ∧ s.machine.hasEverDisconnected = true ∧
      crashLoopThreshold ≤ s.machine.consecutiveUnstableReconnects

/-- The view neither shows the older roster as live nor promises one. -/
def Released (m : HonestStateMachine) : Prop :=
  m.connectionState ≠ .connected ∧ m.connectionState ≠ .connecting

/-- The rows, the next swap and the faults on show are those of the last snapshot decoded. -/
def Current (st : Stream) (m : HonestStateMachine) : Prop :=
  ∃ status, lastSnapshot st.arrivals = some status ∧ m.payload = .ofStatus status

/-- Silence since the failure is silence of the whole connection. -/
theorem silent_iff {st : Stream} {before after : List Arrival} {failure : Arrival}
    (harrivals : st.arrivals = before ++ failure :: after)
    (helapsed : failure.at' + st.window ≤ st.now) :
    (∀ beat ∈ after, validFrame (frameOf beat) = true → beat.at' + st.window ≤ st.now) ↔
      lastValid st.openedAt st.arrivals + st.window ≤ st.now := by
  have hsplit : (st.openedAt :: (st.arrivals.map Arrival.at' ++ [st.now])) =
      (st.openedAt :: st.arrivals.map Arrival.at') ++ [st.now] := by simp
  have hordered := st.ordered
  rw [hsplit, List.pairwise_append] at hordered
  have hinner : (st.openedAt :: before.map Arrival.at') ++ failure.at' :: after.map Arrival.at' =
      st.openedAt :: st.arrivals.map Arrival.at' := by
    rw [harrivals]
    simp
  have hbefore : ∀ t ∈ st.openedAt :: before.map Arrival.at', t ≤ failure.at' := by
    intro t ht
    have hpair := hordered.1
    rw [← hinner, List.pairwise_append] at hpair
    exact hpair.2.2 t ht failure.at' (by simp)
  constructor
  · intro hsilent
    rcases lastValid_mem st.openedAt st.arrivals with hopen | ⟨arrival, hmem, hvalid, heq⟩
    · have := hbefore st.openedAt (by simp)
      rw [hopen]
      linarith
    · rw [heq]
      rw [harrivals] at hmem
      rcases List.mem_append.1 hmem with hb | hafter
      · have := hbefore arrival.at' (List.mem_cons_of_mem _ (List.mem_map_of_mem hb))
        linarith
      · rcases List.mem_cons.1 hafter with rfl | ha
        · exact helapsed
        · exact hsilent arrival ha hvalid
  · intro hlast beat hbeat hvalid
    have := le_lastValid hordered.1 beat (by rw [harrivals]; simp [hbeat]) hvalid
    linarith

theorem connectionState_eq {st : Stream} {s : WatchStatusStore} {c : Clocked}
    (h : Reads st s c st.now st.arrivals) :
    c.store.machine.connectionState =
      if lastValid st.openedAt st.arrivals + st.window ≤ st.now then .stale
      else match classOfArrivals st.arrivals with
        | .none => .connecting
        | .unsupported => .unsupported
        | .empty => .emptyRoster
        | .healthy =>
          if s.machine.hasEverDisconnected then
            if crashLoopThreshold ≤ s.machine.consecutiveUnstableReconnects then .crashLooping
            else .connecting
          else .connected := by
  rcases h.clock with ⟨hl, _, _, hlate⟩ | ⟨hl, hpassed⟩
  · rw [if_neg (not_le.2 hlate)]
    have hclass := h.class'
    unfold connectionState
    rw [hl, hclass]
    cases hk : classOfArrivals st.arrivals with
    | healthy =>
      rw [hk] at hclass
      simp [isStabilizing, hl, hclass, h.everDisconnected, h.unstabilized, h.unstable]
    | _ => rfl
  · rw [if_pos hpassed]
    simp [connectionState, hl]

/-- For every stream of one connection: a snapshot that failed to decode is out of the view a
window later exactly when `Relents`, and a connected view always shows the last one decoded. -/
theorem released_iff (st : Stream) (s : WatchStatusStore) :
    (∀ before failure after, st.arrivals = before ++ failure :: after →
      Undecoded st failure after → (Released (st.shown s) ↔ Relents st s after)) ∧
    ((st.shown s).connectionState = .connected → Current st (st.shown s)) := by
  have hreads := reads_shown st s
  have hstate := connectionState_eq hreads
  constructor
  · intro before failure after harrivals hfail
    have hshown : (st.shown s).connectionState = _ := hstate
    unfold Released Relents
    rw [hshown, silent_iff harrivals hfail.elapsed,
      ← classOfArrivals_eq_iff (c := .unsupported) (by simp),
      ← classOfArrivals_eq_iff (c := .empty) (by simp),
      ← classOfArrivals_eq_iff (c := .healthy) (by simp)]
    by_cases hpassed : lastValid st.openedAt st.arrivals + st.window ≤ st.now
    · simp [hpassed]
    · cases hk : classOfArrivals st.arrivals <;> simp [hpassed]
      by_cases hever : s.machine.hasEverDisconnected = true
      · by_cases hcount : crashLoopThreshold ≤ s.machine.consecutiveUnstableReconnects <;>
          simp [hever, hcount]
      · simp [hever]
  · intro hc
    obtain ⟨_, hclass, _⟩ := (connected_iff _).1 hc
    exact hreads.payload hclass

/-! ### A newer daemon's snapshot -/

/-- A snapshot of a later minor, whose `next_swap` has a state this client does not know. -/
def newerLine : String :=
  "\x7b\"type\":\"snapshot\",\"schema_version\":\x7b\"major\":1,\"minor\":15\x7d," ++
  "\"generated_at\":43,\"accounts\":[],\"next_swap\":\x7b\"state\":\"future_state\"\x7d\x7d"

def newerFrame : Value :=
  .object [("type", .string "snapshot"),
    ("schema_version", .object [("major", .int 1), ("minor", .int 15)]),
    ("generated_at", .int 43), ("accounts", .array []),
    ("next_swap", .object [("state", .string "future_state")])]

def beatLine : String :=
  "\x7b\"type\":\"heartbeat\",\"generated_at\":43," ++
  "\"schema_version\":\x7b\"major\":1,\"minor\":15\x7d\x7d"

def beatFrame : Value :=
  .object [("type", .string "heartbeat"), ("generated_at", .int 43),
    ("schema_version", .object [("major", .int 1), ("minor", .int 15)])]

@[reducible] def newerDecoder : JsonDecoder :=
  { parse := fun line =>
      if line = liveLine then some liveFrame
      else if line = newerLine then some newerFrame
      else if line = beatLine then some beatFrame
      else none }

def newerArrival : Arrival := { at' := 2, text := newerLine }

/-- The daemon beats every fifteen seconds after a snapshot the client could not read. -/
def beaten : Stream :=
  { window := 32, positive := by norm_num, openedAt := 0
    arrivals := [{ at' := 1, text := liveLine }, newerArrival, { at' := 17, text := beatLine },
      { at' := 32, text := beatLine }]
    now := 40
    ordered := by decide +kernel }

omit [JsonDecoder] in
/-- The unreadable snapshot is 38 seconds old, and the roster before it still shows as live. -/
theorem undecoded_stays_connected :
    beaten.arrivals = [{ at' := 1, text := liveLine }] ++ newerArrival ::
      [{ at' := 17, text := beatLine }, { at' := 32, text := beatLine }] ∧
    @Undecoded newerDecoder beaten newerArrival
      [{ at' := 17, text := beatLine }, { at' := 32, text := beatLine }] ∧
    (@Stream.shown newerDecoder beaten .init).connectionState = .connected := by
  refine ⟨rfl, ?_, by decide +kernel⟩
  refine @Undecoded.mk newerDecoder _ _ _ ?_ ?_ ?_ ?_
  · show @decodeLine newerDecoder _ probe newerLine = .ok (some "snapshot")
    decide +kernel
  · refine ⟨.decodingError, ?_⟩
    decide +kernel
  · decide +kernel
  · decide +kernel

end Sessiometer.Menubar
