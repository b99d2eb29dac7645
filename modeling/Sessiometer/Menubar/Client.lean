import Sessiometer.Menubar.Honest

namespace Sessiometer.Menubar

/-- The four timers the store runs for the machine. -/
inductive Timer where
  | validFrameWatchdog
  | stability
  | startGrace
  | warmDwell
deriving DecidableEq

namespace Timer

/-- The token a timer of the kind is armed under. -/
def generation : Timer → HonestStateMachine → ℕ
  | validFrameWatchdog, m => m.watchdogGeneration
  | stability, m => m.stabilityGeneration
  | startGrace, m => m.graceGeneration
  | warmDwell, m => m.dwellGeneration

/-- Whether the machine wants a timer of the kind running. -/
def wanted : Timer → HonestStateMachine → Bool
  | validFrameWatchdog, m => m.isWatchingForValidFrames
  | stability, m => m.isStabilizing
  | startGrace, m => m.isAwaitingStartGrace
  | warmDwell, m => m.isAwaitingWarmDwell

def elapsed : Timer → HonestStateMachine → ℕ → HonestStateMachine
  | validFrameWatchdog, m, generation => m.watchdogElapsed generation
  | stability, m, generation => m.stabilityElapsed generation
  | startGrace, m, generation => m.graceElapsed generation
  | warmDwell, m, generation => m.dwellElapsed generation

end Timer

/-- The store's shell: the machine, and for each kind the token of the timer in flight. -/
structure WatchStatusStore where
  machine : HonestStateMachine
  tasks : Timer → Option ℕ

namespace WatchStatusStore

def init : WatchStatusStore := { machine := .init, tasks := fun _ => none }

/-- A timer's slot after a step: left counting while its token stands, else cancelled, and
started afresh when the machine still wants it. -/
def rearm (timer : Timer) (before after : HonestStateMachine) (task : Option ℕ) : Option ℕ :=
  if timer.generation after = timer.generation before then task
  else if timer.wanted after then some (timer.generation after) else none

def resyncTimers (s : WatchStatusStore) (after : HonestStateMachine) : WatchStatusStore :=
  { machine := after, tasks := fun timer => rearm timer s.machine after (s.tasks timer) }

def ingest [JsonDecoder] (s : WatchStatusStore) (event : TransportEvent) : WatchStatusStore :=
  s.resyncTimers (s.machine.apply event).1

/-- A timer fires: it is no longer in flight, and the machine folds the elapse in. -/
def timerElapsed (s : WatchStatusStore) (timer : Timer) (generation : ℕ) : WatchStatusStore :=
  let fired : WatchStatusStore :=
    { s with tasks := fun t => if t = timer ∧ s.tasks t = some generation then none
                               else s.tasks t }
  fired.resyncTimers (timer.elapsed s.machine generation)

def systemWillSleep (s : WatchStatusStore) : WatchStatusStore :=
  s.resyncTimers s.machine.systemWillSleep

def systemDidWake (s : WatchStatusStore) : WatchStatusStore :=
  s.resyncTimers s.machine.systemDidWake

end WatchStatusStore

/-! ## The transport and the store together -/

structure Client where
  transport : WatchStateMachine
  store : WatchStatusStore

inductive Act where
  | transport (event : WatchStateMachine.Event)
  | elapsed (timer : Timer) (generation : ℕ)
  | systemWillSleep
  | systemDidWake

/-- What a step brings the store: an event of the transport, a close the transport keeps to
itself, or the elapse of a timer in flight. -/
inductive Heard where
  | told (event : TransportEvent)
  | stopped
  | elapsed (timer : Timer)
deriving DecidableEq

namespace Client

def init (backoff : ExponentialBackoff) (livenessWindow : ℚ) : Client :=
  { transport := .init backoff livenessWindow, store := .init }

variable [JsonDecoder]

def step (c : Client) : Act → Client
  | .transport event =>
    { transport := (c.transport.advance event).1
      store := (WatchStateMachine.emitted (c.transport.advance event).2).foldl
        WatchStatusStore.ingest c.store }
  | .elapsed timer generation => { c with store := c.store.timerElapsed timer generation }
  | .systemWillSleep => { c with store := c.store.systemWillSleep }
  | .systemDidWake => { c with store := c.store.systemDidWake }

/-- The step's entry in the history, if any. -/
def hears (c : Client) : Act → List Heard
  | .transport event =>
    (WatchStateMachine.emitted (c.transport.advance event).2).map .told ++
      (if event = .stop ∧ c.transport.state.isConnected then [.stopped] else [])
  | .elapsed timer generation =>
    if c.store.tasks timer = some generation then [.elapsed timer] else []
  | .systemWillSleep => []
  | .systemDidWake => []

end Client

/-- A client and everything it has heard, newest first. -/
structure Session where
  client : Client
  heard : List Heard

namespace Session

def launch (backoff : ExponentialBackoff) (livenessWindow : ℚ) : Session :=
  { client := .init backoff livenessWindow, heard := [] }

variable [JsonDecoder]

def step (s : Session) (act : Act) : Session :=
  { client := s.client.step act, heard := s.client.hears act ++ s.heard }

def run (backoff : ExponentialBackoff) (livenessWindow : ℚ) (acts : List Act) : Session :=
  acts.foldl step (launch backoff livenessWindow)

/-- What holds at launch and is kept by every step holds after every run. -/
theorem run_induction {P : Session → Prop} (backoff : ExponentialBackoff) (livenessWindow : ℚ)
    (hlaunch : P (launch backoff livenessWindow)) (hstep : ∀ s act, P s → P (s.step act))
    (acts : List Act) : P (run backoff livenessWindow acts) := by
  have hfold : ∀ (acts : List Act) (s : Session), P s → P (acts.foldl step s) := by
    intro acts
    induction acts with
    | nil => intro s hs; exact hs
    | cons act rest ih => intro s hs; exact ih (s.step act) (hstep s act hs)
  exact hfold acts _ hlaunch

end Session

end Sessiometer.Menubar
