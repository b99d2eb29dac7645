import Mathlib.Data.Rat.Floor

namespace Sessiometer.Menubar

/-- What the transport pushes to the store. -/
inductive TransportEvent where
  | connected
  | line (text : String)
  | disconnected (reason : String)
  | stale
deriving DecidableEq

/-- Durations are seconds. -/
structure ExponentialBackoff where
  base : ℚ
  multiplier : ℚ
  cap : ℚ

namespace ExponentialBackoff

def default : ExponentialBackoff := { base := 1, multiplier := 2, cap := 30 }

def delay (backoff : ExponentialBackoff) (attempt : ℕ) : ℚ :=
  min (backoff.base * backoff.multiplier ^ attempt) backoff.cap

end ExponentialBackoff

/-! ## The reconnect and liveness core of the transport -/

namespace WatchStateMachine

inductive State where
  | idle
  | connecting
  | connected (stale : Bool)
  | backingOff
  | stopped
deriving DecidableEq

inductive Event where
  | start
  | connectSucceeded
  | connectFailed (reason : String)
  | lineReceived (line : String)
  | connectionClosed (reason : String)
  | livenessElapsed (generation : ℕ)
  | backoffElapsed (generation : ℕ)
  | stop
deriving DecidableEq

inductive Effect where
  | emit (event : TransportEvent)
  | connect
  | closeConnection
  | armLiveness (after : ℚ) (generation : ℕ)
  | armBackoff (after : ℚ) (generation : ℕ)

def State.isConnected : State → Bool
  | .connected _ => true
  | _ => false

end WatchStateMachine

structure WatchStateMachine where
  state : WatchStateMachine.State
  attempt : ℕ
  livenessGeneration : ℕ
  backoffGeneration : ℕ
  backoff : ExponentialBackoff
  livenessWindow : ℚ

namespace WatchStateMachine

def init (backoff : ExponentialBackoff) (livenessWindow : ℚ) : WatchStateMachine :=
  { state := .idle, attempt := 0, livenessGeneration := 0, backoffGeneration := 0,
    backoff, livenessWindow }

def beginBackoff (m : WatchStateMachine) (reason : String) (closeFirst : Bool) :
    WatchStateMachine × List Effect :=
  ({ m with state := .backingOff, backoffGeneration := m.backoffGeneration + 1,
            attempt := m.attempt + 1 },
    (if closeFirst then [.closeConnection] else []) ++
      [.emit (.disconnected reason),
       .armBackoff (m.backoff.delay m.attempt) (m.backoffGeneration + 1)])

def advance (m : WatchStateMachine) (event : Event) : WatchStateMachine × List Effect :=
  match m.state, event with
  | .idle, .start => ({ m with state := .connecting }, [.connect])
  | .connecting, .connectSucceeded =>
    ({ m with state := .connected false, attempt := 0,
              livenessGeneration := m.livenessGeneration + 1 },
      [.emit .connected, .armLiveness m.livenessWindow (m.livenessGeneration + 1)])
  | .connecting, .connectFailed reason => m.beginBackoff reason false
  | .connected _, .lineReceived line =>
    ({ m with state := .connected false, livenessGeneration := m.livenessGeneration + 1 },
      [.emit (.line line), .armLiveness m.livenessWindow (m.livenessGeneration + 1)])
  | .connected stale, .livenessElapsed generation =>
    if generation = m.livenessGeneration ∧ stale = false then
      -- the connection stays open: stale is a warning, not a drop
      ({ m with state := .connected true }, [.emit .stale])
    else (m, [])
  | .connected _, .connectionClosed reason =>
    { m with livenessGeneration := m.livenessGeneration + 1 }.beginBackoff reason true
  | .backingOff, .backoffElapsed generation =>
    if generation = m.backoffGeneration then ({ m with state := .connecting }, [.connect])
    else (m, [])
  | state, .stop =>
    ({ m with state := .stopped, livenessGeneration := m.livenessGeneration + 1,
              backoffGeneration := m.backoffGeneration + 1 },
      if state.isConnected then [.closeConnection] else [])
  | _, _ => (m, [])

/-- The events among a step's effects, in the order the shell yields them. -/
def emitted (effects : List Effect) : List TransportEvent :=
  effects.filterMap fun
    | .emit event => some event
    | _ => none

/-- A step's effect on the state and on the consumer's stream, whatever the counters do. -/
inductive Emits : State → State → List TransportEvent → Prop where
  | quiet {s : State} : Emits s s []
  | start : Emits .idle .connecting []
  | connected : Emits .connecting (.connected false) [.connected]
  | refused (reason : String) : Emits .connecting .backingOff [.disconnected reason]
  | line (stale : Bool) (text : String) :
      Emits (.connected stale) (.connected false) [.line text]
  | stale : Emits (.connected false) (.connected true) [.stale]
  | dropped (stale : Bool) (reason : String) :
      Emits (.connected stale) .backingOff [.disconnected reason]
  | retry : Emits .backingOff .connecting []
  | stop {s : State} : Emits s .stopped []

theorem advance_emits (m : WatchStateMachine) (event : Event) :
    Emits m.state (m.advance event).1.state (emitted (m.advance event).2) := by
  unfold advance
  split
  all_goals rename_i hs
  · simp only [hs, emitted]
    exact .start
  · simp only [hs, emitted]
    exact .connected
  · simp only [hs, emitted, beginBackoff]
    exact .refused _
  · simp only [hs, emitted]
    exact .line _ _
  · split
    · rename_i h
      simp only [hs, emitted, h.2]
      exact .stale
    · exact .quiet
  · simp only [hs, emitted, beginBackoff]
    exact .dropped _ _
  · split
    · simp only [hs, emitted]
      exact .retry
    · exact .quiet
  · have hnone : emitted (if m.state.isConnected then [.closeConnection] else []) = [] := by
      by_cases hc : m.state.isConnected <;> simp [hc, emitted]
    simp only [hnone]
    exact .stop
  · exact .quiet

end WatchStateMachine

end Sessiometer.Menubar
