import AddressBinder.Binder.Lifecycle
/-!
# A binder's own state

What the operations of one binder share: the snapshot, the event channel, the lock, and the stage of the periodic task.
`State.serve` says when a request is served and what it changes; it is served or has to wait by the state alone.
-/
namespace AddressBinder
namespace Lifecycle

/-- The state that the operations of a binder share. -/
structure State where
  status : Status
  channel : Channel
  /-- Whether a start was ever asked for. -/
  started : Bool
  /-- Whether a start or a shutdown holds the lock. -/
  locked : Bool
  schedule : Schedule.Stage
deriving DecidableEq, Inhabited

namespace State

def initial (eventCapacity : Nat) : State := ⟨Status.initial, Channel.ofCapacity eventCapacity, false, false, .idle⟩

def note (time : Nat) (s : State) : Note → State
  | .observe o => { s with status := s.status.observe time o }
  | .emit e => { s with channel := s.channel.send e }

/-- Whether the task of the schedule runs and is not told to end. -/
def isArmed (s : State) : Bool :=
  match s.schedule with
  | .armed _ => true
  | _ => false

def control (s : State) : (c : Control) → Option (c.Reply × State)
  | .markStarted => some (s.started, { s with started := true })
  | .phase => some (s.status.phase, s)
  | .beginShutdown =>
    if s.status.phase.isTerminal then some (false, s)
    else some (true, { s with status := s.status.move .shuttingDown })
  | .acquire => if s.locked then none else some ((), { s with locked := true })
  | .release => some ((), { s with locked := false })
  | .arm delay => if s.schedule = .idle then some (true, { s with schedule := .armed delay }) else some (false, s)
  | .disarm => if s.isArmed then some (true, { s with schedule := .cancelled }) else some (false, s)
  | .awaitExit => if s.schedule = .exited then some ((), s) else none

/-- Serves a request of the binder at a time, if the state allows it. -/
def serve (time : Nat) (s : State) : (o : Own) → Option (o.Reply × State)
  | .note n => some ((), s.note time n)
  | .control c => s.control c
  | .task r => (Schedule.serve time r s.schedule).map fun answer => (answer.1, { s with schedule := answer.2 })

/-- The state of a binder that nobody holds any more: its periodic task is to end. -/
def abandon (s : State) : State := if s.isArmed then { s with schedule := .cancelled } else s

end State

def Own.due : Own → Option Nat
  | .task r => r.due
  | _ => none

end Lifecycle
end AddressBinder
