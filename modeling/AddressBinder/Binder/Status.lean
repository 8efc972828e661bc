import AddressBinder.Net.Ipv4
import AddressBinder.Error
/-!
# The binder's health

A snapshot of what was last observed.  Decisions never read it; they go back to the cloud.  Once shutdown has begun,
only shutdown moves the phase.
-/
namespace AddressBinder

/-- The life-cycle phase as last observed. -/
inductive Phase where
  | unbound
  | bound
  | shuttingDown
  | stopped
deriving DecidableEq, Inhabited

namespace Phase

def name : Phase → String
  | .unbound => "unbound"
  | .bound => "bound"
  | .shuttingDown => "shutting_down"
  | .stopped => "stopped"

/-- Whether shutdown has begun. -/
def isTerminal : Phase → Bool
  | .shuttingDown | .stopped => true
  | .unbound | .bound => false

/-- The phase after a move to another one: from a terminal phase only to a terminal one. -/
def move (old new : Phase) : Phase := if old.isTerminal && !new.isTerminal then old else new

end Phase

structure Status where
  phase : Phase
  /-- When the last pass ended. -/
  lastPassAt : Option Nat
  /-- The candidate address held at the last observation. -/
  boundAddress : Option Ipv4
  /-- The text of the last failed pass, until one succeeds. -/
  lastError : Option String
  consecutiveFailures : Nat
deriving DecidableEq, Inhabited

/-- Something observed that the snapshot keeps. -/
inductive Observation where
  | bound (ip : Ipv4)
  | unbound
  /-- A pass ended, with the text of its failure if it failed. -/
  | pass (failure : Option String)
  | stopped
deriving DecidableEq

namespace Status

def initial : Status := ⟨.unbound, none, none, none, 0⟩

/-- The count of failures goes no higher. -/
def failureLimit : Nat := 0xffffffff

/-- The snapshot with the phase moved. -/
def move (s : Status) (phase : Phase) : Status := { s with phase := s.phase.move phase }

/-- The snapshot after an observation at a time. -/
def observe (time : Nat) (s : Status) : Observation → Status
  | .bound ip => { s with boundAddress := some ip }.move .bound
  | .unbound => { s with boundAddress := none }.move .unbound
  | .pass none => { s with lastPassAt := some time, lastError := none, consecutiveFailures := 0 }
  | .pass (some failure) =>
    { s with
      lastPassAt := some time
      lastError := some failure
      consecutiveFailures := Nat.min (s.consecutiveFailures + 1) failureLimit }
  | .stopped => { s with boundAddress := none }.move .stopped

end Status
end AddressBinder
