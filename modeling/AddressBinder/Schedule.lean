import AddressBinder.Clock
/-!
# The periodic schedule

One task that naps, runs a pass, and takes the delay that the pass returns for its next nap, so passes never overlap.
Cancelling ends a nap but never a running pass; of a nap's end and a cancellation that are both there, the cancellation
counts.  The task is a sequence of rounds, each a finite program that ends with the delay of the next.
-/
namespace AddressBinder
namespace Schedule

/-- How the task of a schedule stands. -/
inductive Stage where
  /-- There is no task yet. -/
  | idle
  /-- The task runs, its first nap having the delay. -/
  | armed (delay : Nat)
  | cancelled
  | exited
deriving DecidableEq, Inhabited

inductive Request where
  /-- Wait until the schedule is armed, for the first delay. -/
  | awaitArmed
  /-- Wait until the time has come or the task is cancelled; the reply says whether it is. -/
  | nap (due : Nat)
  | isCancelled
  | exit
deriving DecidableEq

abbrev Request.Reply : Request → Type
  | .awaitArmed => Nat
  | .nap _ => Bool
  | .isCancelled => Bool
  | .exit => Unit

def serve (time : Nat) : (r : Request) → Stage → Option (r.Reply × Stage)
  | .awaitArmed, .armed delay => some (delay, .armed delay)
  -- cancelled before its task began: the nap that follows ends at once, whatever the delay
  | .awaitArmed, .cancelled => some (0, .cancelled)
  | .awaitArmed, _ => none
  | .nap _, .cancelled => some (true, .cancelled)
  | .nap due, stage => if due ≤ time then some (false, stage) else none
  | .isCancelled, stage => some (stage == .cancelled, stage)
  | .exit, _ => some ((), .exited)

def Request.due : Request → Option Nat
  | .nap due => some due
  | _ => none

variable {σ : Signature}

/-- How a program over some requests reads the clock and speaks for the task. -/
structure Port (σ : Signature) where
  clock : (r : Clock.Request) → Program σ r.Reply
  task : (r : Request) → Program σ r.Reply

def Port.exit (port : Port σ) : Program σ (Option Nat) := (port.task .exit).bind fun _ => .done none

/-- What follows a pass: the next round's delay, unless the pass broke or the task is cancelled. -/
def afterPass (port : Port σ) : Option Nat → Program σ (Option Nat)
  | none => port.exit
  | some next => (port.task .isCancelled).bind fun cancelled => if cancelled then port.exit else .done (some next)

/-- A round: a nap and then a pass, which returns a delay or breaks.  Ends with the delay of the next round, none when
the task is over. -/
def round (port : Port σ) (pass : Program σ (Option Nat)) (delay : Nat) : Program σ (Option Nat) :=
  (port.clock .now).bind fun time =>
    (port.task (.nap (Clock.endOfWait time delay))).bind fun cancelled =>
      if cancelled then port.exit else pass.bind (afterPass port)

/-- The first round, once the schedule is armed. -/
def firstRound (port : Port σ) (pass : Program σ (Option Nat)) : Program σ (Option Nat) :=
  (port.task .awaitArmed).bind (round port pass)

end Schedule
end AddressBinder
