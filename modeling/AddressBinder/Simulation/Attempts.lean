import AddressBinder.Clock
import AddressBinder.Retry
/-!
# Scripted retries

A retry run whose attempts follow a plan on a clock of their own: each takes some time and then reaches the goal, asks
for another attempt, or fails.  A script is a plan in which every attempt past its end asks for another one.
-/
namespace AddressBinder
namespace Simulation

/-- An attempt of a script: how long it takes, if at all, and how it ends. -/
structure PlannedAttempt (α : Type) where
  takes : Option Nat
  ends : Except Error (Attempt α)

inductive AttemptRequest where
  | clock (r : Clock.Request)
  /-- Note that the attempt with a number begins. -/
  | begins (number : Nat)

abbrev AttemptRequest.Reply : AttemptRequest → Type
  | .clock r => r.Reply
  | .begins _ => Unit

def attempts : Signature := ⟨AttemptRequest, AttemptRequest.Reply⟩

/-- The time, and the attempts that began with the times at which they did. -/
structure AttemptLog where
  time : Nat
  begun : List (Nat × Nat)
deriving DecidableEq, Inhabited

namespace AttemptLog

def serve : (r : AttemptRequest) → AttemptLog → r.Reply × AttemptLog
  | .clock r, log => ((Clock.serveAtOnce r log.time).1, { log with time := (Clock.serveAtOnce r log.time).2 })
  | .begins number, log => ((), { log with begun := log.begun ++ [(number, log.time)] })

end AttemptLog

def attemptClock (r : Clock.Request) : Program attempts r.Reply := Program.request (σ := attempts) (.clock r)

/-- How an attempt of a plan goes: how long it takes, and how it ends. -/
structure TimedAttempt (α : Type) where
  takes : Nat
  ends : Except Error (Attempt α)

/-- The attempt of a plan with a number. -/
def playAttempt {α : Type} (plan : Nat → TimedAttempt α) (number : Nat) :
    Program attempts (Except Error (Attempt α)) :=
  (Program.request (σ := attempts) (.begins number)).bind fun _ =>
    (Clock.elapse attemptClock (plan number).takes).bind fun _ => .done (plan number).ends

/-- A retry run over a plan from a time on: its outcome, with the time at the end and the attempts that began. -/
def runPlan {α : Type} (policy : Retry.Policy) (plan : Nat → TimedAttempt α) (origin : Nat) :
    Retry.Outcome α × AttemptLog :=
  (Retry.run policy (Clock.sleep attemptClock) (playAttempt plan)).run AttemptLog.serve ⟨origin, []⟩

/-- The attempts that a script plans; one takes its time by waiting. -/
def scriptedAttempt {α : Type} (script : List (PlannedAttempt α)) (number : Nat) : TimedAttempt α :=
  match script[number - 1]? with
  | none => ⟨0, .ok .again⟩
  | some planned => ⟨Nat.min (planned.takes.getD 0) Clock.longestWait, planned.ends⟩

def retryScript {α : Type} (policy : Retry.Policy) (script : List (PlannedAttempt α)) :
    Retry.Outcome α × AttemptLog :=
  runPlan policy (scriptedAttempt script) 0

end Simulation
end AddressBinder
