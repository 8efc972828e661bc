import AddressBinder.Machine
import AddressBinder.Schedule
/-!
# Scripted schedules

A periodic schedule whose passes follow a plan on a clock of their own: each takes some time and returns a delay, or
breaks.  A script is a plan in which the last pass is played again and again.  The log keeps when each pass began and
ended.
-/
namespace AddressBinder
namespace Simulation

/-- A pass of a script; one that returns no delay breaks. -/
structure PlannedPass where
  takes : Option Nat
  next : Option Nat
deriving DecidableEq, Inhabited

/-- A line of the log: a pass began or ended. -/
structure PassMark where
  isEnd : Bool
  number : Nat
  time : Nat
deriving DecidableEq, Inhabited

inductive PassRequest where
  | clock (r : Clock.Request)
  | task (r : Schedule.Request)
  /-- Note that a pass begins; the reply is its number. -/
  | begins
  /-- Note that the pass with a number ends. -/
  | ends (number : Nat)
  /-- Cancel the schedule; the reply says whether it was armed. -/
  | cancel
  /-- Wait until the task has ended. -/
  | awaitExit

abbrev PassRequest.Reply : PassRequest → Type
  | .clock r => r.Reply
  | .task r => r.Reply
  | .begins => Nat
  | .ends _ => Unit
  | .cancel => Bool
  | .awaitExit => Unit

def passes : Signature := ⟨PassRequest, PassRequest.Reply⟩

structure PassLog where
  time : Nat
  stage : Schedule.Stage
  /-- Whether somebody can still cancel the schedule. -/
  isHeld : Bool
  begun : Nat
  /-- The marks, the latest first. -/
  marks : List PassMark
deriving DecidableEq, Inhabited

namespace PassLog

/-- The log with one more mark, at the present time. -/
def mark (log : PassLog) (isEnd : Bool) (number : Nat) : PassLog :=
  { log with marks := ⟨isEnd, number, log.time⟩ :: log.marks }

/-- The log with an armed schedule cancelled, and whether it was armed. -/
def cancel (log : PassLog) : Bool × PassLog :=
  match log.isHeld, log.stage with
  | true, .armed _ => (true, { log with stage := .cancelled })
  | _, _ => (false, log)

/-- The log with the schedule given up: nobody can cancel it any more. -/
def drop (log : PassLog) : PassLog := { log with isHeld := false }

/-- Serves a request of the task.  A nap is over once nobody can cancel it, but the task is not told to end. -/
def serveTask : (r : Schedule.Request) → PassLog → Option (r.Reply × PassLog)
  | .nap due, log =>
    if log.isHeld then (Schedule.serve log.time (.nap due) log.stage).map fun a => (a.1, { log with stage := a.2 })
    else some (true, log)
  | r, log => (Schedule.serve log.time r log.stage).map fun a => (a.1, { log with stage := a.2 })

/-- Serves a request of a scripted schedule, if the state allows it yet. -/
def serve : (r : PassRequest) → PassLog → Option (r.Reply × PassLog)
  | .clock r, log => (Clock.serve log.time r).map fun reply => (reply, log)
  | .task r, log => log.serveTask r
  | .begins, log => some (log.begun + 1, { log with begun := log.begun + 1 }.mark false (log.begun + 1))
  | .ends number, log => some ((), log.mark true number)
  | .cancel, log => some log.cancel
  | .awaitExit, log => if log.stage = .exited then some ((), log) else none

end PassLog

def PassRequest.due : PassRequest → Option Nat
  | .clock r => r.due
  | .task r => r.due
  | _ => none

/-- How scripted schedules are served. -/
def passKernel : Kernel passes PassLog :=
  ⟨PassLog.serve, PassRequest.due, PassLog.time, fun time log => { log with time }⟩

def passAsk (r : PassRequest) : Program passes r.Reply := Program.request (σ := passes) r

/-- How the task of a scripted schedule speaks for itself. -/
def passPort : Schedule.Port passes := ⟨fun r => passAsk (.clock r), fun r => passAsk (.task r)⟩

/-- How a pass of a plan goes: how long it takes, and the delay that it returns unless it breaks. -/
structure TimedPass where
  takes : Nat
  next : Option Nat

/-- The next pass of a plan. -/
def playPass (plan : Nat → TimedPass) : Program passes (Option Nat) :=
  (passAsk .begins).bind fun (number : Nat) =>
    (Clock.elapse passPort.clock (plan number).takes).bind fun _ =>
      match (plan number).next with
      | none => .done none
      | some next => (passAsk (.ends number)).bind fun _ => .done (some next)

abbrev PassMachine := Machine passes PassLog (Option Nat)

/-- The thread of the task of a schedule. -/
def passTask (plan : Nat → TimedPass) : Thread passes (Option Nat) :=
  ⟨Schedule.firstRound passPort (playPass plan), fun next =>
    next.map fun delay => Schedule.round passPort (playPass plan) delay⟩

/-- The machine with a schedule just armed. -/
def armPlan (origin first : Nat) (plan : Nat → TimedPass) : PassMachine :=
  ⟨⟨origin, .armed first, true, 0, []⟩, [passTask plan]⟩

/-- The passes that a script plans: one takes its time by waiting, and breaks at once if it does; the last one stands for
all after it. -/
def scriptedPass (script : List PlannedPass) (number : Nat) : TimedPass :=
  let p :=
    match script[number - 1]? with
    | some p => p
    | none => script.getLast?.getD ⟨none, none⟩
  match p.next with
  | none => ⟨0, none⟩
  | some next => ⟨Nat.min (p.takes.getD 0) Clock.longestWait, some next⟩

inductive PassStep where
  | advance (ms : Nat)
  /-- Cancel the schedule and wait until its task has ended. -/
  | cancel
  /-- Give the schedule up without waiting. -/
  | drop
deriving DecidableEq, Inhabited

/-- Cancels and waits for the end of the task. -/
def cancelAndWait : Program passes (Option Nat) :=
  (passAsk .cancel).bind fun (wasArmed : Bool) =>
    if wasArmed then (passAsk .awaitExit).bind fun _ => .done none else .done none

/-- Plays a step, with at most so many moves. -/
def playPassStep (fuel : Nat) (m : PassMachine) : PassStep → PassMachine
  | .advance ms => m.advanceTo passKernel (Clock.endOfWait m.state.time ms) fuel
  | .cancel => (m.spawn (.once cancelAndWait)).runUntilDone passKernel m.threads.length none fuel
  | .drop => { m with state := m.state.drop }.settle passKernel fuel

/-- What is reported after a step: the time, and what the log has gained. -/
structure PassReport where
  time : Nat
  marks : List PassMark
deriving DecidableEq, Inhabited

/-- Plays steps one after the other and reports after each. -/
def reportPasses (fuel : Nat) (m : PassMachine) : List PassStep → List PassReport
  | [] => []
  | step :: steps =>
    let m := playPassStep fuel m step
    ⟨m.state.time, m.state.marks.reverse⟩ :: reportPasses fuel { m with state := { m.state with marks := [] } } steps

def runPasses (fuel first : Nat) (script : List PlannedPass) (steps : List PassStep) : List PassReport :=
  reportPasses fuel ((armPlan 0 first (scriptedPass script)).settle passKernel fuel) steps

end Simulation
end AddressBinder
