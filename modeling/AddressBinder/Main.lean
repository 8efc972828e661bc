import AddressBinder.Simulation.Daemon
/-!
# The command line

The daemon reads its environment, and either says on standard error why it does not start, or runs over its simulated
cloud with the clock on the wall.  A line `stop` on standard input asks it to shut down.  There is no HTTP site in
reach, so the metadata service and the name service never answer.
-/
namespace AddressBinder
namespace Daemon

open Simulation (Running)

/-- The variables of the process that the daemon reads. -/
def processEnvironment : IO Environment :=
  variableNames.filterMapM fun name => do return (← IO.getEnv name).map fun value => (name, value)

/-- Reads lines until one asks to stop; false when the input ends before. -/
partial def isAskedToStop (input : IO.FS.Stream) : IO Bool := do
  let line ← input.getLine
  if line.isEmpty then return false
  else if Text.trim line.toList = "stop".toList then return true
  else isAskedToStop input

/-- How long the daemon sleeps before it looks at the clock again, in milliseconds. -/
def tick : UInt32 := 50

/-- Lets the daemon follow the clock on the wall, which showed `origin` when its own clock was started, until `isOver`
holds. -/
partial def follow (origin : Nat) (isOver : Running → IO Bool) (r : Running) : IO Running := do
  let elapsed := (← IO.monoMsNow) - origin
  let r := r.idle (elapsed - r.world.clock)
  if ← isOver r then return r
  IO.sleep tick
  follow origin isOver r

/-- Runs the daemon: starts the binder, waits until it is asked to stop, and shuts down within the limit. -/
def runOnWallClock (settings : Settings) (r : Running) : IO Exit := do
  let stop ← IO.asTask (do isAskedToStop (← IO.getStdin)) .dedicated
  let origin ← IO.monoMsNow
  let (r, start) := r.launch .start
  let r ← follow origin (fun r => do
    if !r.hasEnded start || !(← IO.hasFinished stop) then return false
    return stop.get.toOption == some true) r
  let deadline := Clock.endOfWait r.world.clock (1000 * settings.shutdownTimeout)
  let (r, shutdown) := r.launch .shutdown
  let r ← follow origin (fun r => return r.hasEnded shutdown || deadline ≤ r.world.clock) r
  if r.hasEnded shutdown then return .clean
  match (Running.Ending.timedOut settings.shutdownTimeout).failure? with
  | some message => IO.eprintln ("Daemon error: " ++ message)
  | none => return .clean
  return .failed

def runIn (env : Environment) : IO Exit := do
  match prepare env with
  | .error refusal =>
    IO.eprintln refusal.line
    return .refused
  | .ok (settings, config) =>
    match Running.setUp settings config [] with
    | .error fault =>
      IO.eprintln ("Daemon error: " ++ fault.message)
      return .failed
    | .ok r => runOnWallClock settings r

end Daemon
end AddressBinder

/-- Runs the daemon in the environment of the process and exits with its status. -/
def main : IO UInt32 := do
  return (← AddressBinder.Daemon.runIn (← AddressBinder.Daemon.processEnvironment)).status.toUInt32
