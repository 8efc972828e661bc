import AddressBinder.Simulation.Threads
/-!
# The daemon on a simulated clock

The daemon over a world: it wires its collaborators, fills the simulated cloud, starts the binder, waits for a signal
and shuts down within its time limit.
-/
namespace AddressBinder
namespace Simulation

/-- A daemon that is set up: its collaborators, its binder, and the machine it runs on. -/
structure Running where
  wiring : Daemon.Wiring
  binder : Binder
  machine : Sim

namespace Running

def name : String := "daemon"

def number : Nat := 0

def answer (w : Daemon.Wiring) (c : Call) : Program simulation c.Reply := ofDaemon (Daemon.collaborate w c)

/-- Serves a request of the daemon's collaborators at once. -/
def serveAtOnce : (r : Daemon.Request) → World → r.Reply × World
  | .provider call, w =>
    let r := Cloud.serve call w.cloud
    (r.1, { w with cloud := r.2 })
  | .http request, w =>
    let r := Http.serve request w.sites
    (r.1, { w with sites := r.2 })

/-- Sets the daemon up over some sites: the collaborators, the filled cloud, and the binder with its periodic task. -/
def setUp (settings : Daemon.Settings) (config : Config) (sites : List Http.Site) :
    Except Daemon.SetupFault Running :=
  match Daemon.wire settings config with
  | .error fault => .error fault
  | .ok wiring =>
    let filled := (Daemon.simulatedCloud settings wiring).run serveAtOnce { World.empty with sites }
    match Daemon.newBinder config with
    | .error fault => .error fault
    | .ok b =>
      let world := { filled.2 with cloud := filled.1 }.addMember (.ofBinder name b wiring.source default 0 [])
      .ok ⟨wiring, b, launch ⟨world, []⟩ (periodicThread number b (answer wiring))⟩

/-- The thread of an operation of the binder. -/
def thread (r : Running) (op : Operation) : Thread simulation Outcome :=
  operationThread number r.binder (answer r.wiring) op

/-- Runs an operation of the binder to its end. -/
def operate (r : Running) (op : Operation) : Option Outcome × Running :=
  let result := runThread r.machine (r.thread op)
  (result.1, { r with machine := result.2 })

/-- Starts an operation of the binder; the second result is the number of its thread. -/
def launch (r : Running) (op : Operation) : Running × Nat :=
  ({ r with machine := Simulation.launch r.machine (r.thread op) }, r.machine.threads.length)

def hasEnded (r : Running) (i : Nat) : Bool := (r.machine.result? i).isSome

def idle (r : Running) (ms : Nat) : Running := { r with machine := Simulation.idle r.machine ms }

def drain (r : Running) : List Event × Running :=
  let result := drainEvents r.machine number
  (result.1, { r with machine := result.2 })

def world (r : Running) : World := r.machine.state

def status? (r : Running) : Option Status := Simulation.status? r.machine number

/-- How a run of the daemon ends. -/
inductive Ending where
  | clean
  /-- Shutdown did not end within the limit, in seconds. -/
  | timedOut (seconds : Nat)
deriving DecidableEq, Inhabited

/-- The text of an ending that is a failure. -/
def Ending.failure? : Ending → Option String
  | .clean => none
  | .timedOut seconds => some ("Shutdown did not finish within " ++ Daemon.showNat seconds ++ "s")

/-- Starts the binder, waits for the signal, which comes at a time but not before the start is over, and shuts down
within the limit. -/
def untilSignal (r : Running) (signalTime timeoutSeconds : Nat) : Ending × Running :=
  let started := (r.operate .start).2
  let time := Nat.max signalTime started.world.clock
  let waiting := { started with machine := started.machine.advanceTo kernel time patience }
  let i := waiting.machine.threads.length
  let machine := (waiting.machine.spawn (r.thread .shutdown)).runUntilDone kernel i
    (some (Clock.endOfWait waiting.machine.state.clock (1000 * timeoutSeconds))) patience
  let stopped := { waiting with machine }
  (if stopped.hasEnded i then .clean else .timedOut timeoutSeconds, stopped)

end Running
end Simulation
end AddressBinder
