import AddressBinder.Simulation.Collaborators
/-!
# Simulated threads

The operations of binders and their periodic tasks as threads of a machine over a world, and the ways to run it: until
a thread has ended, for some time, or as far as the present instant goes.
-/
namespace AddressBinder
namespace Simulation

inductive Outcome where
  | operation (r : Operation.Result)
  | identity (r : Except Error InstanceIdentity)
  | interfaces (r : Except Error (List Interface))
  | attachmentId (r : Except Error String)
  | detached (r : Except Error Unit)
  /-- A round of a periodic task ended, with the delay of the next. -/
  | round (next : Option Nat)

abbrev Sim := Machine simulation World Outcome

/-- How many steps a simulation takes at most before it is given up. -/
def patience : Nat := 1000000000

/-- The thread of the periodic task of the binder with a number. -/
def periodicThread (number : Nat) (b : Binder) (answer : (c : Call) → Program simulation c.Reply) :
    Thread simulation Outcome :=
  let round (p : Program lifecycle (Option Nat)) : Program simulation Outcome :=
    (ofLifecycle number answer p).bind fun next => .done (.round next)
  ⟨round (Lifecycle.firstRound b), fun
    | .round (some delay) => some (round (Lifecycle.laterRound b delay))
    | _ => none⟩

/-- The thread of an operation of the binder with a number; the operation holds the binder until it ends. -/
def operationThread (number : Nat) (b : Binder) (answer : (c : Call) → Program simulation c.Reply)
    (op : Operation) : Thread simulation Outcome :=
  .once ((ask (.hold number)).bind fun _ =>
    (ofLifecycle number answer (op.program b)).bind fun r =>
      (ask (.letGo number)).bind fun _ => .done (.operation r))

/-- Changes the world of a machine. -/
def onWorld (m : Sim) (f : World → World) : Sim := { m with state := f m.state }

/-- Starts a thread and lets everything happen that can happen now. -/
def launch (m : Sim) (t : Thread simulation Outcome) : Sim := (m.spawn t).settle kernel patience

/-- Runs a thread to its end, other threads going on meanwhile. -/
def runThread (m : Sim) (t : Thread simulation Outcome) : Option Outcome × Sim :=
  let done := (m.spawn t).runUntilDone kernel m.threads.length none patience
  (done.result? m.threads.length, done)

def idle (m : Sim) (ms : Nat) : Sim := m.advanceTo kernel (Clock.endOfWait m.state.clock ms) patience

/-- Takes the events that wait in the channel of the binder with a number. -/
def drainEvents (m : Sim) (number : Nat) : List Event × Sim :=
  match m.state.member? number with
  | none => ([], m)
  | some member =>
    (member.state.channel.drain.1, onWorld m fun w =>
      w.updateMember number fun x => { x with state := { x.state with channel := x.state.channel.drain.2 } })

def status? (m : Sim) (number : Nat) : Option Status := (m.state.member? number).map (·.state.status)

end Simulation
end AddressBinder
