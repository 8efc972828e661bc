import AddressBinder.Binder.Pass
import AddressBinder.Retry
import AddressBinder.Schedule
/-!
# The life cycle

Starting binds with retries and then arms the periodic passes; shutting down stops the passes, waits for a running one,
and then unbinds with retries.  The two exclude each other by a lock, and a start that is still retrying when shutdown
begins gives up at its next attempt, so nothing is attached behind the back of a shutdown.  No failure leaves either.
-/
namespace AddressBinder
namespace Lifecycle

inductive Control where
  /-- Mark the binder as started; the reply says whether it was before. -/
  | markStarted
  | phase
  /-- Begin shutdown; the reply says whether it had not begun before. -/
  | beginShutdown
  /-- Wait for the lock that start and shutdown exclude each other by. -/
  | acquire
  | release
  /-- Arm the schedule, unless it was armed before; the reply says whether. -/
  | arm (delay : Nat)
  /-- Cancel the schedule; the reply says whether it was armed. -/
  | disarm
  /-- Wait until the task of a cancelled schedule has ended. -/
  | awaitExit
deriving DecidableEq

abbrev Control.Reply : Control → Type
  | .markStarted => Bool
  | .phase => Phase
  | .beginShutdown => Bool
  | .acquire => Unit
  | .release => Unit
  | .arm _ => Bool
  | .disarm => Bool
  | .awaitExit => Unit

inductive Own where
  | note (n : Note)
  | control (c : Control)
  | task (r : Schedule.Request)
deriving DecidableEq

abbrev Own.Reply : Own → Type
  | .note _ => Unit
  | .control c => c.Reply
  | .task r => r.Reply

inductive Request where
  | call (c : Call)
  | clock (r : Clock.Request)
  | own (o : Own)
deriving DecidableEq

abbrev Request.Reply : Request → Type
  | .call c => c.Reply
  | .clock r => r.Reply
  | .own o => o.Reply

end Lifecycle

abbrev lifecycle : Signature := ⟨Lifecycle.Request, Lifecycle.Request.Reply⟩

namespace Lifecycle

def control (c : Control) : Program lifecycle c.Reply := Program.request (σ := lifecycle) (.own (.control c))

def clock (r : Clock.Request) : Program lifecycle r.Reply := Program.request (σ := lifecycle) (.clock r)

def task (r : Schedule.Request) : Program lifecycle r.Reply := Program.request (σ := lifecycle) (.own (.task r))

def ofPassRequest : (r : Pass.Request) → Program lifecycle r.Reply
  | .call c => Program.request (σ := lifecycle) (.call c)
  | .note n => Program.request (σ := lifecycle) (.own (.note n))

def ofPass {α : Type} (p : Program pass α) : Program lifecycle α := p.translate (τ := lifecycle) ofPassRequest

def emit (e : Event) : Program lifecycle Unit := ofPass (Pass.emit e)

def policy (b : Binder) : Retry.Policy := ⟨b.config.retries, b.config.retrySleep⟩

/-! ## Starting -/

def startupResult : Except Error Bool → Except Error (Attempt Bool)
  | .error e => .error e
  | .ok true => .ok (.done true)
  | .ok false => .ok .again

/-- One startup attempt; it finishes unbound when shutdown has begun. -/
def startupAttempt (b : Binder) : Program lifecycle (Except Error (Attempt Bool)) :=
  (control .phase).bind fun (phase : Phase) =>
    if phase.isTerminal then .done (.ok (.done false))
    else (ofPass (Pass.attempt b)).bind fun r => .done (startupResult r)

/-- Arms the periodic passes, the first after the unbound interval; not once shutdown has begun. -/
def armSchedule (b : Binder) : Program lifecycle Unit :=
  (control .phase).bind fun (phase : Phase) =>
    if phase.isTerminal then .done ()
    else (control (.arm b.config.unboundInterval)).bind fun (armed : Bool) =>
      if armed then emit (.scheduleArmed b.config.unboundInterval) else .done ()

/-- Binds with retries and arms the periodic passes; the lock is held. -/
def bindAndArm (b : Binder) : Program lifecycle Unit :=
  (Retry.run (policy b) (Clock.sleep clock) (fun _ => startupAttempt b)).bind fun outcome =>
    (emit (.startupCompleted (outcome.value?.getD false) outcome.attempts)).bind fun _ => armSchedule b

/-- Starts the binder; a second start does nothing, nor does one after shutdown has begun. -/
def start (b : Binder) : Program lifecycle Unit :=
  (control .markStarted).bind fun (startedBefore : Bool) =>
    if startedBefore then .done ()
    else (control .acquire).bind fun _ =>
      (control .phase).bind fun (phase : Phase) =>
        (if phase.isTerminal then .done () else bindAndArm b).bind fun _ => control .release

/-! ## Shutting down -/

/-- Cancels the periodic passes and waits for a running one. -/
def stopSchedule : Program lifecycle Unit :=
  (control .disarm).bind fun (wasArmed : Bool) =>
    if wasArmed then (control .awaitExit).bind fun _ => emit .scheduleCancelled else .done ()

def shutdownAttempt (b : Binder) : Program lifecycle (Except Error (Attempt Pass.Unbound)) :=
  (ofPass (Pass.unbind b)).bind fun
    | .error e => .done (.error e)
    | .ok r => .done (.ok (.done r))

/-- Stops the passes and unbinds with retries; the lock is held. -/
def stopAndUnbind (b : Binder) : Program lifecycle Unit :=
  stopSchedule.bind fun _ =>
    (Retry.run (policy b) (Clock.sleep clock) (fun _ => shutdownAttempt b)).bind fun _ =>
      (ofPass (Pass.observe .stopped)).bind fun _ => emit .stopped

/-- Shuts the binder down; a second shutdown does nothing. -/
def shutdown (b : Binder) : Program lifecycle Unit :=
  (control .beginShutdown).bind fun (begins : Bool) =>
    if begins then
      (control .acquire).bind fun _ => (stopAndUnbind b).bind fun _ => control .release
    else .done ()

/-! ## The periodic task -/

def port : Schedule.Port lifecycle := ⟨clock, task⟩

/-- A pass of the periodic task, which never breaks. -/
def scheduledPass (b : Binder) : Program lifecycle (Option Nat) :=
  (ofPass (Pass.periodic b)).bind fun d => .done (some d)

def firstRound (b : Binder) : Program lifecycle (Option Nat) := Schedule.firstRound port (scheduledPass b)

def laterRound (b : Binder) (delay : Nat) : Program lifecycle (Option Nat) :=
  Schedule.round port (scheduledPass b) delay

end Lifecycle
end AddressBinder
