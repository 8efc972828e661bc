import AddressBinder.Proofs.Machine
import AddressBinder.Simulation.Daemon
/-!
# What is seen of a daemon

A daemon that is set up is told what to do by acts.  What others see of an act is what it gives, how the binder is
afterwards, and every request that was served meanwhile with its reply (`Sight`).  The requests are written down by a
kernel that serves as the usual one does (`recording`), so writing them down changes nothing of the run (`recorded_act`).
-/
namespace AddressBinder

open Program (Exchange)

namespace Machine

variable {σ : Signature} {S S' α : Type} {k : Kernel σ S} {k' : Kernel σ S'} {f : S → S'}

/-- The kernel that also writes down the requests that it serves, with their replies. -/
def recording (k : Kernel σ S) : Kernel σ (S × List (Exchange σ)) where
  serve r s := (k.serve r s.1).map fun a => (a.1, a.2, s.2 ++ [⟨r, a.1⟩])
  due := k.due
  clock s := k.clock s.1
  setClock time s := (k.setClock time s.1, s.2)

theorem follows_recording (k : Kernel σ S) : Follows (recording k) k Prod.fst where
  serve r s := by
    change k.serve r s.1 = ((k.serve r s.1).map _).map _
    rw [Option.map_map]
    exact Option.map_id'.symm
  due _ := rfl
  clock _ := rfl
  setClock _ _ := rfl

theorem Follows.recording (h : Follows k k' f) : Follows (recording k) (recording k') (Prod.map f id) where
  serve r s := by
    change (k'.serve r (f s.1)).map _ = ((k.serve r s.1).map _).map _
    rw [h.serve, Option.map_map, Option.map_map]
    rfl
  due := h.due
  clock s := h.clock s.1
  setClock time s := congrArg (·, s.2) (h.setClock time s.1)

end Machine

namespace Simulation

open Machine

variable {S S' : Type}

/-- A way to run a machine. -/
inductive Move where
  | launch (t : Thread simulation Outcome)
  /-- Run a new thread to its end, for at most some milliseconds if there is a limit. -/
  | finish (t : Thread simulation Outcome) (limit : Option Nat)
  | wait (ms : Nat)
  | waitUntil (time : Nat)

/-- Runs the machine, its requests served by a kernel. -/
def Move.play (k : Kernel simulation S) (m : Machine simulation S Outcome) : Move → Machine simulation S Outcome
  | .launch t => (m.spawn t).settle k patience
  | .finish t limit =>
    (m.spawn t).runUntilDone k m.threads.length (limit.map (Clock.endOfWait (k.clock m.state))) patience
  | .wait ms => m.advanceTo k (Clock.endOfWait (k.clock m.state) ms) patience
  | .waitUntil time => m.advanceTo k (Nat.max time (k.clock m.state)) patience

def play (k : Kernel simulation S) (m : Machine simulation S Outcome) (moves : List Move) :
    Machine simulation S Outcome := moves.foldl (Move.play k) m

section Follows

variable {k : Kernel simulation S} {k' : Kernel simulation S'} {f : S → S'} (h : Follows k k' f)

include h

theorem play_move (m : Machine simulation S Outcome) (v : Move) :
    Move.play k' (m.mapState f) v = (Move.play k m v).mapState f := by
  cases v with
  | launch t => exact h.settle patience (m.spawn t)
  | finish t limit =>
    unfold Move.play
    rw [mapState, h.clock]
    exact h.runUntilDone m.threads.length _ patience (m.spawn t)
  | wait ms =>
    unfold Move.play
    rw [mapState, h.clock]
    exact h.advanceTo _ patience m
  | waitUntil time =>
    unfold Move.play
    rw [mapState, h.clock]
    exact h.advanceTo _ patience m

theorem play_mapState : ∀ (moves : List Move) (m : Machine simulation S Outcome),
    play k' (m.mapState f) moves = (play k m moves).mapState f
  | [], _ => rfl
  | v :: moves, m => by
    rw [play, List.foldl_cons, play_move h]
    exact play_mapState moves (Move.play k m v)

end Follows

/-- The machine with nothing written down yet. -/
def unwritten (m : Machine simulation S Outcome) : Machine simulation (S × List (Exchange simulation)) Outcome :=
  m.mapState (·, [])

/-- **Writing down what is served changes nothing of the run.** -/
theorem play_recording (k : Kernel simulation S) (m : Machine simulation S Outcome) (moves : List Move) :
    (play (recording k) (unwritten m) moves).mapState Prod.fst = play k m moves :=
  (play_mapState (follows_recording k) moves (unwritten m)).symm

namespace Running

/-- What a daemon that is set up can be told to do. -/
inductive Act where
  | operate (op : Operation)
  | launch (op : Operation)
  | idle (ms : Nat)
  | drain
  | untilSignal (signalTime timeoutSeconds : Nat)

/-- What an act gives. -/
inductive Yield where
  | nothing
  | outcome (o : Option Outcome)
  | thread (i : Nat)
  | events (es : List Event)
  | ending (e : Ending)

def act (r : Running) : Act → Yield × Running
  | .operate op => (.outcome (r.operate op).1, (r.operate op).2)
  | .launch op => (.thread (r.launch op).2, (r.launch op).1)
  | .idle ms => (.nothing, r.idle ms)
  | .drain => (.events r.drain.1, r.drain.2)
  | .untilSignal signalTime timeoutSeconds =>
    (.ending (r.untilSignal signalTime timeoutSeconds).1, (r.untilSignal signalTime timeoutSeconds).2)

/-- How the machine runs for an act.  Events are taken out of their channel without a run. -/
def moves (r : Running) : Act → List Move
  | .operate op => [.finish (r.thread op) none]
  | .launch op => [.launch (r.thread op)]
  | .idle ms => [.wait ms]
  | .drain => []
  | .untilSignal signalTime timeoutSeconds =>
    [.finish (r.thread .start) none, .waitUntil signalTime, .finish (r.thread .shutdown) (some (1000 * timeoutSeconds))]

theorem act_operate (r : Running) (op : Operation) : r.act (.operate op) =
    (.outcome ((play kernel r.machine [.finish (r.thread op) none]).result? r.machine.threads.length),
      { r with machine := play kernel r.machine [.finish (r.thread op) none] }) := by
  -- the fuel is made a variable here and below, lest the run be evaluated
  unfold act play operate runThread
  rw [List.foldl_cons, List.foldl_nil]
  unfold Move.play
  generalize patience = fuel
  rfl

theorem act_launch (r : Running) (op : Operation) : r.act (.launch op) =
    (.thread r.machine.threads.length, { r with machine := play kernel r.machine [.launch (r.thread op)] }) := rfl

theorem act_idle (r : Running) (ms : Nat) : r.act (.idle ms) =
    (.nothing, { r with machine := play kernel r.machine [.wait ms] }) := by
  unfold act play idle Simulation.idle
  rw [List.foldl_cons, List.foldl_nil]
  unfold Move.play
  generalize patience = fuel
  rfl

/-- The machine of a daemon that is started and waits for a signal. -/
def awaiting (r : Running) (signalTime : Nat) : Sim :=
  play kernel r.machine [.finish (r.thread .start) none, .waitUntil signalTime]

/-- The machine of a daemon that is started, waits for a signal and is shut down within some milliseconds. -/
def stopped (r : Running) (signalTime limit : Nat) : Sim :=
  play kernel (r.awaiting signalTime) [.finish (r.thread .shutdown) (some limit)]

theorem act_untilSignal (r : Running) (signalTime timeoutSeconds : Nat) : r.act (.untilSignal signalTime timeoutSeconds) =
    (.ending (if ((r.stopped signalTime (1000 * timeoutSeconds)).result? (r.awaiting signalTime).threads.length).isSome then
        .clean else .timedOut timeoutSeconds),
      { r with machine := r.stopped signalTime (1000 * timeoutSeconds) }) := by
  unfold act stopped awaiting play untilSignal operate runThread
  rw [List.foldl_cons, List.foldl_cons, List.foldl_nil, List.foldl_cons, List.foldl_nil]
  unfold Move.play
  generalize patience = fuel
  rfl

/-- The machine runs for an act as its moves say. -/
theorem machine_act (r : Running) {a : Act} (h : a ≠ .drain) : (r.act a).2.machine = play kernel r.machine (r.moves a) := by
  cases a with
  | drain => exact absurd rfl h
  | operate op => rw [act_operate, moves]
  | launch op => rw [act_launch, moves]
  | idle ms => rw [act_idle, moves]
  | untilSignal signalTime timeoutSeconds =>
    rw [act_untilSignal, moves, stopped, awaiting, play, play, play, ← List.foldl_append]
    rfl

/-- The requests that are served for an act, with their replies, in order. -/
def exchanges (r : Running) (a : Act) : List (Exchange simulation) :=
  (play (recording kernel) (unwritten r.machine) (r.moves a)).state.2

/-- **What is written down is what is served for the act**: the run that is written down is the run of the machine. -/
theorem recorded_act (r : Running) {a : Act} (h : a ≠ .drain) :
    (play (recording kernel) (unwritten r.machine) (r.moves a)).mapState Prod.fst = (r.act a).2.machine := by
  rw [play_recording, machine_act r h]

/-- What others see of an act. -/
structure Sight where
  yield : Yield
  clock : Nat
  status : Option Status
  exchanges : List (Exchange simulation)

def sight (r : Running) (a : Act) : Sight :=
  ⟨(r.act a).1, (r.act a).2.world.clock, (r.act a).2.status?, r.exchanges a⟩

/-- The daemon after some acts. -/
def after (r : Running) : List Act → Running
  | [] => r
  | a :: acts => (r.act a).2.after acts

/-- What others see of some acts, one after the other. -/
def sights (r : Running) : List Act → List Sight
  | [] => []
  | a :: acts => r.sight a :: (r.act a).2.sights acts

end Running
end Simulation
end AddressBinder
