import AddressBinder.Program
/-!
# Threads on a simulated clock

A machine is a shared state and threads, each a program at its next request.  Polling a thread serves its requests from
the state until it ends or has to wait; nothing else happens, so between two requests that wait a thread is not
interrupted.  Time passes only when every thread waits: the clock then jumps to the earliest time that one waits for.
Every run is a sequence of polls and clock changes, whatever order they are chosen in.
-/
namespace AddressBinder

/-- A thread: what is left of its program, and what follows a result, if the thread goes on. -/
structure Thread (σ : Signature) (α : Type) where
  program : Program σ α
  next : α → Option (Program σ α)

/-- How requests of a kind are served from a state that has a clock. -/
structure Kernel (σ : Signature) (S : Type) where
  serve : (r : σ.Request) → S → Option (σ.Reply r × S)
  due : σ.Request → Option Nat
  clock : S → Nat
  setClock : Nat → S → S

/-- A shared state and its threads. -/
structure Machine (σ : Signature) (S α : Type) where
  state : S
  threads : List (Thread σ α)

variable {σ : Signature} {S α : Type}

namespace Thread

def once (p : Program σ α) : Thread σ α := ⟨p, fun _ => none⟩

/-- Whether polling changes anything. -/
def canMove (k : Kernel σ S) (t : Thread σ α) (s : S) : Bool := t.program.canAdvance k.serve s

/-- The thread going on after a result, if it does. -/
def restart (t : Thread σ α) : Thread σ α :=
  match t.program with
  | .done a =>
    match t.next a with
    | some p => { t with program := p }
    | none => t
  | .ask .. => t

/-- Runs the thread until it ends, goes on or waits. -/
def poll (k : Kernel σ S) (t : Thread σ α) (s : S) : Thread σ α × S :=
  let r := t.program.advance k.serve s
  ({ t with program := r.1 }.restart, r.2)

def due (k : Kernel σ S) (t : Thread σ α) : Option Nat :=
  match t.program with
  | .done _ => none
  | .ask r _ => k.due r

end Thread

namespace Machine

def pollFirst (k : Kernel σ S) : List (Thread σ α) → S → Option (List (Thread σ α) × S)
  | [], _ => none
  | t :: ts, s =>
    if t.canMove k s then some ((t.poll k s).1 :: ts, (t.poll k s).2)
    else (pollFirst k ts s).map (fun r => (t :: r.1, r.2))

/-- Polls threads until every one waits or has ended, at most `fuel` times. -/
def settle (k : Kernel σ S) : (fuel : Nat) → Machine σ S α → Machine σ S α
  | 0, m => m
  | fuel + 1, m =>
    match pollFirst k m.threads m.state with
    | none => m
    | some (threads, state) => settle k fuel ⟨state, threads⟩

/-- The earliest time that a thread waits for. -/
def nextDue (k : Kernel σ S) (m : Machine σ S α) : Option Nat :=
  (m.threads.filterMap (Thread.due k)).min?

def spawn (m : Machine σ S α) (t : Thread σ α) : Machine σ S α := { m with threads := m.threads ++ [t] }

/-- The result of the thread with a number. -/
def result? (m : Machine σ S α) (i : Nat) : Option α :=
  match m.threads[i]? with
  | some t => t.program.result?
  | none => none

def setClock (k : Kernel σ S) (time : Nat) (m : Machine σ S α) : Machine σ S α :=
  { m with state := k.setClock time m.state }

/-- Lets everything happen that is due up to a time; the clock then shows that time. -/
def advanceTo (k : Kernel σ S) (time : Nat) : (fuel : Nat) → Machine σ S α → Machine σ S α
  | 0, m => m
  | fuel + 1, m =>
    let m := m.settle k (fuel + 1)
    match m.nextDue k with
    | none => m.setClock k time
    | some due => if due ≤ time then advanceTo k time fuel (m.setClock k due) else m.setClock k time

/-- Whether a time is past a limit, if there is one. -/
def isPast (limit : Option Nat) (time : Nat) : Bool :=
  match limit with
  | some last => last < time
  | none => false

/-- Runs until the thread with a number has ended and everything else waits, but not past the limit, if there is one. -/
def runUntilDone (k : Kernel σ S) (i : Nat) (limit : Option Nat) : (fuel : Nat) → Machine σ S α → Machine σ S α
  | 0, m => m
  | fuel + 1, m =>
    let m := m.settle k (fuel + 1)
    match m.result? i with
    | some _ => m
    | none =>
      match m.nextDue k with
      | none => m
      | some due =>
        if isPast limit due then m.setClock k (limit.getD due)
        else runUntilDone k i limit fuel (m.setClock k due)

end Machine
end AddressBinder
