import AddressBinder.Proofs.Simulation.Instant
/-!
# The daemon's threads

The threads of a daemon are its periodic task and the operations of its binder, each with what is left of a life-cycle
program.  A poll runs that program over the instant (`poll_task`, `poll_operation_of_done`, `poll_operation_of_ask`), and a
thread moves when the request that it has come to is served (`canMove_task`, `canMove_operation`).
-/
namespace AddressBinder
namespace Simulation

open Instant

section Threads

variable (w : Daemon.Wiring) (b : Binder)

/-- The periodic task with what is left of its round. -/
def task (p : Program lifecycle (Option Nat)) : Thread simulation Outcome :=
  { periodicThread Running.number b (Running.answer w) with
    program := (ofLifecycle Running.number (Running.answer w) p).bind fun next => .done (.round next) }

/-- An operation that holds the binder, with what is left of it. -/
def operation (p : Program lifecycle Operation.Result) : Thread simulation Outcome :=
  .once ((ofLifecycle Running.number (Running.answer w) p).bind fun r =>
    (ask (.letGo Running.number)).bind fun _ => .done (.operation r))

def ended (r : Operation.Result) : Thread simulation Outcome := .once (.done (.operation r))

/-- What is left of the periodic task after a poll: a round that has ended is followed by the next one. -/
def afterRound : Program lifecycle (Option Nat) → Program lifecycle (Option Nat)
  | .done (some delay) => Lifecycle.laterRound b delay
  | p => p

end Threads

/-- The instant with a holder of the binder more. -/
def Instant.hold (s : Instant) : Instant := { s with holders := s.holders + 1 }

/-- The instant with a holder of the binder less, who is not the last. -/
def Instant.letGo (s : Instant) : Instant := { s with holders := s.holders - 1 }

variable {w : Daemon.Wiring} {b : Binder} {α β : Type} {s : Instant}

/-! ## Polls -/

theorem serve_eq_none {p : Program lifecycle α} {r : Lifecycle.Request} {k : r.Reply → Program lifecycle α} {t : Instant}
    (h : p.advance (Instant.serve w) s = (.ask r k, t)) : Instant.serve w r t = none := by
  have hwaits : (p.advance (Instant.serve w) s).1.canAdvance (Instant.serve w) (p.advance (Instant.serve w) s).2 = false :=
    Program.canAdvance_advance p s
  rw [h] at hwaits
  exact Option.not_isSome_iff_eq_none.1 (Bool.not_eq_true _ ▸ hwaits)

theorem advance_ofLifecycle_of_done {p : Program lifecycle α} {f : α → Program simulation β} {a : α} {t : Instant}
    (h : p.advance (Instant.serve w) s = (.done a, t)) :
    ((ofLifecycle Running.number (Running.answer w) p).bind f).advance World.serve (s.world w b) =
      (f a).advance World.serve (t.world w b) := by
  have hrun := advance_ofLifecycle (w := w) (b := b) p s
  rw [h] at hrun
  exact Program.advance_bind_of_done hrun

theorem advance_ofLifecycle_of_ask {p : Program lifecycle α} {f : α → Program simulation β} {r : Lifecycle.Request}
    {k : r.Reply → Program lifecycle α} {t : Instant} (h : p.advance (Instant.serve w) s = (.ask r k, t)) :
    ((ofLifecycle Running.number (Running.answer w) p).bind f).advance World.serve (s.world w b) =
      ((ofLifecycle Running.number (Running.answer w) (.ask r k)).bind f, t.world w b) := by
  have hrun := advance_ofLifecycle (w := w) (b := b) p s
  have hnone := serve_eq_none h
  rw [h] at hrun
  -- a program that waits does not stand at a call, which is served at once
  cases r with
  | call c => cases hnone
  | clock r => exact Program.advance_bind_of_ask hrun
  | own o => exact Program.advance_bind_of_ask hrun

/-- **A poll of the periodic task runs its round**, and goes on to the next one when it ends. -/
theorem poll_task {p q : Program lifecycle (Option Nat)} {t : Instant} (h : p.advance (Instant.serve w) s = (q, t)) :
    (task w b p).poll kernel (s.world w b) = (task w b (afterRound b q), t.world w b) := by
  have hpoll : (task w b p).poll kernel (s.world w b) =
      ({ task w b p with program := ((task w b p).program.advance World.serve (s.world w b)).1 }.restart,
        ((task w b p).program.advance World.serve (s.world w b)).2) := rfl
  rw [hpoll]
  cases q with
  | done next =>
    have hrun : (task w b p).program.advance World.serve (s.world w b) = (.done (.round next), t.world w b) :=
      advance_ofLifecycle_of_done h
    rw [hrun]
    cases next <;> rfl
  | ask r k =>
    have hrun : (task w b p).program.advance World.serve (s.world w b) = ((task w b (.ask r k)).program, t.world w b) :=
      advance_ofLifecycle_of_ask h
    have hnone := serve_eq_none h
    rw [hrun]
    cases r with
    | call c => cases hnone
    | clock r => rfl
    | own o => rfl

theorem poll_once {p q : Program simulation Outcome} {x y : World} (h : p.advance World.serve x = (q, y)) :
    (Thread.once p).poll kernel x = (.once q, y) := by
  have hpoll : (Thread.once p).poll kernel x =
      ((Thread.once (p.advance World.serve x).1).restart, (p.advance World.serve x).2) := rfl
  rw [hpoll, h]
  cases q <;> rfl

/-- **A poll of an operation runs it**, to its end, when the binder is let go, -/
theorem poll_operation_of_done {p : Program lifecycle Operation.Result} {r : Operation.Result} {t : Instant}
    (h : p.advance (Instant.serve w) s = (.done r, t)) (hheld : 1 < t.holders) :
    (operation w p).poll kernel (s.world w b) = (ended r, t.letGo.world w b) := by
  have hlast : ¬ t.holders ≤ 1 := Nat.not_le.2 hheld
  have hmember : (t.member w b).letGo = t.letGo.member w b := by
    simp [Member.letGo, Instant.member, Instant.letGo, hlast]
  have hletGo : World.serve (.letGo Running.number) (t.world w b) = some ((), t.letGo.world w b) := by
    unfold Instant.world
    rw [← hmember]
    rfl
  have hend : (operation w p).program.advance World.serve (s.world w b) = (.done (.operation r), t.letGo.world w b) :=
    (advance_ofLifecycle_of_done h).trans (Program.advance_of_some hletGo)
  exact poll_once hend

/-- or as far as it can get. -/
theorem poll_operation_of_ask {p : Program lifecycle Operation.Result} {r : Lifecycle.Request}
    {k : r.Reply → Program lifecycle Operation.Result} {t : Instant}
    (h : p.advance (Instant.serve w) s = (.ask r k, t)) :
    (operation w p).poll kernel (s.world w b) = (operation w (.ask r k), t.world w b) :=
  poll_once (advance_ofLifecycle_of_ask h)

/-! ## When they move -/

theorem canAdvance_ofLifecycle {r : Lifecycle.Request} {k : r.Reply → Program lifecycle α}
    {f : α → Program simulation β} (hr : ∀ c, r ≠ .call c) :
    ((ofLifecycle Running.number (Running.answer w) (.ask r k)).bind f).canAdvance World.serve (s.world w b) =
      (Instant.serve w r s).isSome := by
  cases r with
  | call c => exact absurd rfl (hr c)
  | clock r =>
    show (Option.map _ (Clock.serve s.clock r)).isSome = (Option.map _ (Clock.serve s.clock r)).isSome
    exact Option.isSome_map.trans Option.isSome_map.symm
  | own o =>
    show (Option.map _ (s.state.serve s.clock o)).isSome = (Option.map _ (s.state.serve s.clock o)).isSome
    exact Option.isSome_map.trans Option.isSome_map.symm

theorem canMove_task {r : Lifecycle.Request} {k : r.Reply → Program lifecycle (Option Nat)} (hr : ∀ c, r ≠ .call c) :
    (task w b (.ask r k)).canMove kernel (s.world w b) = (Instant.serve w r s).isSome :=
  canAdvance_ofLifecycle hr

theorem canMove_operation {r : Lifecycle.Request} {k : r.Reply → Program lifecycle Operation.Result}
    (hr : ∀ c, r ≠ .call c) : (operation w (.ask r k)).canMove kernel (s.world w b) = (Instant.serve w r s).isSome :=
  canAdvance_ofLifecycle hr

theorem canMove_operationThread (op : Operation) :
    (operationThread Running.number b (Running.answer w) op).canMove kernel (s.world w b) = true := rfl

/-- **A new operation begins to hold the binder** and then runs. -/
theorem poll_operationThread (op : Operation) :
    (operationThread Running.number b (Running.answer w) op).poll kernel (s.world w b) =
      (operation w (op.program b)).poll kernel (s.hold.world w b) := by
  have hhold : World.serve (.hold Running.number) (s.world w b) = some ((), s.hold.world w b) := rfl
  have hrun : (operationThread Running.number b (Running.answer w) op).program.advance World.serve (s.world w b) =
      (operation w (op.program b)).program.advance World.serve (s.hold.world w b) := Program.advance_of_some hhold
  exact (poll_once hrun).trans (poll_once rfl).symm

/-- **An operation whose request is served goes on** from the reply. -/
theorem poll_operation_of_served {r : Lifecycle.Request} {k : r.Reply → Program lifecycle Operation.Result}
    {reply : r.Reply} {t : Instant} (hr : ∀ c, r ≠ .call c) (h : Instant.serve w r s = some (reply, t)) :
    (operation w (.ask r k)).poll kernel (s.world w b) = (operation w (k reply)).poll kernel (t.world w b) := by
  have hrun : (operation w (.ask r k)).program.advance World.serve (s.world w b) =
      (operation w (k reply)).program.advance World.serve (t.world w b) := by
    cases r with
    | call c => exact absurd rfl (hr c)
    | clock r =>
      obtain ⟨x, hx, heq⟩ := Option.map_eq_some_iff.1 h
      cases heq
      exact Program.advance_of_some (congrArg (Option.map fun reply => (reply, s.world w b)) hx)
    | own o =>
      obtain ⟨x, hx, heq⟩ := Option.map_eq_some_iff.1 h
      cases heq
      refine Program.advance_of_some ((serve_own o s).trans ?_)
      rw [hx]
      rfl
  exact (poll_once hrun).trans (poll_once rfl).symm

end Simulation
end AddressBinder
