import AddressBinder.Proofs.Lifecycle.Closing
import AddressBinder.Proofs.Simulation.Pausing
/-!
# The parts of a daemon's life

What a round of the periodic task, a start and a shutdown of the daemon's binder do over an instant, by how the binder
stands (`Instant.Stands`).  A pass takes no time and decides nothing about the course of the others (`alike_run`); the
start and the shutdown pause only between their attempts (`pauses_starting`, `pauses_stopping`).
-/
namespace AddressBinder

namespace Lifecycle

/-- What is left of a round that naps until a time. -/
def napping (b : Binder) (due : Nat) : Program lifecycle (Option Nat) :=
  (task (.nap due)).bind fun (cancelled : Bool) =>
    if cancelled then Schedule.Port.exit port else (scheduledPass b).bind (Schedule.afterPass port)

/-- What is left of a start after its attempts. -/
def arming (b : Binder) (outcome : Retry.Outcome Bool) : Program lifecycle Operation.Result :=
  (emit (.startupCompleted (outcome.value?.getD false) outcome.attempts)).bind fun _ =>
    (armSchedule b).bind fun _ => (control .release).bind fun _ => .done .ended

/-- What is left of a start that has begun to bind. -/
def starting (b : Binder) : Program lifecycle Operation.Result :=
  (Retry.run (policy b) (Clock.sleep clock) (fun _ => startupAttempt b)).bind (arming b)

/-- What is left of a shutdown after its attempts. -/
def leaving : Program lifecycle Operation.Result :=
  (ofPass (Pass.observe .stopped)).bind fun _ => (emit .stopped).bind fun _ => (control .release).bind fun _ => .done .ended

/-- What is left of a shutdown once the periodic task has ended. -/
def stopping (b : Binder) : Program lifecycle Operation.Result :=
  (emit .scheduleCancelled).bind fun _ =>
    (Retry.run (policy b) (Clock.sleep clock) (fun _ => shutdownAttempt b)).bind fun _ => leaving

/-- What is left of a shutdown that waits for the periodic task. -/
def awaiting (b : Binder) : Program lifecycle Operation.Result := (control .awaitExit).bind fun _ => stopping b

end Lifecycle

namespace Simulation

open Lifecycle Instant

namespace Instant

/-- How the binder stands: the stage of its schedule, whether its lock is held and shutdown has begun, and how many hold
it. -/
structure Stands (s : Instant) (stage : Schedule.Stage) (locked terminal : Bool) (holders : Nat) : Prop where
  schedule : s.state.schedule = stage
  locked : s.state.locked = locked
  terminal : s.state.status.phase.isTerminal = terminal
  holders : s.holders = holders

/-- The second instant is at the time of the first, and the binder differs in what decides nothing. -/
structure Alike (s t : Instant) : Prop where
  clock : t.clock = s.clock
  holders : t.holders = s.holders
  own : Lifecycle.Alike s.state t.state

def staged (s : Instant) (stage : Schedule.Stage) : Instant := { s with state := { s.state with schedule := stage } }

def own (s : Instant) (state : Lifecycle.State) : Instant := { s with state }

@[simp] theorem own_state (s : Instant) : s.own s.state = s := rfl

end Instant

variable {w : Daemon.Wiring} {b : Binder} {α : Type} {s t u : Instant} {stage : Schedule.Stage} {locked terminal : Bool}
  {holders delay due : Nat}

theorem Instant.Alike.trans (h : s.Alike t) (h' : t.Alike u) : s.Alike u where
  clock := h'.clock.trans h.clock
  holders := h'.holders.trans h.holders
  own := ⟨h'.own.started.trans h.own.started, h'.own.locked.trans h.own.locked,
    h'.own.schedule.trans h.own.schedule, h'.own.terminal.trans h.own.terminal⟩

theorem Instant.SameBinder.alike (h : s.SameBinder t) : s.Alike t :=
  ⟨h.clock, h.holders, h.state ▸ Lifecycle.Alike.refl s.state⟩

theorem Instant.Stands.alike (h : s.Stands stage locked terminal holders) (ha : s.Alike t) :
    t.Stands stage locked terminal holders where
  schedule := ha.own.schedule.trans h.schedule
  locked := ha.own.locked.trans h.locked
  terminal := ha.own.terminal.trans h.terminal
  holders := ha.holders.trans h.holders

/-! ## Requests of the binder about itself -/

theorem advance_own {o : Own} {k : o.Reply → Program lifecycle α} {reply : o.Reply} {state : Lifecycle.State}
    (h : s.state.serve s.clock o = some (reply, state)) :
    (Program.ask (σ := lifecycle) (.own o) k).advance (Instant.serve w) s =
      (k reply).advance (Instant.serve w) (s.own state) := by
  have hserved : Instant.serve w (.own o) s = some (reply, s.own state) := by
    simp only [Instant.serve, h, Option.map_some, Instant.own]
  exact Program.advance_of_some hserved

theorem Ends.done {J : α → Instant → Prop} {a : α} (h : J a s) : Ends w J (.done a) s := ⟨a, s, rfl, h⟩

theorem Ends.own {J : α → Instant → Prop} {o : Own} {k : o.Reply → Program lifecycle α} {reply : o.Reply}
    {state : Lifecycle.State} (h : s.state.serve s.clock o = some (reply, state)) (hk : Ends w J (k reply) (s.own state)) :
    Ends w J (.ask (.own o) k) s := by
  obtain ⟨a, t, hrun, hJ⟩ := hk
  exact ⟨a, t, (advance_own h).trans hrun, hJ⟩

theorem Ends.ofPass {β : Type} {J : α → Instant → Prop} {p : Program pass β} {f : β → Program lifecycle α}
    (h : Ends w J (f (p.run (servePass w) s).1) (p.run (servePass w) s).2) : Ends w J ((Lifecycle.ofPass p).bind f) s := by
  obtain ⟨a, t, hrun, hJ⟩ := h
  exact ⟨a, t, (Program.advance_bind_of_done (advance_ofPass p s)).trans hrun, hJ⟩

/-! ## Passes -/

/-- **A pass takes no time, and what the binder is to do next does not depend on it.** -/
theorem alike_run {Q : α → Unit → Prop} : ∀ {p : Program pass α} {s : Instant}, p.Keeps (withinPass civil) Q () →
    s.Alike (p.run (servePass w) s).2 ∧ Q (p.run (servePass w) s).1 ()
  | .done _, s, h => ⟨⟨rfl, rfl, .refl s.state⟩, h⟩
  | .ask (.call c) k, s, h => by
    obtain ⟨_, -, hrest⟩ := h (s.call w c).1
    obtain ⟨halike, hQ⟩ := alike_run (s := (s.call w c).2) hrest
    exact ⟨(sameBinder_call c s).alike.trans halike, hQ⟩
  | .ask (.note n) k, s, h => by
    obtain ⟨_, hcivil, hrest⟩ := h ()
    have hn : n ≠ .observe .stopped := by
      rintro rfl
      cases hcivil
    obtain ⟨halike, hQ⟩ := alike_run (s := { s with state := s.state.note s.clock n }) hrest
    have hnote : s.Alike { s with state := s.state.note s.clock n } := ⟨rfl, rfl, .note s.clock s.state hn⟩
    exact ⟨hnote.trans halike, hQ⟩

theorem civil_periodic : (Pass.periodic b).Keeps (withinPass civil) (fun _ _ => True) () :=
  (keeps_periodic.map (f := fun _ => ()) fun _ _ _ _ h => Tasking.isCivil_withinPass h).mono fun _ _ _ => trivial

theorem civil_attempt : (Pass.attempt b).Keeps (withinPass civil) (fun _ _ => True) () :=
  (Pass.keeps_attempt (u := ()) (v := ()) ⟨fun _ => rfl, fun _ _ _ _ _ => rfl⟩ fun _ =>
    ⟨fun _ _ => rfl, fun _ _ _ => rfl, fun _ => rfl, fun _ _ _ => rfl, fun _ => rfl⟩).mono fun _ _ _ => trivial

theorem civil_unbind : (Pass.unbind b).Keeps (withinPass civil) (fun _ _ => True) () :=
  (Pass.keeps_unbind (u := ()) ⟨fun _ => rfl, fun _ _ _ _ _ => rfl⟩ fun _ => ⟨fun _ => rfl, fun _ => rfl⟩).mono
    fun _ _ _ => trivial

theorem delay_periodic (b : Binder) (s : Instant) : ((Pass.periodic b).run (servePass w) s).1 = b.config.boundInterval ∨
    ((Pass.periodic b).run (servePass w) s).1 = b.config.unboundInterval := by
  have hconclude : ∀ (r : Except Error Bool) (t : Instant),
      ((Pass.conclude b r).run (servePass w) t).1 = b.config.boundInterval ∨
        ((Pass.conclude b r).run (servePass w) t).1 = b.config.unboundInterval := fun r _ =>
    match r with
    | .ok true => .inl rfl
    | .ok false => .inr rfl
    | .error _ => .inr rfl
  unfold Pass.periodic
  rw [Program.run_bind]
  exact hconclude _ _

/-! ## The rounds of the periodic task -/

theorem advance_laterRound (delay : Nat) (s : Instant) : (laterRound b delay).advance (Instant.serve w) s =
    (napping b (Clock.endOfWait s.clock delay)).advance (Instant.serve w) s := rfl

theorem serve_awaitArmed (h : s.state.schedule = .armed delay) :
    Instant.serve w (.own (.task .awaitArmed)) s = some (delay, s) := by
  simp only [Instant.serve, State.serve, h, Schedule.serve, Option.map_some]
  rw [← h]

theorem serve_awaitArmed_of_idle (h : s.state.schedule = .idle) : Instant.serve w (.own (.task .awaitArmed)) s = none := by
  simp [Instant.serve, State.serve, h, Schedule.serve]

theorem advance_firstRound (h : s.state.schedule = .armed delay) :
    (firstRound b).advance (Instant.serve w) s = (laterRound b delay).advance (Instant.serve w) s :=
  Program.advance_of_some (serve_awaitArmed h)

theorem serve_nap_of_lt (h : s.state.schedule = .armed delay) (hdue : s.clock < due) :
    Instant.serve w (.own (.task (.nap due))) s = none := by
  simp [Instant.serve, State.serve, h, Schedule.serve, Nat.not_le.2 hdue]

theorem serve_nap_of_le (h : s.state.schedule = .armed delay) (hdue : due ≤ s.clock) :
    Instant.serve w (.own (.task (.nap due))) s = some (false, s) := by
  simp only [Instant.serve, State.serve, h, Schedule.serve, if_pos hdue, Option.map_some]
  rw [← h]

theorem serve_nap_of_cancelled (h : s.state.schedule = .cancelled) (due : Nat) :
    Instant.serve w (.own (.task (.nap due))) s = some (true, s) := by
  simp only [Instant.serve, State.serve, h, Schedule.serve, Option.map_some]
  rw [← h]

/-- A nap of an armed schedule lasts until its time, -/
theorem advance_napping_of_lt (h : s.state.schedule = .armed delay) (hdue : s.clock < due) :
    (napping b due).advance (Instant.serve w) s = (napping b due, s) :=
  Program.advance_of_none (serve_nap_of_lt h hdue)

/-- and then a pass follows, which the next round comes after. -/
theorem advance_napping_of_le (h : s.state.schedule = .armed delay) (hdue : due ≤ s.clock) :
    (napping b due).advance (Instant.serve w) s =
      (.done (some ((Pass.periodic b).run (servePass w) s).1), ((Pass.periodic b).run (servePass w) s).2) := by
  have harmed : ((Pass.periodic b).run (servePass w) s).2.state.schedule = .armed delay :=
    (alike_run civil_periodic).1.own.schedule.trans h
  generalize hrun : (Pass.periodic b).run (servePass w) s = r at harmed
  have hpass : (scheduledPass b).advance (Instant.serve w) s = (.done (some r.1), r.2) := by
    refine (Program.advance_bind_of_done (advance_ofPass _ s)).trans ?_
    rw [hrun]
    rfl
  -- the pass has left the schedule armed, so another round follows
  have hgoesOn : Instant.serve w (.own (.task .isCancelled)) r.2 = some (false, r.2) := by
    have hother : (r.2.state.schedule == .cancelled) = false := by rw [harmed]; rfl
    simp only [Instant.serve, State.serve, Schedule.serve, Option.map_some, hother]
  refine (Program.advance_of_some (serve_nap_of_le h hdue)).trans ?_
  refine (Program.advance_bind_of_done hpass).trans ?_
  exact (Program.advance_of_some hgoesOn).trans rfl

/-- When the schedule is cancelled the task ends. -/
theorem advance_napping_of_cancelled (h : s.state.schedule = .cancelled) (due : Nat) :
    (napping b due).advance (Instant.serve w) s = (.done none, s.staged .exited) :=
  (Program.advance_of_some (serve_nap_of_cancelled h due)).trans rfl

/-! ## The start -/

theorem advance_start (h : s.Stands .idle false false holders) (hnew : s.state.started = false) :
    (Operation.start.program b).advance (Instant.serve w) s =
      (starting b).advance (Instant.serve w) (s.own { s.state with started := true, locked := true }) := by
  have hmark : s.state.serve s.clock (.control .markStarted) = some (false, { s.state with started := true }) := by
    simp [State.serve, State.control, hnew]
  have hacquire : ({ s.state with started := true } : Lifecycle.State).serve s.clock (.control .acquire) =
      some ((), { s.state with started := true, locked := true }) := by
    simp [State.serve, State.control, h.locked]
  refine (advance_own hmark).trans ?_
  refine (advance_own hacquire).trans ?_
  refine (advance_own rfl).trans ?_
  simp only [Instant.own, h.terminal, Bool.false_eq_true, if_false, bindAndArm, Program.done_bind, Program.bind_assoc]
  rfl

theorem ends_startupAttempt (h : s.Stands .idle true false holders) :
    Ends w (fun _ t => t.Stands .idle true false holders) (startupAttempt b) s := by
  refine .own rfl ?_
  simp only [h.terminal, Program.done_bind, Bool.false_eq_true, if_false]
  exact .ofPass (.done (h.alike (alike_run civil_attempt).1))

/-- The instant once a start has told of its outcome, armed the schedule and given the lock back. -/
def Instant.arming (s : Instant) (b : Binder) (outcome : Retry.Outcome Bool) : Instant :=
  s.own { s.state with
    channel := (s.state.channel.send (.startupCompleted (outcome.value?.getD false) outcome.attempts)).send
      (.scheduleArmed b.config.unboundInterval)
    locked := false
    schedule := .armed b.config.unboundInterval }

theorem advance_arming (h : s.Stands .idle true false holders) (outcome : Retry.Outcome Bool) :
    (arming b outcome).advance (Instant.serve w) s = (.done .ended, s.arming b outcome) := by
  unfold Lifecycle.arming Instant.arming
  generalize Event.startupCompleted (outcome.value?.getD false) outcome.attempts = e
  have hphase : (s.state.note s.clock (.emit e)).status.phase.isTerminal = false := h.terminal
  have harm : (s.state.note s.clock (.emit e)).serve s.clock (.control (.arm b.config.unboundInterval)) =
      some (true, { s.state.note s.clock (.emit e) with schedule := .armed b.config.unboundInterval }) := by
    simp [State.serve, State.control, State.note, h.schedule]
  refine (advance_own rfl).trans ?_
  refine (advance_own rfl).trans ?_
  simp only [Program.done_bind, Instant.own, hphase, Bool.false_eq_true, if_false]
  refine (advance_own harm).trans ?_
  refine (advance_own rfl).trans ?_
  exact (advance_own rfl).trans rfl

/-- **A start pauses between its attempts, and arms the schedule in the end.** -/
theorem pauses_starting (h : s.Stands .idle true false holders) :
    Pauses w (fun t => t.Stands .idle true false holders)
      (fun r t => r = .ended ∧ t.Stands (.armed b.config.unboundInterval) false false holders) b.config.retries
      (starting b) s := by
  refine pauses_retry (fun _ _ ht => ⟨ht.schedule, ht.locked, ht.terminal, ht.holders⟩)
    (fun _ _ ht => ends_startupAttempt ht) (fun outcome t ht => ?_) _ _ _ s h
  exact ⟨.ended, t.arming b outcome, advance_arming ht outcome, rfl, rfl, rfl, ht.terminal, ht.holders⟩

/-! ## The shutdown -/

/-- The instant once a shutdown has begun and cancelled the schedule. -/
def Instant.closing (s : Instant) : Instant :=
  s.own { s.state with status := s.state.status.move .shuttingDown, locked := true, schedule := .cancelled }

theorem advance_shutdown (h : s.Stands (.armed delay) false false holders) :
    (Operation.shutdown.program b).advance (Instant.serve w) s = (awaiting b, s.closing) := by
  have hbegin : s.state.serve s.clock (.control .beginShutdown) =
      some (true, { s.state with status := s.state.status.move .shuttingDown }) := by
    simp [State.serve, State.control, h.terminal]
  have hacquire : ({ s.state with status := s.state.status.move .shuttingDown } : Lifecycle.State).serve s.clock
      (.control .acquire) = some ((), { s.state with status := s.state.status.move .shuttingDown, locked := true }) := by
    simp [State.serve, State.control, h.locked]
  have hdisarm : ({ s.state with status := s.state.status.move .shuttingDown, locked := true } : Lifecycle.State).serve
      s.clock (.control .disarm) = some (true, { s.state with
        status := s.state.status.move .shuttingDown, locked := true, schedule := .cancelled }) := by
    simp [State.serve, State.control, State.isArmed, h.schedule]
  refine (advance_own hbegin).trans ?_
  refine (advance_own hacquire).trans ?_
  refine (advance_own hdisarm).trans ?_
  have hwaits : Instant.serve w (.own (.control .awaitExit)) s.closing = none := rfl
  refine (Program.advance_of_none hwaits).trans ?_
  simp only [awaiting, stopping, Program.bind_assoc]
  rfl

theorem advance_awaiting (h : s.state.schedule = .exited) :
    (awaiting b).advance (Instant.serve w) s = (stopping b).advance (Instant.serve w) s := by
  have hexited : s.state.serve s.clock (.control .awaitExit) = some ((), s.state) := by
    simp [State.serve, State.control, h]
  exact advance_own hexited

theorem ends_shutdownAttempt (h : s.Stands stage locked terminal holders) :
    Ends w (fun _ t => t.Stands stage locked terminal holders) (shutdownAttempt b) s := by
  refine .ofPass ?_
  have hstands : ((Pass.unbind b).run (servePass w) s).2.Stands stage locked terminal holders :=
    h.alike (alike_run civil_unbind).1
  cases ((Pass.unbind b).run (servePass w) s).1 with
  | error e => exact .done hstands
  | ok r => exact .done hstands

/-- The instant once a shutdown has told of its end and given the lock back. -/
def Instant.leaving (s : Instant) : Instant :=
  s.own { s.state with
    status := s.state.status.observe s.clock .stopped
    channel := s.state.channel.send .stopped
    locked := false }

theorem advance_leaving (s : Instant) : leaving.advance (Instant.serve w) s = (.done .ended, s.leaving) := rfl

theorem phase_leaving (s : Instant) : s.leaving.state.status.phase = .stopped := by
  simp [Instant.leaving, Instant.own, Status.observe, Status.move, Phase.move, Phase.isTerminal]

/-- **A shutdown pauses between its attempts, and is stopped in the end.** -/
theorem pauses_stopping (h : s.Stands .exited true true holders) :
    Pauses w (fun t => t.Stands .exited true true holders)
      (fun r t => r = .ended ∧ t.Stands .exited false true holders ∧ t.state.status.phase = .stopped) b.config.retries
      (stopping b) s := by
  have hfirst : (s.own (s.state.note s.clock (.emit .scheduleCancelled))).Stands .exited true true holders :=
    ⟨h.schedule, h.locked, h.terminal, h.holders⟩
  refine (pauses_retry (fun _ _ ht => ⟨ht.schedule, ht.locked, ht.terminal, ht.holders⟩)
    (fun _ _ ht => ends_shutdownAttempt ht) (fun _ t ht => ?_) _ _ _ _ hfirst).of_advance (advance_own rfl)
  exact ⟨.ended, t.leaving, advance_leaving t, rfl, ⟨ht.schedule, rfl, by rw [phase_leaving]; rfl, ht.holders⟩,
    phase_leaving t⟩

end Simulation
end AddressBinder
