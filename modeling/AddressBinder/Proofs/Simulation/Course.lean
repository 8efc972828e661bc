import AddressBinder.Proofs.Simulation.Parts
/-!
# The course of a daemon

A daemon is fresh until it is started, serves until it is shut down, and then is closed.  A start leaves it serving
(`Fresh.start`); it goes on serving however long nothing else happens (`Serving.advanceTo`); and a shutdown comes to wait
for the periodic task, which ends at once, so that nothing is left to do but the rest of the shutdown
(`Serving.polls_shutdown`).
-/
namespace AddressBinder
namespace Simulation

open Lifecycle Instant

variable {w : Daemon.Wiring} {b : Binder} {s t : Instant} {I K L : Instant → Prop}
  {J : Operation.Result → Instant → Prop}

/-- What the periodic task of a daemon that is up may be at: a nap, or the beginning of a round that naps. -/
inductive Idles (b : Binder) : Program lifecycle (Option Nat) → Prop where
  | napping (due : Nat) : Idles b (napping b due)
  | round {delay : Nat} (h : 0 < delay) : Idles b (laterRound b delay)

/-- The daemon was not started yet. -/
structure Fresh (w : Daemon.Wiring) (b : Binder) (s : Instant) (m : Sim) : Prop where
  machine : m = ⟨s.world w b, [task w b (firstRound b)]⟩
  stands : s.Stands .idle false false 1
  new : s.state.started = false

/-- The daemon was started. -/
def Serving (w : Daemon.Wiring) (b : Binder) (K : Instant → Prop) (m : Sim) : Prop :=
  ∃ s p, m = ⟨s.world w b, [task w b p, ended .ended]⟩ ∧ Idles b p ∧
    s.Stands (.armed b.config.unboundInterval) false false 1 ∧ K s

/-- The daemon was shut down. -/
def Closed (w : Daemon.Wiring) (b : Binder) (K : Instant → Prop) (m : Sim) : Prop :=
  ∃ s, m = ⟨s.world w b, [task w b (.done none), ended .ended, ended .ended]⟩ ∧ K s

/-- What passes and time keep, while the daemon is up. -/
structure Upheld (w : Daemon.Wiring) (b : Binder) (K : Instant → Prop) : Prop where
  clock : ∀ s time, K s → K (s.at time)
  pass : ∀ s, s.Stands (.armed b.config.unboundInterval) false false 1 → K s →
    K ((Pass.periodic b).run (servePass w) s).2

/-- The intervals of the binder are positive. -/
structure Ticks (b : Binder) : Prop where
  bound : 0 < b.config.boundInterval
  unbound : 0 < b.config.unboundInterval

/-! ## The periodic task -/

section Task

variable {delay due : Nat} {rest : List (Thread simulation Outcome)}

theorem canMove_napping (b : Binder) (due : Nat) (s : Instant) : (task w b (napping b due)).canMove kernel (s.world w b) =
    (Instant.serve w (.own (.task (.nap due))) s).isSome :=
  canMove_task (r := .own (.task (.nap due))) nofun

theorem canMove_firstRound (b : Binder) (s : Instant) : (task w b (firstRound b)).canMove kernel (s.world w b) =
    (Instant.serve w (.own (.task .awaitArmed)) s).isSome :=
  canMove_task (r := .own (.task .awaitArmed)) nofun

theorem rests_firstRound (hs : s.state.schedule = .idle) :
    ∀ t ∈ [task w b (firstRound b)], t.canMove kernel (s.world w b) = false :=
  List.forall_mem_singleton.2 ((canMove_firstRound b s).trans (congrArg Option.isSome (serve_awaitArmed_of_idle hs)))

theorem rests_napping (hs : s.state.schedule = .armed delay) (hdue : s.clock < due) :
    ∀ t ∈ [task w b (napping b due), ended .ended], t.canMove kernel (s.world w b) = false := by
  have hnaps := (canMove_napping (w := w) b due s).trans (congrArg Option.isSome (serve_nap_of_lt hs hdue))
  exact List.forall_mem_cons.2 ⟨hnaps, List.forall_mem_singleton.2 rfl⟩

theorem pollFirst_task {p q : Program lifecycle (Option Nat)} (hmoves : (task w b p).canMove kernel (s.world w b) = true)
    (h : p.advance (Instant.serve w) s = (q, t)) :
    Machine.pollFirst kernel (task w b p :: rest) (s.world w b) =
      some (task w b (afterRound b q) :: rest, t.world w b) := by
  have hfirst : Machine.pollFirst kernel ([] ++ task w b p :: rest) (s.world w b) = _ :=
    Machine.pollFirst_append hmoves (List.forall_mem_nil _)
  rw [poll_task h] at hfirst
  exact hfirst

theorem pollFirst_round (hs : s.state.schedule = .armed delay) {ms : Nat} (hms : 0 < ms) :
    Machine.pollFirst kernel (task w b (laterRound b ms) :: rest) (s.world w b) =
      some (task w b (napping b (Clock.endOfWait s.clock ms)) :: rest, s.world w b) :=
  pollFirst_task rfl ((advance_laterRound ms s).trans (advance_napping_of_lt hs (Clock.lt_endOfWait hms)))

theorem pollFirst_pass (hs : s.state.schedule = .armed delay) (hdue : due ≤ s.clock) :
    Machine.pollFirst kernel (task w b (napping b due) :: rest) (s.world w b) =
      some (task w b (laterRound b ((Pass.periodic b).run (servePass w) s).1) :: rest,
        ((Pass.periodic b).run (servePass w) s).2.world w b) :=
  pollFirst_task ((canMove_napping b due s).trans (congrArg Option.isSome (serve_nap_of_le hs hdue)))
    (advance_napping_of_le hs hdue)

theorem Ticks.delay_pos (hb : Ticks b) (s : Instant) : 0 < ((Pass.periodic b).run (servePass w) s).1 := by
  rcases delay_periodic b s with h | h
  · exact h ▸ hb.bound
  · exact h ▸ hb.unbound

variable {p : Program lifecycle (Option Nat)}

/-- **The task comes to nap**, perhaps after a pass. -/
theorem polls_idles (hb : Ticks b) (hK : Upheld w b K) (rest : List (Thread simulation Outcome)) (hp : Idles b p)
    (hs : s.Stands (.armed b.config.unboundInterval) false false 1) (hKs : K s) :
    ∃ n t due, n ≤ 2 ∧
      Machine.Polls kernel n ⟨s.world w b, task w b p :: rest⟩ ⟨t.world w b, task w b (napping b due) :: rest⟩ ∧
      t.clock < due ∧ t.Stands (.armed b.config.unboundInterval) false false 1 ∧ K t := by
  cases hp with
  | round h =>
    exact ⟨1, s, _, by omega, .cons (pollFirst_round hs.schedule h) (.refl _), Clock.lt_endOfWait h, hs, hKs⟩
  | napping due =>
    by_cases hdue : s.clock < due
    · exact ⟨0, s, due, by omega, .refl _, hdue, hs, hKs⟩
    · have hpass : ((Pass.periodic b).run (servePass w) s).2.Stands (.armed b.config.unboundInterval) false false 1 :=
        hs.alike (alike_run civil_periodic).1
      have hms := hb.delay_pos (w := w) s
      exact ⟨2, _, _, by omega, .cons (pollFirst_pass hs.schedule (Nat.not_lt.1 hdue))
        (.cons (pollFirst_round hpass.schedule hms) (.refl _)), Clock.lt_endOfWait hms, hpass, hK.pass s hs hKs⟩

end Task

/-! ## The start -/

theorem Serving.result? {m : Sim} (h : Serving w b K m) : m.result? 1 = some (.operation .ended) := by
  obtain ⟨s, p, rfl, -⟩ := h
  rfl

theorem attends_start (hb : Ticks b) (hI : ∀ t, I t → t.Stands .idle true false 2) (hclock : ∀ t time, I t → I (t.at time))
    (hJ : ∀ r t, J r t → r = .ended ∧ t.Stands (.armed b.config.unboundInterval) false false 2 ∧ K t.letGo) :
    Attends w b [task w b (firstRound b)] I J (Serving w b K) where
  rests t ht := rests_firstRound (hI t ht).schedule
  due := List.forall_mem_singleton.2 rfl
  clock := hclock
  held r t h := by
    obtain ⟨-, hs, -⟩ := hJ r t h
    rw [hs.holders]
    decide
  ends r t h := by
    obtain ⟨rfl, hs, hK⟩ := hJ r t h
    have hletGo : t.letGo.Stands (.armed b.config.unboundInterval) false false 1 :=
      ⟨hs.schedule, hs.locked, hs.terminal, by rw [Instant.letGo, hs.holders]⟩
    -- the armed schedule lets the task move once, to its first nap
    have harmed : Machine.pollFirst kernel ([task w b (firstRound b)] ++ [ended .ended]) (t.letGo.world w b) =
        some (task w b (napping b (Clock.endOfWait t.clock b.config.unboundInterval)) :: [ended .ended],
          t.letGo.world w b) := by
      have hround : (firstRound b).advance (Instant.serve w) t.letGo =
          (napping b (Clock.endOfWait t.clock b.config.unboundInterval), t.letGo) :=
        (advance_firstRound hletGo.schedule).trans
          (advance_napping_of_lt hletGo.schedule (Clock.lt_endOfWait hb.unbound))
      exact pollFirst_task ((canMove_firstRound b t.letGo).trans
        (congrArg Option.isSome (serve_awaitArmed hletGo.schedule))) hround
    have hlt : t.clock < Clock.endOfWait t.clock b.config.unboundInterval := Clock.lt_endOfWait hb.unbound
    exact ⟨1, _, by omega, .cons harmed (.refl _), rests_napping hletGo.schedule hlt, rfl, t.letGo, _, rfl, .napping _,
      hletGo, hK⟩

/-- The instant once a start that holds the binder has taken the lock. -/
def Instant.marked (s : Instant) : Instant := s.hold.own { s.state with started := true, locked := true }

theorem Fresh.marked {m : Sim} (h : Fresh w b s m) : s.marked.Stands .idle true false 2 where
  schedule := h.stands.schedule
  locked := rfl
  terminal := h.stands.terminal
  holders := congrArg (· + 1) h.stands.holders

/-- **A start leaves the daemon serving.** -/
theorem Fresh.start (hb : Ticks b) {m : Sim} (h : Fresh w b s m) (hI : ∀ t, I t → t.Stands .idle true false 2)
    (hclock : ∀ t time, I t → I (t.at time))
    (hJ : ∀ r t, J r t → r = .ended ∧ t.Stands (.armed b.config.unboundInterval) false false 2 ∧ K t.letGo) {n : Nat}
    (hn : n + 3 ≤ patience)
    (hp : Pauses w I J n (starting b) s.marked) :
    ∃ m', runThread m (operationThread Running.number b (Running.answer w) .start) = (some (.operation .ended), m') ∧
      Serving w b K m' := by
  obtain ⟨rfl, hs, hnew⟩ := h
  have hpoised : Poised w b [task w b (firstRound b)] (Operation.start.program b) s.hold (s.world w b)
      (operationThread Running.number b (Running.answer w) .start) :=
    ⟨rests_firstRound hs.schedule, canMove_operationThread .start, poll_operationThread .start⟩
  have hhold : s.hold.Stands .idle false false 2 := ⟨hs.schedule, hs.locked, hs.terminal, by rw [Instant.hold, hs.holders]⟩
  have hnow : Machine.Polls kernel 0 ((⟨s.world w b, [task w b (firstRound b)]⟩ : Sim).spawn
      (operationThread Running.number b (Running.answer w) .start)) ⟨s.world w b, [task w b (firstRound b)] ++
      [operationThread Running.number b (Running.answer w) .start]⟩ := .refl _
  have hfuel : 0 + n + 3 ≤ patience := by omega
  rcases (attends_start hb hI hclock hJ).over_or_late none n hnow hpoised
    (hp.of_advance (advance_start hhold hnew)) hfuel with ⟨r, -, hserving⟩ | ⟨-, last, hlimit, -⟩
  · exact ⟨_, Prod.ext hserving.result? rfl, hserving⟩
  · cases hlimit

/-! ## While nothing else happens -/

theorem Serving.mono {m : Sim} (h : Serving w b K m) (hK : ∀ t, K t → L t) : Serving w b L m := by
  obtain ⟨s, p, hm, hp, hs, hKs⟩ := h
  exact ⟨s, p, hm, hp, hs, hK s hKs⟩

theorem Serving.pollFirst (hb : Ticks b) (hK : Upheld w b K) {m : Sim} (h : Serving w b K m)
    {r : List (Thread simulation Outcome) × World} (hr : Machine.pollFirst kernel m.threads m.state = some r) :
    Serving w b K ⟨r.2, r.1⟩ := by
  obtain ⟨s, p, rfl, hp, hs, hKs⟩ := h
  cases hp with
  | round hms =>
    rw [pollFirst_round hs.schedule hms] at hr
    obtain rfl := Option.some.inj hr
    exact ⟨s, _, rfl, .napping _, hs, hKs⟩
  | napping due =>
    by_cases hdue : s.clock < due
    · rw [Machine.pollFirst_of_rests (rests_napping hs.schedule hdue)] at hr
      cases hr
    · rw [pollFirst_pass hs.schedule (Nat.not_lt.1 hdue)] at hr
      obtain rfl := Option.some.inj hr
      exact ⟨_, _, rfl, .round (hb.delay_pos s), hs.alike (alike_run civil_periodic).1, hK.pass s hs hKs⟩

/-- **The daemon stays up while time passes.** -/
theorem Serving.advanceTo (hb : Ticks b) (hK : Upheld w b K) {m : Sim} (h : Serving w b K m) (time fuel : Nat) :
    Serving w b K (m.advanceTo kernel time fuel) := by
  refine Machine.advanceTo_keeps (fun h hr => h.pollFirst hb hK hr) (fun time h => ?_) time fuel h
  obtain ⟨s, p, rfl, hp, hs, hKs⟩ := h
  exact ⟨s.at time, p, rfl, hp, ⟨hs.schedule, hs.locked, hs.terminal, hs.holders⟩, hK.clock s time hKs⟩

/-! ## The shutdown -/

theorem attends_shutdown (hclock : ∀ t time, I t → I (t.at time))
    (hJ : ∀ r t, J r t → t.holders = 2 ∧ r = .ended ∧ L t.letGo) :
    Attends w b [task w b (.done none), ended .ended] I J (Closed w b L) where
  rests _ _ := List.forall_mem_cons.2 ⟨rfl, List.forall_mem_singleton.2 rfl⟩
  due := List.forall_mem_cons.2 ⟨rfl, List.forall_mem_singleton.2 rfl⟩
  clock := hclock
  held r t h := by
    rw [(hJ r t h).1]
    decide
  ends r t h := by
    obtain ⟨-, rfl, hL⟩ := hJ r t h
    have hrests : (⟨t.letGo.world w b, [task w b (.done none), ended .ended] ++ [ended .ended]⟩ : Sim).Rests kernel :=
      List.forall_mem_cons.2 ⟨rfl, List.forall_mem_cons.2 ⟨rfl, List.forall_mem_singleton.2 rfl⟩⟩
    exact ⟨0, _, by omega, .refl _, hrests, rfl, t.letGo, rfl, hL⟩

/-- The instant once a shutdown that holds the binder has begun and the periodic task has ended. -/
def Instant.quiet (s : Instant) : Instant := s.hold.closing.staged .exited

theorem Instant.Stands.quiet {delay : Nat} (h : s.Stands (.armed delay) false false 1) :
    s.quiet.Stands .exited true true 2 where
  schedule := rfl
  locked := rfl
  terminal := Phase.isTerminal_move rfl
  holders := congrArg (· + 1) h.holders

/-- **A shutdown waits for the periodic task, which ends at once**; then the rest of the shutdown is all that is left. -/
theorem Serving.polls_shutdown (hb : Ticks b) (hK : Upheld w b K) {m : Sim} (h : Serving w b K m) :
    ∃ n s, n ≤ 4 ∧ K s ∧ s.Stands (.armed b.config.unboundInterval) false false 1 ∧
      Machine.Polls kernel n (m.spawn (operationThread Running.number b (Running.answer w) .shutdown))
        ⟨s.quiet.world w b, [task w b (.done none), ended .ended] ++ [operation w (awaiting b)]⟩ := by
  obtain ⟨s, p, rfl, hp, hs, hKs⟩ := h
  obtain ⟨n, t, due, hn, hpolls, hdue, ht, hKt⟩ := polls_idles hb hK
    [ended .ended, operationThread Running.number b (Running.answer w) .shutdown] hp hs hKs
  -- now that the task naps, the shutdown moves: it cancels the schedule, which wakes the task and ends it
  have hbegins : Machine.pollFirst kernel
      ([task w b (napping b due), ended .ended] ++ [operationThread Running.number b (Running.answer w) .shutdown])
      (t.world w b) = some ([task w b (napping b due), ended .ended] ++ [operation w (awaiting b)],
        t.hold.closing.world w b) := by
    have hhold : t.hold.Stands (.armed b.config.unboundInterval) false false 2 :=
      ⟨ht.schedule, ht.locked, ht.terminal, by rw [Instant.hold, ht.holders]⟩
    rw [Machine.pollFirst_append (canMove_operationThread .shutdown) (rests_napping ht.schedule hdue),
      poll_operationThread, poll_operation_of_ask (advance_shutdown hhold)]
    rfl
  have hexits : Machine.pollFirst kernel ([task w b (napping b due), ended .ended] ++ [operation w (awaiting b)])
      (t.hold.closing.world w b) =
      some ([task w b (.done none), ended .ended] ++ [operation w (awaiting b)], t.quiet.world w b) := by
    have hcancelled : t.hold.closing.state.schedule = .cancelled := rfl
    exact pollFirst_task ((canMove_napping b due t.hold.closing).trans
      (congrArg Option.isSome (serve_nap_of_cancelled hcancelled due))) (advance_napping_of_cancelled hcancelled due)
  exact ⟨n + 2, t, by omega, hKt, ht, hpolls.trans (.cons hbegins (.cons hexits (.refl _)))⟩

theorem poised_awaiting (s : Instant) : Poised w b [task w b (.done none), ended .ended] (awaiting b) s.quiet
    (s.quiet.world w b) (operation w (awaiting b)) where
  quiet := List.forall_mem_cons.2 ⟨rfl, List.forall_mem_singleton.2 rfl⟩
  moves := (canMove_operation (r := .own (.control .awaitExit)) nofun).trans rfl
  poll := rfl

theorem Serving.length_threads {m : Sim} (h : Serving w b K m) : m.threads.length = 2 := by
  obtain ⟨s, p, rfl, -⟩ := h
  rfl

theorem Closed.result? {m : Sim} (h : Closed w b L m) : m.result? 2 = some (.operation .ended) := by
  obtain ⟨s, rfl, -⟩ := h
  rfl

section Shutdown

variable {m : Sim} (hb : Ticks b) (hK : Upheld w b K) (h : Serving w b K m) (hclock : ∀ t time, I t → I (t.at time))
  (hJ : ∀ r t, J r t → t.holders = 2 ∧ r = .ended ∧ L t.letGo) (limit : Option Nat)

include hb hK h hclock hJ

/-- **A shutdown closes the daemon, unless it still pauses at the limit.** -/
theorem Serving.shutdown {n : Nat} (hn : n + 7 ≤ patience)
    (hp : ∀ s, K s → s.Stands (.armed b.config.unboundInterval) false false 1 → Pauses w I J n (stopping b) s.quiet) :
    Closed w b L ((m.spawn (operationThread Running.number b (Running.answer w) .shutdown)).runUntilDone kernel
        m.threads.length limit patience) ∨
      Late m.threads.length limit ((m.spawn (operationThread Running.number b (Running.answer w) .shutdown)).runUntilDone
        kernel m.threads.length limit patience) := by
  obtain ⟨n₀, s, hn₀, hKs, hs, hpolls⟩ := h.polls_shutdown hb hK
  have hfuel : n₀ + n + 3 ≤ patience := by omega
  have hpauses := (hp s hKs hs).of_advance (advance_awaiting rfl)
  rw [h.length_threads]
  exact ((attends_shutdown hclock hJ).over_or_late limit n hpolls (poised_awaiting s) hpauses hfuel).imp
    (fun ⟨_, _, hclosed⟩ => hclosed) id

/-- A shutdown that does not pause closes the daemon. -/
theorem Serving.shutdown_of_ends
    (hp : ∀ s, K s → s.Stands (.armed b.config.unboundInterval) false false 1 → Ends w J (stopping b) s.quiet) :
    Closed w b L ((m.spawn (operationThread Running.number b (Running.answer w) .shutdown)).runUntilDone kernel
      m.threads.length limit patience) := by
  obtain ⟨n₀, s, hn₀, hKs, hs, hpolls⟩ := h.polls_shutdown hb hK
  have hfuel : n₀ + 3 ≤ patience := by unfold patience; omega
  obtain ⟨r, t, hrun, hend⟩ := hp s hKs hs
  rw [h.length_threads]
  obtain ⟨-, -, hclosed⟩ := (attends_shutdown hclock hJ).over_of_ends limit hpolls (poised_awaiting s)
    ⟨r, t, (advance_awaiting rfl).trans hrun, hend⟩ hfuel
  exact hclosed

end Shutdown

end Simulation
end AddressBinder
