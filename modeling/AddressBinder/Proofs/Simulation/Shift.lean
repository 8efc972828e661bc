import Mathlib.Data.List.Induction
import AddressBinder.Proofs.Simulation.Timetable
/-!
# Schedules under way

Everything that can happen to a schedule, one act at a time: a thread that can go on is polled, whichever it is; the clock
moves on while every thread waits, and not past a wake-up; and once, at any time, somebody cancels the schedule or gives
it up.  The schedule keeps to its timetable whatever happens (`Shift.Reaches.kept`); so at rest its log is told by the
time, the timetable and when it was stopped, and it comes to rest at any time (`Shift.keeps_time`).
-/
namespace AddressBinder
namespace Simulation

/-- A schedule under way, with how and when it was stopped. -/
structure Shift where
  machine : PassMachine
  stopped : Option (Stop × Nat)

namespace Shift

inductive Act where
  /-- The thread with a number goes on. -/
  | poll (n : Nat)
  | tick (time : Nat)
  | stop (how : Stop)

def start (T : Timetable) : Shift := ⟨T.machine, none⟩

def log (x : Shift) : PassLog := x.machine.state

/-- Every thread waits or has ended. -/
def rests (x : Shift) : Bool := x.machine.threads.all fun t => !t.canMove passKernel x.log

/-- Whether the cancellation is over: it is what the second thread does. -/
def resolved (x : Shift) : Bool := (x.machine.result? 1).isSome

/-- A machine whose schedule is stopped; a cancellation is asked for, and waits for the task. -/
def halt (m : PassMachine) : Stop → PassMachine
  | .cancel =>
    let r := (Thread.once cancelAndWait).poll passKernel m.state
    ⟨r.2, m.threads ++ [r.1]⟩
  | .drop => { m with state := m.state.drop }

def step? (x : Shift) : Act → Option Shift
  | .poll n =>
    match x.machine.threads[n]? with
    | none => none
    | some t =>
      if t.canMove passKernel x.log then
        let r := t.poll passKernel x.log
        some { x with machine := ⟨r.2, x.machine.threads.set n r.1⟩ }
      else none
  | .tick time =>
    if x.rests ∧ x.log.time ≤ time ∧ x.machine.threads.all (fun t => (t.due passKernel).all fun due => time ≤ due) then
      some { x with machine := x.machine.setClock passKernel time }
    else none
  | .stop how => if x.stopped.isNone then some ⟨halt x.machine how, some (how, x.log.time)⟩ else none

def run? : Shift → List Act → Option Shift
  | x, [] => some x
  | x, act :: acts => (x.step? act).bind fun y => y.run? acts

/-- A shift that a schedule reaches by some acts from when it was armed. -/
def Reaches (T : Timetable) (acts : List Act) (x : Shift) : Prop := (start T).run? acts = some x

theorem run?_append (acts more : List Act) (x : Shift) :
    x.run? (acts ++ more) = (x.run? acts).bind fun y => y.run? more := by
  induction acts generalizing x with
  | nil => rfl
  | cons act acts ih =>
    simp only [List.cons_append, run?, Option.bind_assoc]
    exact congrArg _ (funext fun y => ih y)

/-! ## The invariant -/

/-- The thread of a cancellation that waits for the task. -/
def waiter : Thread passes (Option Nat) := .once (.ask (σ := passes) .awaitExit fun _ => .done none)

/-- The thread of a cancellation that is over. -/
def resolvedThread : Thread passes (Option Nat) := .once (.done none)

/-- The threads beside the task: one after a cancellation, which is over only when the task has ended. -/
inductive Waits (stage : Schedule.Stage) : Option (Stop × Nat) → List (Thread passes (Option Nat)) → Prop where
  | unstopped : Waits stage none []
  | dropped (c : Nat) : Waits stage (some (.drop, c)) []
  | waiting (c : Nat) : Waits stage (some (.cancel, c)) [waiter]
  | resolved (c : Nat) (h : stage = .exited) : Waits stage (some (.cancel, c)) [resolvedThread]

/-- The schedule keeps to its timetable.  No pass begins after it was stopped, and the next one was still to come then. -/
structure Kept (T : Timetable) (p : Program passes (Option Nat)) (beside : List (Thread passes (Option Nat)))
    (x : Shift) : Prop where
  threads : x.machine.threads = T.thread p :: beside
  onTime : T.OnTime (x.stopped.map Prod.fst) p x.log
  waits : Waits x.log.stage x.stopped beside
  stopped : ∀ how c, x.stopped = some (how, c) → c ≤ x.log.time ∧ (∀ k < x.log.begun, T.begins k ≤ c) ∧
    (T.Whole x.log.begun → c ≤ T.begins x.log.begun)

variable {T : Timetable} {p : Program passes (Option Nat)} {beside : List (Thread passes (Option Nat))} {x y : Shift}
  {acts : List Act} {time : Nat}

theorem kept_start (T : Timetable) : Kept T (Schedule.firstRound passPort (playPass T.pass)) [] (start T) :=
  ⟨rfl, .unstarted, .unstopped, nofun⟩

theorem Waits.move {stage : Schedule.Stage} {stopped : Option (Stop × Nat)} (h : Waits stage stopped beside)
    (hstage : stage ≠ .exited) (stage' : Schedule.Stage) : Waits stage' stopped beside := by
  cases h with
  | unstopped => exact .unstopped
  | dropped c => exact .dropped c
  | waiting c => exact .waiting c
  | resolved c h => exact absurd h hstage

theorem Kept.pollTask (h : Kept T p beside x) (hmoves : (T.thread p).canMove passKernel x.log = true) :
    ∃ q log', (T.thread p).poll passKernel x.log = (T.thread q, log') ∧
      x.step? (.poll 0) = some { x with machine := ⟨log', T.thread q :: beside⟩ } ∧
      T.Landed (x.stopped.map Prod.fst) x.log q log' ∧
      Kept T q beside { x with machine := ⟨log', T.thread q :: beside⟩ } := by
  obtain ⟨q, log', hpoll, hq⟩ := h.onTime.poll
  refine ⟨q, log', hpoll, ?_, hq, rfl, hq.onTime, h.waits.move (h.onTime.stage_ne_exited hmoves) _, fun how c hc => ?_⟩
  · simp only [step?, h.threads, List.getElem?_cons_zero, hmoves, if_true, hpoll, List.set_cons_zero]
  · have hc : x.stopped = some (how, c) := hc
    have hbegun : log'.begun = x.log.begun := hq.begun (by rw [hc]; nofun)
    show c ≤ log'.time ∧ (∀ k < log'.begun, _) ∧ (T.Whole log'.begun → c ≤ T.begins log'.begun)
    rw [hq.time, hbegun]
    exact h.stopped how c hc

/-- Of the threads beside the task one can go on when it is a cancellation that waits and the task has ended; it is over
then. -/
theorem Waits.of_canMove {log : PassLog} {stopped : Option (Stop × Nat)} (h : Waits log.stage stopped beside) {n : Nat}
    {t : Thread passes (Option Nat)} (hn : beside[n]? = some t) (hmoves : t.canMove passKernel log = true) :
    n = 0 ∧ beside = [waiter] ∧ t.poll passKernel log = (resolvedThread, log) ∧
      Waits log.stage stopped [resolvedThread] := by
  cases h with
  | unstopped | dropped => simp at hn
  | resolved c hexited =>
    obtain rfl : t = resolvedThread := List.mem_singleton.1 (List.mem_of_getElem? hn)
    cases hmoves
  | waiting c =>
    obtain rfl : t = waiter := List.mem_singleton.1 (List.mem_of_getElem? hn)
    have hlt : n < 1 := (List.getElem?_eq_some_iff.1 hn).1
    have hexited : log.stage = .exited := by
      by_contra hstage
      have hserve : PassLog.serve .awaitExit log = none := if_neg hstage
      have hstuck : waiter.canMove passKernel log = false := congrArg Option.isSome hserve
      rw [hstuck] at hmoves
      cases hmoves
    have hserve : PassLog.serve .awaitExit log = some ((), log) := if_pos hexited
    have hadvance : waiter.program.advance passKernel.serve log = (.done none, log) := Program.advance_of_some hserve
    refine ⟨Nat.lt_one_iff.1 hlt, rfl, ?_, .resolved c hexited⟩
    simp only [Thread.poll, hadvance]
    rfl

theorem Kept.pollBeside (h : Kept T p beside x) {n : Nat} {t : Thread passes (Option Nat)} (hn : beside[n]? = some t)
    (hmoves : t.canMove passKernel x.log = true) :
    n = 0 ∧ x.step? (.poll 1) = some { x with machine := ⟨x.log, [T.thread p, resolvedThread]⟩ } ∧
      Kept T p [resolvedThread] { x with machine := ⟨x.log, [T.thread p, resolvedThread]⟩ } := by
  obtain ⟨rfl, rfl, hpoll, hwaits⟩ := h.waits.of_canMove hn hmoves
  obtain rfl : waiter = t := Option.some.inj hn
  refine ⟨rfl, ?_, rfl, h.onTime, hwaits, h.stopped⟩
  simp only [step?, h.threads, List.getElem?_cons_succ, List.getElem?_cons_zero, hmoves, if_true, hpoll,
    List.set_cons_succ, List.set_cons_zero]

/-! ## The clock moves on -/

theorem rests_iff : x.rests = true ↔ ∀ t ∈ x.machine.threads, t.canMove passKernel x.log = false := by
  simp [rests]

theorem Kept.task_rests (h : Kept T p beside x) (hrests : x.rests = true) :
    (T.thread p).canMove passKernel x.log = false :=
  rests_iff.1 hrests _ (h.threads ▸ List.mem_cons_self)

theorem Kept.tick (h : Kept T p beside x) (hrests : x.rests = true) (hle : x.log.time ≤ time)
    (hdue : ∀ due ∈ (T.thread p).due passKernel, time ≤ due) :
    Kept T p beside { x with machine := x.machine.setClock passKernel time } :=
  ⟨h.threads, h.onTime.tick (h.task_rests hrests) hle hdue, h.waits, fun how c hc =>
    let hstop := h.stopped how c hc
    ⟨Nat.le_trans hstop.1 hle, hstop.2⟩⟩

/-! ## Stops -/

/-- A cancellation waits for a task that has not ended, and is over at once otherwise. -/
theorem waits_cancel {log : PassLog} (h : T.OnTime none p log) (c : Nat) :
    ∃ t, (Thread.once cancelAndWait).poll passKernel log = (t, log.cancel.2) ∧
      Waits log.cancel.2.stage (some (.cancel, c)) [t] := by
  cases h with
  | unstarted | resting | napping | passing => exact ⟨waiter, rfl, .waiting c⟩
  | stopped | broken => exact ⟨resolvedThread, rfl, .resolved c rfl⟩

theorem cancel_eq (log : PassLog) : log.cancel.2 = { log with stage := log.cancel.2.stage } := by
  unfold PassLog.cancel
  split <;> rfl

theorem Kept.stop (h : Kept T p beside x) (hstop : x.stopped = none) (how : Stop) :
    ∃ beside, Kept T p beside ⟨halt x.machine how, some (how, x.log.time)⟩ := by
  have honTime := h.onTime
  have hwaits := h.waits
  rw [hstop] at honTime hwaits
  have hbegun := honTime.begun
  cases hwaits with
  | unstopped =>
  cases how with
  | drop =>
    refine ⟨[], h.threads, honTime.drop, .dropped _, ?_⟩
    rintro how c ⟨⟩
    exact ⟨Nat.le_refl _, hbegun⟩
  | cancel =>
    obtain ⟨t, hpoll, hwaits⟩ := waits_cancel honTime x.log.time
    have hhalt : halt x.machine .cancel = ⟨x.log.cancel.2, [T.thread p, t]⟩ := by
      show (⟨_, x.machine.threads ++ [_]⟩ : PassMachine) = _
      rw [h.threads]
      show (⟨((Thread.once cancelAndWait).poll passKernel x.log).2,
        [T.thread p, ((Thread.once cancelAndWait).poll passKernel x.log).1]⟩ : PassMachine) = _
      rw [hpoll]
    rw [hhalt]
    refine ⟨[t], rfl, honTime.cancel, hwaits, ?_⟩
    rintro how c ⟨⟩
    show x.log.time ≤ x.log.cancel.2.time ∧ (∀ k < x.log.cancel.2.begun, _) ∧ (T.Whole x.log.cancel.2.begun → _)
    rw [cancel_eq]
    exact ⟨Nat.le_refl _, hbegun⟩

/-! ## Acts -/

/-- Nothing undoes a stop, and no pass begins after it. -/
def Heeds (x y : Shift) : Prop := x.stopped ≠ none → y.stopped = x.stopped ∧ y.log.begun = x.log.begun

theorem Heeds.trans {z : Shift} (hxy : Heeds x y) (hyz : Heeds y z) : Heeds x z := fun h =>
  have hy := hxy h
  have hz := hyz (hy.1 ▸ h)
  ⟨hz.1.trans hy.1, hz.2.trans hy.2⟩

theorem Kept.step (h : Kept T p beside x) {act : Act} (hact : x.step? act = some y) :
    (∃ p beside, Kept T p beside y) ∧ Heeds x y := by
  cases act with
  | poll n =>
    have hact' := hact
    simp only [step?] at hact'
    split at hact'
    · cases hact'
    · rename_i t ht
      split at hact'
      · rename_i hmoves
        clear hact'
        rw [h.threads] at ht
        cases n with
        | zero =>
          obtain rfl : T.thread p = t := Option.some.inj ht
          obtain ⟨q, log', -, hstep, hlanded, hq⟩ := h.pollTask hmoves
          cases hstep.symm.trans hact
          refine ⟨⟨q, beside, hq⟩, fun hstop => ⟨rfl, hlanded.begun ?_⟩⟩
          rwa [Ne, Option.map_eq_none_iff]
        | succ n =>
          obtain ⟨rfl, hstep, hq⟩ := h.pollBeside ht hmoves
          cases hstep.symm.trans hact
          exact ⟨⟨p, _, hq⟩, fun _ => ⟨rfl, rfl⟩⟩
      · cases hact'
  | tick time =>
    simp only [step?] at hact
    split at hact
    · rename_i hc
      cases hact
      obtain ⟨hrests, hle, hdue⟩ := hc
      refine ⟨⟨p, beside, h.tick hrests hle fun due hd => ?_⟩, fun _ => ⟨rfl, rfl⟩⟩
      rw [h.threads, List.all_cons, Bool.and_eq_true] at hdue
      rw [Option.mem_def.1 hd] at hdue
      simpa using hdue.1
    · cases hact
  | stop how =>
    simp only [step?] at hact
    split at hact
    · rename_i hstop
      cases hact
      have hstop := Option.isNone_iff_eq_none.1 hstop
      obtain ⟨beside, hq⟩ := h.stop hstop how
      exact ⟨⟨p, beside, hq⟩, fun h => absurd hstop h⟩
    · cases hact

/-- **The schedule keeps to its timetable**, whatever happens. -/
theorem Kept.run (h : Kept T p beside x) (hrun : x.run? acts = some y) :
    (∃ p beside, Kept T p beside y) ∧ Heeds x y := by
  induction acts generalizing x p beside with
  | nil =>
    cases hrun
    exact ⟨⟨p, beside, h⟩, fun _ => ⟨rfl, rfl⟩⟩
  | cons act acts ih =>
    obtain ⟨z, hz, hrun⟩ := Option.bind_eq_some_iff.1 hrun
    obtain ⟨⟨q, beside, hq⟩, hxz⟩ := h.step hz
    exact ⟨(ih hq hrun).1, hxz.trans (ih hq hrun).2⟩

theorem Reaches.kept (h : Reaches T acts x) : ∃ p beside, Kept T p beside x := ((kept_start T).run h).1

/-! ## Coming to rest -/

/-- The second shift comes from the first by some acts, none of which stops the schedule. -/
def Goes (x y : Shift) : Prop := ∃ acts, x.run? acts = some y ∧ y.stopped = x.stopped

theorem Goes.refl (x : Shift) : Goes x x := ⟨[], rfl, rfl⟩

theorem Goes.cons {act : Act} {z : Shift} (hact : x.step? act = some y) (hstop : y.stopped = x.stopped) (h : Goes y z) :
    Goes x z := by
  obtain ⟨acts, hrun, hz⟩ := h
  refine ⟨act :: acts, ?_, hz.trans hstop⟩
  rw [run?, hact]
  exact hrun

theorem Goes.trans {z : Shift} (hxy : Goes x y) (hyz : Goes y z) : Goes x z := by
  obtain ⟨acts, hacts, hy⟩ := hxy
  obtain ⟨more, hmore, hz⟩ := hyz
  refine ⟨acts ++ more, ?_, hz.trans hy⟩
  rw [run?_append, hacts]
  exact hmore

/-- Two polls are enough for the task to wait. -/
theorem Kept.task_settles (hT : T.Pauses) (h : Kept T p beside x) :
    ∃ q y, Goes x y ∧ Kept T q beside y ∧ y.log.time = x.log.time ∧ (T.thread q).canMove passKernel y.log = false := by
  cases hmoves : (T.thread p).canMove passKernel x.log with
  | false => exact ⟨p, x, .refl x, h, rfl, hmoves⟩
  | true =>
    obtain ⟨q, log', -, hstep, hlanded, hq⟩ := h.pollTask hmoves
    cases hmoves' : (T.thread q).canMove passKernel log' with
    | false => exact ⟨q, _, .cons hstep rfl (.refl _), hq, hlanded.time, hmoves'⟩
    | true =>
      obtain ⟨q', log'', hpoll, hstep', hlanded', hq'⟩ := hq.pollTask hmoves'
      refine ⟨q', _, .cons hstep rfl (.cons hstep' rfl (.refl _)), hq', hlanded'.time.trans hlanded.time, ?_⟩
      obtain ⟨k, d, hpast, hd, rfl, rfl⟩ := hlanded.moves hmoves'
      exact Timetable.rests_round hT hd hpoll

theorem Kept.settles (hT : T.Pauses) (h : Kept T p beside x) :
    ∃ q beside y, Goes x y ∧ Kept T q beside y ∧ y.log.time = x.log.time ∧ y.rests = true := by
  obtain ⟨q, y, hgoes, hq, htime, htask⟩ := h.task_settles hT
  cases hrests : y.rests with
  | true => exact ⟨q, beside, y, hgoes, hq, htime, hrests⟩
  | false =>
    obtain ⟨t, ht, hmoves⟩ : ∃ t ∈ beside, t.canMove passKernel y.log = true := by
      by_contra hnone
      refine absurd (rests_iff.2 fun t ht => ?_) (Bool.eq_false_iff.1 hrests)
      rw [hq.threads] at ht
      rcases List.mem_cons.1 ht with rfl | ht
      · exact htask
      · exact Bool.eq_false_iff.2 fun hmoves => hnone ⟨t, ht, hmoves⟩
    obtain ⟨n, hn⟩ := List.getElem?_of_mem ht
    obtain ⟨rfl, hstep, hq'⟩ := hq.pollBeside hn hmoves
    refine ⟨q, _, _, hgoes.trans (.cons hstep rfl (.refl _)), hq', htime, rests_iff.2 fun t ht => ?_⟩
    rcases List.mem_cons.1 ht with rfl | ht
    · exact htask
    · obtain rfl := List.mem_singleton.1 ht
      rfl

theorem Waits.due {stage : Schedule.Stage} {stopped : Option (Stop × Nat)} (h : Waits stage stopped beside) :
    ∀ t ∈ beside, t.due passKernel = none := by
  cases h with
  | unstopped | dropped => exact fun t ht => by cases ht
  | waiting | resolved =>
    intro t ht
    obtain rfl := List.mem_singleton.1 ht
    rfl

/-- **A schedule comes to rest at any later time.** -/
theorem Kept.rests_at (hT : T.Pauses) (h : Kept T p beside x) (hle : x.log.time ≤ time) :
    ∃ y, Goes x y ∧ y.rests = true ∧ y.log.time = time := by
  induction hn : time - x.log.time using Nat.strongRecOn generalizing x p beside with
  | ind n ih =>
  obtain ⟨q, beside, y, hgoes, hq, htime, hrests⟩ := h.settles hT
  rcases Nat.lt_or_eq_of_le (htime ▸ hle : y.log.time ≤ time) with hlt | heq
  · -- the next time is that of the wake-up, or the end
    obtain ⟨next, hnext, hnexttime, hdue⟩ : ∃ next, y.log.time < next ∧ next ≤ time ∧
        ∀ due ∈ (T.thread q).due passKernel, next ≤ due := by
      have hdue := hq.onTime.lt_due (hq.task_rests hrests)
      cases hd : (T.thread q).due passKernel with
      | none => exact ⟨time, hlt, Nat.le_refl _, nofun⟩
      | some due =>
        refine ⟨min due time, Nat.lt_min.2 ⟨hdue due hd, hlt⟩, Nat.min_le_right _ _, ?_⟩
        rintro _ ⟨⟩
        exact Nat.min_le_left _ _
    have hstep : y.step? (.tick next) = some { y with machine := y.machine.setClock passKernel next } := by
      refine if_pos ⟨hrests, Nat.le_of_lt hnext, List.all_eq_true.2 fun t ht => ?_⟩
      rw [hq.threads] at ht
      rcases List.mem_cons.1 ht with rfl | ht
      · cases hd : (T.thread q).due passKernel with
        | none => rfl
        | some due => simpa using hdue due hd
      · rw [hq.waits.due t ht]
        rfl
    obtain ⟨z, hz, hdone⟩ := ih (time - next) (by omega) (hq.tick hrests (Nat.le_of_lt hnext) hdue) hnexttime rfl
    exact ⟨z, hgoes.trans (.cons hstep rfl hz), hdone⟩
  · exact ⟨y, hgoes, hrests, heq⟩

/-! ## At rest -/

theorem Kept.shows (h : Kept T p beside x) (hrests : x.rests = true) : T.Shows (x.stopped.map Prod.fst) x.log :=
  h.onTime.shows (h.task_rests hrests)

theorem Kept.begun_iff (h : Kept T p beside x) (hrests : x.rests = true) {k : Nat}
    (hk : ∀ how c, x.stopped = some (how, c) → c ≠ T.begins k) :
    k < x.log.begun ↔
      T.begins k ≤ x.log.time ∧ T.Whole k ∧ ∀ how c, x.stopped = some (how, c) → T.begins k < c := by
  have hshows := h.shows hrests
  constructor
  · intro hbegun
    refine ⟨hshows.begun k hbegun, fun i hi => hshows.whole i (by omega), fun how c hc => ?_⟩
    exact Nat.lt_of_le_of_ne ((h.stopped how c hc).2.1 k hbegun) (hk how c hc).symm
  · rintro ⟨htime, hwhole, hstop⟩
    by_contra hlate
    have hle : x.log.begun ≤ k := Nat.not_lt.1 hlate
    have hbegins := Timetable.begins_mono (T := T) hle
    have hwhole : T.Whole x.log.begun := fun i hi => hwhole i (by omega)
    cases hs : x.stopped with
    | none =>
      have hnext := hshows.next (by rw [hs]; rfl) hwhole
      omega
    | some s =>
      have hc : x.stopped = some (s.1, s.2) := hs
      have hnext := (h.stopped _ _ hc).2.2 hwhole
      have hearly := hstop _ _ hc
      omega

theorem Kept.resolved_iff (h : Kept T p beside x) (hrests : x.rests = true) {c : Nat}
    (hc : x.stopped = some (.cancel, c)) : x.resolved = true ↔ x.log.stage = .exited := by
  have hwaits := h.waits
  rw [hc] at hwaits
  have hresult : x.resolved = ((beside[0]?.map fun t => t.program.result?).join).isSome := by
    unfold resolved Machine.result?
    rw [h.threads]
    cases beside <;> rfl
  rw [hresult]
  cases hwaits with
  | resolved _ hexited => exact ⟨fun _ => hexited, fun _ => rfl⟩
  | waiting =>
    have hstuck : waiter.canMove passKernel x.log = false := rests_iff.1 hrests _ (by simp [h.threads])
    constructor
    · intro h
      cases h
    · intro hexited
      have hserve : PassLog.serve .awaitExit x.log = some ((), x.log) := if_pos hexited
      have hmoves : waiter.canMove passKernel x.log = true := congrArg Option.isSome hserve
      rw [hmoves] at hstuck
      cases hstuck

/-- **Schedules keep time.**  At rest, the passes that have begun are those whose time has come, none before them broke,
and the schedule was not stopped before; each is noted at its time, and its end unless it is still to come or the pass
broke; a cancellation is over when the passes that began have ended.  Once a schedule is stopped no pass begins, not even
one whose time has come.  And the schedule comes to rest at any later time. -/
theorem keeps_time (T : Timetable) (hT : T.Pauses) (acts : List Act) (x : Shift) (h : Reaches T acts x) :
    (x.rests = true →
      x.log.marks.reverse = T.history x.log.time x.log.begun ∧
      (∀ k, (∀ how c, x.stopped = some (how, c) → c ≠ T.begins k) → (k < x.log.begun ↔
        T.begins k ≤ x.log.time ∧ T.Whole k ∧ ∀ how c, x.stopped = some (how, c) → T.begins k < c)) ∧
      ∀ c, x.stopped = some (.cancel, c) → (x.resolved = true ↔ ∀ k < x.log.begun, T.ends k ≤ x.log.time)) ∧
    (∀ more y, x.run? more = some y → x.stopped ≠ none → y.stopped = x.stopped ∧ y.log.begun = x.log.begun) ∧
    ∀ time, x.log.time ≤ time →
      ∃ more y, x.run? more = some y ∧ y.stopped = x.stopped ∧ y.rests = true ∧ y.log.time = time := by
  obtain ⟨p, beside, hkept⟩ := h.kept
  refine ⟨fun hrests => ?_, fun more y hrun => (hkept.run hrun).2, fun time hle => ?_⟩
  · refine ⟨(hkept.shows hrests).marks, fun k hk => hkept.begun_iff hrests hk, fun c hc => ?_⟩
    rw [hkept.resolved_iff hrests hc]
    exact (hkept.shows hrests).exited (by rw [hc]; nofun)
  · obtain ⟨y, ⟨more, hrun, hstop⟩, hy⟩ := hkept.rests_at hT hle
    exact ⟨more, y, hrun, hstop, hy⟩

/-- A schedule armed for a minute, whose passes take ten seconds and ask for the next one in five minutes. -/
def everyFiveMinutes : Timetable := ⟨0, 60000, fun _ => ⟨10000, some 300000⟩⟩

/-- The schedule is cancelled five seconds into its first pass. -/
def cancelledMidway : List Act :=
  [.poll 0, .tick 60000, .poll 0, .tick 65000, .stop .cancel, .tick 70000, .poll 0, .poll 1]

theorem keeps_time_of_cancelled : everyFiveMinutes.Pauses ∧ ∃ x, Reaches everyFiveMinutes cancelledMidway x ∧
    x.rests = true ∧ x.stopped = some (.cancel, 65000) ∧ x.resolved = true ∧
    x.log.marks.reverse = [⟨false, 1, 60000⟩, ⟨true, 1, 70000⟩] ∧
    (0 < x.log.begun ↔ 60000 ≤ x.log.time ∧ everyFiveMinutes.Whole 0 ∧
      ∀ how c, x.stopped = some (how, c) → 60000 < c) ∧
    (∀ more y, x.run? more = some y → x.stopped ≠ none → y.stopped = x.stopped ∧ y.log.begun = x.log.begun) ∧
    ∃ more y, x.run? more = some y ∧ y.stopped = x.stopped ∧ y.rests = true ∧ y.log.time = 400000 := by
  have hpauses : everyFiveMinutes.Pauses := by
    rintro k d ⟨⟩
    decide
  have hruns : ((start everyFiveMinutes).run? cancelledMidway).map
      (fun x => (x.rests, x.stopped, x.resolved, x.log.marks.reverse, x.log.time)) =
        some (true, some (.cancel, 65000), true, [⟨false, 1, 60000⟩, ⟨true, 1, 70000⟩], 70000) := by rfl
  obtain ⟨x, hreaches, hseen⟩ := Option.map_eq_some_iff.1 hruns
  simp only [Prod.mk.injEq] at hseen
  obtain ⟨hrests, hstopped, hresolved, hmarks, htime⟩ := hseen
  obtain ⟨hkeeps, hheeds, hgoes⟩ := keeps_time everyFiveMinutes hpauses cancelledMidway x hreaches
  have hbegun := (hkeeps hrests).2.1 0
  refine ⟨hpauses, x, hreaches, hrests, hstopped, hresolved, hmarks, hbegun ?_, hheeds, hgoes 400000 ?_⟩
  · rw [hstopped]
    rintro how c ⟨⟩
    decide
  · rw [htime]
    decide

/-- A first delay longer than the longest wait is cut short. -/
theorem begins_early_of_longDelay : ¬ ∀ (T : Timetable) (acts : List Act) (x : Shift), T.Pauses → Reaches T acts x →
    ∀ m ∈ x.log.marks, m = ⟨false, 1, m.time⟩ → m.time = T.origin + T.first := by
  intro hclaim
  let T : Timetable := ⟨0, Clock.longestWait + 1, fun _ => ⟨1, some 1⟩⟩
  have hruns : ((start T).run? [.poll 0, .tick Clock.longestWait, .poll 0]).map (fun x => x.log.marks) =
      some [⟨false, 1, Clock.longestWait⟩] := by decide +kernel
  obtain ⟨x, hreaches, hmarks⟩ := Option.map_eq_some_iff.1 hruns
  have hpauses : T.Pauses := by
    rintro k d ⟨⟩
    decide
  have htime := hclaim T _ x hpauses hreaches ⟨false, 1, Clock.longestWait⟩ (by simp [hmarks]) rfl
  exact absurd htime (by decide)

end Shift
end Simulation
end AddressBinder
