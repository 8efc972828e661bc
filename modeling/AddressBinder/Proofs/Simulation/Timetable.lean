import AddressBinder.Proofs.Machine
import AddressBinder.Simulation.Passes
/-!
# Timetables of schedules

When the passes of a schedule begin and end is fixed by its first delay and its plan (`Timetable.begins`,
`Timetable.ends`).  Whenever the task of the schedule is polled it is at one of a few places of its timetable (`OnTime`),
and a poll takes it to another one (`OnTime.poll`).
-/
namespace AddressBinder
namespace Simulation

/-- A schedule: when it is armed, the delay before its first pass, and its passes. -/
structure Timetable where
  origin : Nat
  first : Nat
  pass : Nat → TimedPass

/-- How a schedule may be ended from outside. -/
inductive Stop where
  | cancel
  | drop
deriving DecidableEq

namespace Timetable

variable (T : Timetable)

/-- When the pass after `k` others begins, if it does. -/
def begins : Nat → Nat
  | 0 => Clock.endOfWait T.origin T.first
  | k + 1 => Clock.endOfWait (begins k + (T.pass (k + 1)).takes) ((T.pass (k + 1)).next.getD 0)

def ends (k : Nat) : Nat := T.begins k + (T.pass (k + 1)).takes

/-- The marks of the first passes, the latest first. -/
def marks : Nat → List PassMark
  | 0 => []
  | k + 1 => ⟨true, k + 1, T.ends k⟩ :: ⟨false, k + 1, T.begins k⟩ :: marks k

/-- None of the first passes breaks. -/
def Whole (k : Nat) : Prop := ∀ i < k, (T.pass (i + 1)).next ≠ none

/-- Every pass that returns a delay returns a positive one. -/
def Pauses : Prop := ∀ k d, (T.pass k).next = some d → 0 < d

def machine : PassMachine := armPlan T.origin T.first T.pass

/-! ## The task -/

def thread (p : Program passes (Option Nat)) : Thread passes (Option Nat) := ⟨p, (passTask T.pass).next⟩

def round (delay : Nat) : Program passes (Option Nat) := Schedule.round passPort (playPass T.pass) delay

/-- What is left of the task in a nap. -/
def napping (due : Nat) : Program passes (Option Nat) :=
  .ask (.task (.nap due)) fun (cancelled : Bool) =>
    if cancelled then passPort.exit else (playPass T.pass).bind (Schedule.afterPass passPort)

/-- What is left of the task when the pass with a number has taken its time. -/
def finishing (number : Nat) : Program passes (Option Nat) :=
  Program.bind (match (T.pass number).next with
    | none => .done none
    | some next => (passAsk (.ends number)).bind fun _ => .done (some next)) (Schedule.afterPass passPort)

/-- What is left of the task in the pass after `k` others. -/
def passing (k : Nat) : Program passes (Option Nat) := .ask (.clock (.wait (T.ends k))) fun _ => T.finishing (k + 1)

/-- The log of a task that has not ended. -/
def log (stop : Option Stop) (time begun : Nat) (marks : List PassMark) : PassLog :=
  ⟨time, if stop = some .cancel then .cancelled else .armed T.first, stop ≠ some .drop, begun, marks⟩

/-- The log of a task that has ended. -/
def overLog (stop : Option Stop) (time begun : Nat) (marks : List PassMark) : PassLog :=
  ⟨time, .exited, stop ≠ some .drop, begun, marks⟩

/-- The first passes are made, and none broke. -/
structure Past (k time : Nat) : Prop where
  whole : T.Whole k
  ends : ∀ i < k, T.ends i ≤ time

/-- Where the task of a schedule may stand between two polls, and what the log then shows. -/
inductive OnTime (stop : Option Stop) : Program passes (Option Nat) → PassLog → Prop where
  | unstarted : OnTime stop (Schedule.firstRound passPort (playPass T.pass)) (T.log stop T.origin 0 [])
  | resting (k d : Nat) (hpast : T.Past (k + 1) (T.ends k)) (hd : (T.pass (k + 1)).next = some d) :
      OnTime stop (T.round d) (T.log stop (T.ends k) (k + 1) (T.marks (k + 1)))
  | napping (k time : Nat) (hpast : T.Past k time) (htime : time ≤ T.begins k) :
      OnTime stop (T.napping (T.begins k)) (T.log stop time k (T.marks k))
  | passing (k time : Nat) (hpast : T.Past k time) (hbegun : T.begins k ≤ time) (htime : time ≤ T.ends k) :
      OnTime stop (T.passing k) (T.log stop time (k + 1) (⟨false, k + 1, T.begins k⟩ :: T.marks k))
  | stopped (k time : Nat) (hpast : T.Past k time) (hstop : stop ≠ none) :
      OnTime stop (.done none) (overLog stop time k (T.marks k))
  | broken (k time : Nat) (hpast : T.Past k time) (hnext : (T.pass (k + 1)).next = none) (htime : T.ends k ≤ time) :
      OnTime stop (.done none) (overLog stop time (k + 1) (⟨false, k + 1, T.begins k⟩ :: T.marks k))

variable {T} {stop : Option Stop} {k time : Nat}

theorem begins_le_ends (k : Nat) : T.begins k ≤ T.ends k := Nat.le_add_right _ _

theorem ends_le_begins (k : Nat) : T.ends k ≤ T.begins (k + 1) := Nat.le_add_right _ _

theorem begins_succ {d : Nat} (hd : (T.pass (k + 1)).next = some d) :
    T.begins (k + 1) = Clock.endOfWait (T.ends k) d := by
  show Clock.endOfWait (T.ends k) ((T.pass (k + 1)).next.getD 0) = _
  rw [hd]
  rfl

theorem begins_mono {i k : Nat} (h : i ≤ k) : T.begins i ≤ T.begins k := by
  induction h with
  | refl => exact Nat.le_refl _
  | step _ ih => exact Nat.le_trans ih (Nat.le_trans (begins_le_ends _) (ends_le_begins _))

theorem Past.mono {time' : Nat} (h : T.Past k time) (hle : time ≤ time') : T.Past k time' :=
  ⟨h.whole, fun i hi => Nat.le_trans (h.ends i hi) hle⟩

theorem Past.succ {d : Nat} (h : T.Past k time) (hd : (T.pass (k + 1)).next = some d) (hend : T.ends k ≤ time) :
    T.Past (k + 1) time where
  whole := fun i hi => by
    rcases Nat.lt_succ_iff_lt_or_eq.1 hi with hi | rfl
    · exact h.whole i hi
    · rw [hd]
      exact Option.some_ne_none d
  ends := fun i hi => by
    rcases Nat.lt_succ_iff_lt_or_eq.1 hi with hi | rfl
    · exact h.ends i hi
    · exact hend

theorem Past.begun (h : T.Past k time) : ∀ i < k, T.begins i ≤ time := fun i hi =>
  Nat.le_trans (begins_le_ends i) (h.ends i hi)

theorem Past.begun_succ (h : T.Past k time) (hbegun : T.begins k ≤ time) : ∀ i < k + 1, T.begins i ≤ time := fun i hi => by
  rcases Nat.lt_succ_iff_lt_or_eq.1 hi with hi | rfl
  · exact h.begun i hi
  · exact hbegun

/-! ## Polls -/

/-- Where a poll leaves the task: at a place of its timetable, at the same time, where it waits or has just ended a pass;
no pass has begun when the schedule was stopped before. -/
structure Landed (T : Timetable) (stop : Option Stop) (log : PassLog) (q : Program passes (Option Nat))
    (log' : PassLog) : Prop where
  onTime : T.OnTime stop q log'
  time : log'.time = log.time
  begun : stop ≠ none → log'.begun = log.begun
  moves : (T.thread q).canMove passKernel log' = true → ∃ k d, T.Past (k + 1) (T.ends k) ∧
    (T.pass (k + 1)).next = some d ∧ q = T.round d ∧ log' = T.log stop (T.ends k) (k + 1) (T.marks (k + 1))

def Lands (T : Timetable) (stop : Option Stop) (p : Program passes (Option Nat)) (log : PassLog) : Prop :=
  ∃ q log', (T.thread p).poll passKernel log = (T.thread q, log') ∧ T.Landed stop log q log'

section Polls

variable {r : PassRequest} {f : r.Reply → Program passes (Option Nat)} {log log' : PassLog}

theorem poll_of_some {reply : r.Reply} (h : PassLog.serve r log = some (reply, log')) :
    (T.thread (.ask r f)).poll passKernel log = (T.thread (f reply)).poll passKernel log' := by
  have hadvance : (Program.ask (σ := passes) r f).advance passKernel.serve log =
      (f reply).advance passKernel.serve log' := Program.advance_of_some h
  unfold Thread.poll
  simp only [thread, hadvance]

theorem poll_of_none (h : PassLog.serve r log = none) :
    (T.thread (.ask r f)).poll passKernel log = (T.thread (.ask r f), log) := by
  have hadvance : (Program.ask (σ := passes) r f).advance passKernel.serve log = (.ask r f, log) :=
    Program.advance_of_none h
  unfold Thread.poll
  simp only [thread, hadvance, Thread.restart]

theorem Lands.of_some {a : r.Reply} (h : PassLog.serve r log = some (a, log')) (htime : log'.time = log.time)
    (hbegun : stop ≠ none → log'.begun = log.begun) (hlands : T.Lands stop (f a) log') :
    T.Lands stop (.ask r f) log := by
  obtain ⟨q, log'', hpoll, hq⟩ := hlands
  exact ⟨q, log'', (poll_of_some h).trans hpoll, hq.onTime, hq.time.trans htime,
    fun hs => (hq.begun hs).trans (hbegun hs), hq.moves⟩

theorem Lands.of_none (h : PassLog.serve r log = none) (hq : T.OnTime stop (.ask r f) log) :
    T.Lands stop (.ask r f) log :=
  ⟨_, _, poll_of_none h, hq, rfl, fun _ => rfl, fun hmoves => by
    have hwaits : (T.thread (.ask r f)).canMove passKernel log = false := congrArg Option.isSome h
    rw [hwaits] at hmoves
    cases hmoves⟩

end Polls

variable {b : Nat} {m : List PassMark}

theorem lands_exit (h : T.OnTime stop (.done none) (overLog stop time b m)) :
    T.Lands stop passPort.exit (T.log stop time b m) :=
  .of_some (r := .task .exit) rfl rfl (fun _ => rfl) ⟨_, _, rfl, h, rfl, fun _ => rfl, fun hmoves => by cases hmoves⟩

/-- A pass that has taken its time ends, and the next round follows unless it broke or the schedule is cancelled. -/
theorem lands_finishing (hpast : T.Past k (T.ends k)) :
    T.Lands stop (T.finishing (k + 1))
      (T.log stop (T.ends k) (k + 1) (⟨false, k + 1, T.begins k⟩ :: T.marks k)) := by
  unfold finishing
  cases hnext : (T.pass (k + 1)).next with
  | none => exact lands_exit (.broken k _ hpast hnext (Nat.le_refl _))
  | some d =>
    have hpast' := hpast.succ hnext (Nat.le_refl _)
    refine .of_some (r := .ends (k + 1)) rfl rfl (fun _ => rfl) ?_
    by_cases hcancel : stop = some .cancel
    · subst hcancel
      exact .of_some (r := .task .isCancelled) rfl rfl (fun _ => rfl) (lands_exit (.stopped (k + 1) _ hpast' nofun))
    · have hserve : PassLog.serve (.task .isCancelled) (T.log stop (T.ends k) (k + 1) (T.marks (k + 1))) =
          some (false, T.log stop (T.ends k) (k + 1) (T.marks (k + 1))) := by
        simp [PassLog.serve, PassLog.serveTask, Schedule.serve, log, hcancel]
      exact .of_some hserve rfl (fun _ => rfl) ⟨_, _, rfl, .resting k d hpast' hnext, rfl, fun _ => rfl,
        fun _ => ⟨k, d, hpast', hnext, rfl, rfl⟩⟩

theorem lands_passing (hpast : T.Past k time) (hbegun : T.begins k ≤ time) (htime : time ≤ T.ends k) :
    T.Lands stop (T.passing k) (T.log stop time (k + 1) (⟨false, k + 1, T.begins k⟩ :: T.marks k)) := by
  by_cases hdue : T.ends k ≤ time
  · obtain rfl : time = T.ends k := Nat.le_antisymm htime hdue
    exact .of_some (r := .clock (.wait (T.ends k))) (a := ()) (by simp [PassLog.serve, Clock.serve, log]) rfl (fun _ => rfl)
      (lands_finishing hpast)
  · exact .of_none (by simp [PassLog.serve, Clock.serve, log, hdue]) (.passing k time hpast hbegun htime)

/-- **A nap ends when its time has come**, and a pass begins; of a schedule that was stopped, it ends at once and no pass
begins. -/
theorem lands_napping (hpast : T.Past k time) (htime : time ≤ T.begins k) :
    T.Lands stop (T.napping (T.begins k)) (T.log stop time k (T.marks k)) := by
  match stop with
  | some .cancel | some .drop =>
    exact .of_some (r := .task (.nap (T.begins k))) (a := true) rfl rfl (fun _ => rfl)
      (lands_exit (.stopped k time hpast nofun))
  | none =>
    by_cases hdue : T.begins k ≤ time
    · obtain rfl : time = T.begins k := Nat.le_antisymm htime hdue
      refine .of_some (r := .task (.nap (T.begins k))) (a := false) ?_ rfl (fun _ => rfl) ?_
      · simp [PassLog.serve, PassLog.serveTask, Schedule.serve, log]
      · refine .of_some (r := .begins) rfl rfl (fun h => absurd rfl h) ?_
        refine .of_some (r := .clock .now) rfl rfl (fun _ => rfl) ?_
        exact lands_passing hpast (Nat.le_refl _) (begins_le_ends k)
    · refine .of_none ?_ (.napping k time hpast htime)
      simp [PassLog.serve, PassLog.serveTask, Schedule.serve, log, hdue]

theorem past_zero : T.Past 0 time := ⟨fun i hi => absurd hi (Nat.not_lt_zero i), fun i hi => absurd hi (Nat.not_lt_zero i)⟩

theorem serve_awaitArmed (h : stop ≠ some .cancel) : PassLog.serve (.task .awaitArmed) (T.log stop T.origin 0 []) =
    some (T.first, T.log stop T.origin 0 []) := by
  simp [PassLog.serve, PassLog.serveTask, Schedule.serve, log, h]

/-- **A poll takes the task from place to place.** -/
theorem OnTime.poll {p : Program passes (Option Nat)} {log : PassLog} (h : T.OnTime stop p log) : T.Lands stop p log := by
  cases h with
  | unstarted =>
    by_cases hcancel : stop = some .cancel
    · subst hcancel
      refine .of_some (r := .task .awaitArmed) (a := 0) rfl rfl (fun _ => rfl) ?_
      refine .of_some (r := .clock .now) rfl rfl (fun _ => rfl) ?_
      exact .of_some (r := .task (.nap _)) (a := true) rfl rfl (fun _ => rfl) (lands_exit (.stopped 0 _ past_zero nofun))
    · refine .of_some (serve_awaitArmed hcancel) rfl (fun _ => rfl) ?_
      refine .of_some (r := .clock .now) rfl rfl (fun _ => rfl) ?_
      exact lands_napping (k := 0) past_zero (Nat.le_add_right _ _)
  | resting k d hpast hd =>
    refine .of_some (r := .clock .now) rfl rfl (fun _ => rfl) ?_
    show T.Lands stop (T.napping (Clock.endOfWait (T.ends k) d)) _
    rw [← begins_succ hd]
    exact lands_napping hpast (ends_le_begins k)
  | napping k time hpast htime => exact lands_napping hpast htime
  | passing k time hpast hbegun htime => exact lands_passing hpast hbegun htime
  | stopped k time hpast hstop =>
    exact ⟨_, _, rfl, .stopped k time hpast hstop, rfl, fun _ => rfl, fun hmoves => by cases hmoves⟩
  | broken k time hpast hnext htime =>
    exact ⟨_, _, rfl, .broken k time hpast hnext htime, rfl, fun _ => rfl, fun hmoves => by cases hmoves⟩

/-! ## Between the polls -/

section Between

variable {p : Program passes (Option Nat)} {log : PassLog}

theorem canMove_unstarted : (T.thread (Schedule.firstRound passPort (playPass T.pass))).canMove passKernel
    (T.log stop T.origin 0 []) = true := by
  by_cases hcancel : stop = some .cancel
  · subst hcancel
    rfl
  · exact congrArg Option.isSome (serve_awaitArmed hcancel)

theorem canMove_napping : (T.thread (T.napping (T.begins k))).canMove passKernel (T.log stop time k (T.marks k)) = false ↔
    stop = none ∧ time < T.begins k := by
  match stop with
  | some .cancel | some .drop => exact ⟨nofun, fun h => by cases h.1⟩
  | none =>
    show (PassLog.serve (.task (.nap (T.begins k))) (T.log none time k (T.marks k))).isSome = false ↔ _
    by_cases hdue : T.begins k ≤ time <;> simp [PassLog.serve, PassLog.serveTask, Schedule.serve, Timetable.log, hdue]
    omega

theorem canMove_passing {b : Nat} {m : List PassMark} :
    (T.thread (T.passing k)).canMove passKernel (T.log stop time b m) = false ↔ time < T.ends k := by
  show (PassLog.serve (.clock (.wait (T.ends k))) (T.log stop time b m)).isSome = false ↔ _
  by_cases hdue : T.ends k ≤ time <;> simp [PassLog.serve, Clock.serve, Timetable.log, hdue]
  omega

/-- A task that cannot move stays where it is until its next wake-up. -/
theorem OnTime.tick (h : T.OnTime stop p log) (hrests : (T.thread p).canMove passKernel log = false)
    (hle : log.time ≤ time) (hdue : ∀ due ∈ (T.thread p).due passKernel, time ≤ due) :
    T.OnTime stop p { log with time } := by
  cases h with
  | unstarted =>
    rw [canMove_unstarted] at hrests
    cases hrests
  | resting => cases hrests
  | napping k _ hpast htime => exact .napping k time (hpast.mono hle) (hdue _ rfl)
  | passing k _ hpast hbegun htime => exact .passing k time (hpast.mono hle) (Nat.le_trans hbegun hle) (hdue _ rfl)
  | stopped k _ hpast hstop => exact .stopped k time (hpast.mono hle) hstop
  | broken k _ hpast hnext htime => exact .broken k time (hpast.mono hle) hnext (Nat.le_trans htime hle)

theorem OnTime.drop (h : T.OnTime none p log) : T.OnTime (some .drop) p log.drop := by
  cases h with
  | unstarted => exact .unstarted
  | resting k d hpast hd => exact .resting k d hpast hd
  | napping k time hpast htime => exact .napping k time hpast htime
  | passing k time hpast hbegun htime => exact .passing k time hpast hbegun htime
  | stopped k time hpast hstop => exact absurd rfl hstop
  | broken k time hpast hnext htime => exact .broken k time hpast hnext htime

theorem OnTime.cancel (h : T.OnTime none p log) : T.OnTime (some .cancel) p log.cancel.2 := by
  cases h with
  | unstarted => exact .unstarted
  | resting k d hpast hd => exact .resting k d hpast hd
  | napping k time hpast htime => exact .napping k time hpast htime
  | passing k time hpast hbegun htime => exact .passing k time hpast hbegun htime
  | stopped k time hpast hstop => exact absurd rfl hstop
  | broken k time hpast hnext htime => exact .broken k time hpast hnext htime

theorem stage_log_ne_exited {b : Nat} {m : List PassMark} : (T.log stop time b m).stage ≠ .exited := by
  show (if stop = some .cancel then .cancelled else .armed T.first : Schedule.Stage) ≠ .exited
  split <;> nofun

theorem OnTime.stage_ne_exited (h : T.OnTime stop p log) (hmoves : (T.thread p).canMove passKernel log = true) :
    log.stage ≠ .exited := by
  cases h with
  | unstarted | resting | napping | passing => exact stage_log_ne_exited
  | stopped | broken => cases hmoves

/-- The passes that have begun did so before, and the next one does not begin before now. -/
theorem OnTime.begun (h : T.OnTime none p log) : (∀ k < log.begun, T.begins k ≤ log.time) ∧
    (T.Whole log.begun → log.time ≤ T.begins log.begun) := by
  cases h with
  | unstarted => exact ⟨fun k hk => absurd hk (Nat.not_lt_zero k), fun _ => Nat.le_add_right _ _⟩
  | resting k d hpast hd => exact ⟨hpast.begun, fun _ => ends_le_begins k⟩
  | napping k time hpast htime => exact ⟨hpast.begun, fun _ => htime⟩
  | passing k time hpast hbegun htime => exact ⟨hpast.begun_succ hbegun, fun _ => Nat.le_trans htime (ends_le_begins k)⟩
  | stopped k time hpast hstop => exact absurd rfl hstop
  | broken k time hpast hnext htime =>
    exact ⟨hpast.begun_succ (Nat.le_trans (begins_le_ends k) htime), fun h => absurd hnext (h k (Nat.lt_succ_self k))⟩

/-- A task that cannot move is not late. -/
theorem OnTime.lt_due (h : T.OnTime stop p log) (hrests : (T.thread p).canMove passKernel log = false) :
    ∀ due ∈ (T.thread p).due passKernel, log.time < due := by
  intro due hdue
  cases h with
  | unstarted | resting | stopped | broken => cases hdue
  | napping =>
    cases hdue
    exact (canMove_napping.1 hrests).2
  | passing =>
    cases hdue
    exact canMove_passing.1 hrests

/-- **After a pass the task naps**, unless the schedule was stopped: the next pass does not begin at once. -/
theorem rests_round (hT : T.Pauses) {d : Nat} (hd : (T.pass (k + 1)).next = some d) {q : Program passes (Option Nat)}
    (hpoll : (T.thread (T.round d)).poll passKernel (T.log stop (T.ends k) (k + 1) (T.marks (k + 1))) =
      (T.thread q, log)) : (T.thread q).canMove passKernel log = false := by
  have hnap : (T.thread (T.round d)).poll passKernel (T.log stop (T.ends k) (k + 1) (T.marks (k + 1))) =
      (T.thread (T.napping (T.begins (k + 1)))).poll passKernel (T.log stop (T.ends k) (k + 1) (T.marks (k + 1))) := by
    rw [begins_succ hd]
    exact poll_of_some (r := .clock .now) rfl
  rw [hnap] at hpoll
  cases stop with
  | some how =>
    cases how <;> cases hpoll <;> rfl
  | none =>
    have hlt : T.ends k < T.begins (k + 1) := by
      rw [begins_succ hd]
      exact Clock.lt_endOfWait (hT _ _ hd)
    have hwaits : PassLog.serve (.task (.nap (T.begins (k + 1)))) (T.log none (T.ends k) (k + 1) (T.marks (k + 1))) = none := by
      simp [PassLog.serve, PassLog.serveTask, Schedule.serve, Timetable.log, hlt]
    cases (poll_of_none hwaits).symm.trans hpoll
    exact canMove_napping.2 ⟨rfl, hlt⟩

end Between

/-! ## At rest -/

/-- The marks of the passes that have begun, up to a time: that a pass began, and that it ended unless it broke. -/
def history (T : Timetable) (time begun : Nat) : List PassMark := (List.range begun).flatMap fun k =>
  ⟨false, k + 1, T.begins k⟩ :: if (T.pass (k + 1)).next ≠ none ∧ T.ends k ≤ time then [⟨true, k + 1, T.ends k⟩] else []

theorem history_succ (begun : Nat) : T.history time (begun + 1) = T.history time begun ++
    ⟨false, begun + 1, T.begins begun⟩ ::
      if (T.pass (begun + 1)).next ≠ none ∧ T.ends begun ≤ time then [⟨true, begun + 1, T.ends begun⟩] else [] := by
  unfold history
  rw [List.range_succ, List.flatMap_append, List.flatMap_singleton]

theorem Past.reverse_marks (h : T.Past k time) : (T.marks k).reverse = T.history time k := by
  induction k with
  | zero => rfl
  | succ k ih =>
    have hk : T.Past k time := ⟨fun i hi => h.whole i (Nat.lt_succ_of_lt hi), fun i hi => h.ends i (Nat.lt_succ_of_lt hi)⟩
    rw [history_succ, if_pos ⟨h.whole k (Nat.lt_succ_self k), h.ends k (Nat.lt_succ_self k)⟩, ← ih hk, marks,
      List.reverse_cons, List.reverse_cons, List.append_assoc]
    rfl

/-- So far the last pass has not ended. -/
theorem Past.reverse_marks_succ (h : T.Past k time) (hend : ¬ ((T.pass (k + 1)).next ≠ none ∧ T.ends k ≤ time)) :
    (⟨false, k + 1, T.begins k⟩ :: T.marks k : List PassMark).reverse = T.history time (k + 1) := by
  rw [history_succ, if_neg hend, List.reverse_cons, h.reverse_marks]

/-- What a log shows of a schedule at rest. -/
structure Shows (T : Timetable) (stop : Option Stop) (log : PassLog) : Prop where
  marks : log.marks.reverse = T.history log.time log.begun
  /-- Only the last pass that has begun may have broken. -/
  whole : ∀ k, k + 1 < log.begun → (T.pass (k + 1)).next ≠ none
  begun : ∀ k < log.begun, T.begins k ≤ log.time
  /-- Nothing is late. -/
  next : stop = none → T.Whole log.begun → log.time < T.begins log.begun
  exited : stop ≠ none → (log.stage = .exited ↔ ∀ k < log.begun, T.ends k ≤ log.time)

theorem OnTime.shows {p : Program passes (Option Nat)} {log : PassLog} (h : T.OnTime stop p log)
    (hrests : (T.thread p).canMove passKernel log = false) : T.Shows stop log := by
  cases h with
  | unstarted =>
    rw [canMove_unstarted] at hrests
    cases hrests
  | resting => cases hrests
  | napping k time hpast htime =>
    obtain ⟨rfl, hlt⟩ := canMove_napping.1 hrests
    exact ⟨hpast.reverse_marks, fun i hi => hpast.whole i (Nat.lt_of_succ_lt hi), hpast.begun, fun _ _ => hlt,
      fun h => absurd rfl h⟩
  | passing k time hpast hbegun htime =>
    have hlt := canMove_passing.1 hrests
    refine ⟨?_, fun i hi => hpast.whole i (Nat.lt_of_succ_lt_succ hi), hpast.begun_succ hbegun,
      fun _ _ => Nat.lt_of_lt_of_le hlt (ends_le_begins k), fun _ => ⟨fun h => ?_, fun h => ?_⟩⟩
    · exact hpast.reverse_marks_succ fun h => absurd h.2 (Nat.not_le.2 hlt)
    · have hstage : (if stop = some .cancel then .cancelled else .armed T.first : Schedule.Stage) = .exited := h
      split at hstage <;> cases hstage
    · exact absurd (h k (Nat.lt_succ_self k)) (Nat.not_le.2 hlt)
  | stopped k time hpast hstop =>
    exact ⟨hpast.reverse_marks, fun i hi => hpast.whole i (Nat.lt_of_succ_lt hi), hpast.begun, fun h => absurd h hstop,
      fun _ => ⟨fun _ => hpast.ends, fun _ => rfl⟩⟩
  | broken k time hpast hnext htime =>
    refine ⟨?_, fun i hi => hpast.whole i (Nat.lt_of_succ_lt_succ hi),
      hpast.begun_succ (Nat.le_trans (begins_le_ends k) htime), fun _ h => absurd hnext (h k (Nat.lt_succ_self k)),
      fun _ => ⟨fun _ i hi => ?_, fun _ => rfl⟩⟩
    · exact hpast.reverse_marks_succ fun h => absurd hnext h.1
    · rcases Nat.lt_succ_iff_lt_or_eq.1 hi with hi | rfl
      · exact hpast.ends i hi
      · exact htime

end Timetable
end Simulation
end AddressBinder
