import Mathlib.Algebra.BigOperators.Group.Finset.Basic
import AddressBinder.Proofs.Program.Rounds
import AddressBinder.Proofs.Program.Serving
import AddressBinder.Simulation.Attempts
/-!
# When the attempts of a retry begin

A retry run over a plan, on a clock: which attempts are made, when each of them begins, how long the run takes and what
comes of it, all in closed form (`retry_law`).
-/
namespace AddressBinder
namespace Simulation

open Finset Program Retry

variable {α : Type} {policy : Policy} {plan : Nat → TimedAttempt α} {origin : Nat}

/-- The pause after the attempt with a number, if it is made: one that failed and is not the last that is allowed. -/
def pauseAfter (policy : Policy) (plan : Nat → TimedAttempt α) (number : Nat) : Nat :=
  if (error? (plan number).ends).isSome ∧ number < policy.attempts then Nat.min policy.delay Clock.longestWait else 0

/-- When so many attempts and the pauses after them are over. -/
def timeAfter (policy : Policy) (plan : Nat → TimedAttempt α) (origin k : Nat) : Nat :=
  origin + ∑ i ∈ range k, ((plan (i + 1)).takes + pauseAfter policy plan (i + 1))

theorem run_playAttempt (number : Nat) (log : AttemptLog) : (playAttempt plan number).run AttemptLog.serve log =
    ((plan number).ends, ⟨log.time + (plan number).takes, log.begun ++ [(number, log.time)]⟩) :=
  Prod.ext rfl (congrArg (fun time => (⟨time, log.begun ++ [(number, log.time)]⟩ : AttemptLog))
    (Nat.max_eq_right (Nat.le_add_right _ _)))

theorem run_sleep (ms : Nat) (log : AttemptLog) : (Clock.sleep attemptClock ms).run AttemptLog.serve log =
    ((), ⟨log.time + Nat.min ms Clock.longestWait, log.begun⟩) :=
  Prod.ext rfl (congrArg (fun time => (⟨time, log.begun⟩ : AttemptLog)) (Nat.max_eq_right (Nat.le_add_right _ _)))

/-- One round: its attempt begins at once, and what follows it begins after its time and its pause. -/
theorem served_round {number : Nat} {r : Round attempts α} {log log' : AttemptLog}
    (hr : r.Goes policy (Clock.sleep attemptClock) (playAttempt plan) number (policy.attempts - number))
    (h : Served AttemptLog.serve log r.exchanges log') :
    r.ends = (plan number).ends ∧
      log' = ⟨log.time + ((plan number).takes + pauseAfter policy plan number), log.begun ++ [(number, log.time)]⟩ := by
  obtain ⟨u, hattempt, hpause⟩ := served_append.1 h
  have hrun := hattempt.run_eq hr.attempt
  rw [run_playAttempt] at hrun
  obtain ⟨hends, rfl⟩ := Prod.mk.inj hrun
  refine ⟨hends.symm, ?_⟩
  unfold pauseAfter
  split
  · rename_i hpauses
    rw [hends] at hpauses
    have hslept := hpause.run_eq (hr.pauses (Option.isSome_iff_ne_none.1 hpauses.1) (by omega))
    rw [run_sleep] at hslept
    obtain ⟨-, rfl⟩ := Prod.mk.inj hslept
    rw [Nat.add_assoc]
  · rename_i hhurries
    rw [hends] at hhurries
    rw [hr.hurries (by cases he : error? r.ends <;> simp_all)] at hpause
    cases hpause
    rfl

/-- **The rounds of a run on a clock**: how each attempt ends, and when it begins. -/
theorem served_rounds (rounds : List (Round attempts α)) : ∀ {log : AttemptLog},
    (∀ (i : Nat) (r : Round attempts α), rounds[i]? = some r →
      r.Goes policy (Clock.sleep attemptClock) (playAttempt plan) (1 + i) (policy.attempts - (i + 1))) →
    Served AttemptLog.serve ⟨origin, []⟩ (rounds.flatMap Round.exchanges) log →
      rounds.map Round.ends = (List.range rounds.length).map (fun i => (plan (i + 1)).ends) ∧
        log = ⟨timeAfter policy plan origin rounds.length,
          (List.range rounds.length).map fun i => (i + 1, timeAfter policy plan origin i)⟩ := by
  -- the round that comes last begins where those before it leave the clock
  induction rounds using List.reverseRecOn with
  | nil =>
    intro log _ h
    cases h
    exact ⟨rfl, rfl⟩
  | append_singleton rounds r ih =>
    intro log hgoes h
    rw [List.flatMap_append, List.flatMap_singleton] at h
    obtain ⟨u, hbefore, hlast⟩ := served_append.1 h
    obtain ⟨hends, rfl⟩ := ih (fun i s hs => hgoes i s (by
      rw [List.getElem?_append_left (List.getElem?_eq_some_iff.1 hs).1]
      exact hs)) hbefore
    have hr := hgoes rounds.length r List.getElem?_concat_length
    rw [Nat.add_comm 1] at hr
    obtain ⟨hend, rfl⟩ := served_round hr hlast
    constructor
    · rw [List.map_append, hends, List.map_singleton, hend, List.length_append, List.length_singleton, List.range_succ,
        List.map_append, List.map_singleton]
    · simp only [List.length_append, List.length_singleton, List.range_succ, List.map_append, List.map_singleton,
        timeAfter, sum_range_succ, Nat.add_assoc]

/-- The attempts that a run makes, by its outcome: the last of them is the first that reaches the goal, or all that are
allowed are made and none reaches it. -/
inductive Makes (policy : Policy) (plan : Nat → TimedAttempt α) (k : Nat) : Outcome α → Prop where
  | succeeded (a : α) (hpos : 0 < k) (hle : k ≤ policy.attempts) (ha : (plan k).ends = .ok (.done a))
      (hfirst : ∀ i, i + 1 < k → ∀ a, (plan (i + 1)).ends ≠ .ok (.done a)) : Makes policy plan k (.succeeded a k)
  | exhausted (hk : k = policy.attempts) (hnone : ∀ i < k, ∀ a, (plan (i + 1)).ends ≠ .ok (.done a)) :
      Makes policy plan k
        (.exhausted policy.attempts ((List.range k).filterMap fun i => error? (plan (i + 1)).ends).getLast?)

theorem done?_eq_none {r : Except Error (Attempt α)} : done? r = none ↔ ∀ a, r ≠ .ok (.done a) := by
  rcases r with e | a | _ <;> simp [done?]

theorem done?_eq_some {r : Except Error (Attempt α)} {a : α} : done? r = some a ↔ r = .ok (.done a) := by
  rcases r with e | a | _ <;> simp [done?]

theorem makes_of_concludes {rounds : List (Round attempts α)} {outcome : Outcome α} (hle : rounds.length ≤ policy.attempts)
    (hends : rounds.map Round.ends = (List.range rounds.length).map fun i => (plan (i + 1)).ends)
    (hunfinished : ∀ r ∈ rounds.dropLast, done? r.ends = none)
    (h : Concludes policy policy.attempts 1 none rounds outcome) : Makes policy plan rounds.length outcome := by
  have hend : ∀ (i : Nat) (hi : i < rounds.length), rounds[i].ends = (plan (i + 1)).ends := fun i hi => by
    have hith := congrArg (·[i]?) hends
    simpa [hi] using hith
  have hnone : ∀ (i : Nat) (hi : i < rounds.length), done? rounds[i].ends = none →
      ∀ a, (plan (i + 1)).ends ≠ .ok (.done a) := fun i hi hdone => by
    rw [hend] at hdone
    exact done?_eq_none.1 hdone
  cases h with
  | succeeded r a hlast ha =>
    obtain ⟨init, rfl⟩ := List.getLast?_eq_some_iff.1 hlast
    rw [Nat.add_sub_cancel' (by simp : 1 ≤ (init ++ [r]).length)]
    have hr := hend init.length (by simp)
    rw [List.getElem_concat_length rfl] at hr
    refine .succeeded a (by simp) hle ?_ fun i hi => hnone i (Nat.lt_of_succ_lt hi) (hunfinished _ ?_)
    · rw [List.length_append, List.length_singleton, ← hr]
      exact done?_eq_some.1 ha
    · rw [List.dropLast_concat, List.getElem_append_left (by simp at hi; omega)]
      exact List.getElem_mem _
  | exhausted hall hlength =>
    have herrors : (rounds.filterMap fun r => error? r.ends) =
        (List.range rounds.length).filterMap fun i => error? (plan (i + 1)).ends := by
      have hmap := congrArg (List.filterMap error?) hends
      rwa [List.filterMap_map, List.filterMap_map] at hmap
    rw [herrors, Option.or_none]
    exact .exhausted hlength fun i hi => hnone i hi (hall _ (List.getElem_mem _))

/-- **The retry law.**  For every limit, every delay and every plan of attempts with durations, wherever the clock
stands: the run makes the attempts 1 to `k`, where `k` is the first that reaches the goal or the last that is allowed; it
returns the value, or the failure of the last attempt that failed; each attempt begins when those before are over, and
a pause of the delay, at most thirty years of it, after each of those that failed; no pause follows the last one that is
allowed. -/
theorem retry_law (policy : Policy) (plan : Nat → TimedAttempt α) (origin : Nat) :
    ∃ k ≤ policy.attempts, Makes policy plan k (runPlan policy plan origin).1 ∧
      (runPlan policy plan origin).2.begun = (List.range k).map (fun i =>
        (i + 1, origin + ∑ m ∈ range i, ((plan (m + 1)).takes + pauseAfter policy plan (m + 1)))) ∧
      (runPlan policy plan origin).2.time = origin + ∑ i ∈ range k, (plan (i + 1)).takes +
        Nat.min policy.delay Clock.longestWait *
          #{i ∈ range k | (error? (plan (i + 1)).ends).isSome ∧ i + 1 < policy.attempts} := by
  obtain ⟨es, hes, hserved⟩ := Program.leads_run AttemptLog.serve
    (Retry.run policy (Clock.sleep attemptClock) (playAttempt plan)) ⟨origin, []⟩
  obtain ⟨rounds, rfl, hruns⟩ := Retry.leads_run hes
  obtain ⟨hends, hlog⟩ := served_rounds rounds hruns.goes hserved
  have hlog : (runPlan policy plan origin).2 = _ := hlog
  refine ⟨rounds.length, hruns.length_le, makes_of_concludes hruns.length_le hends hruns.unfinished hruns.concludes, ?_, ?_⟩
  · rw [hlog]
    rfl
  · have hpauses : ∑ i ∈ range rounds.length, pauseAfter policy plan (i + 1) =
        Nat.min policy.delay Clock.longestWait *
          #{i ∈ range rounds.length | (error? (plan (i + 1)).ends).isSome ∧ i + 1 < policy.attempts} := by
      unfold pauseAfter
      rw [← sum_filter, sum_const_nat fun _ _ => rfl, Nat.mul_comm]
    rw [hlog, timeAfter, sum_add_distrib, hpauses, Nat.add_assoc]

/-- Two attempts, and a pause of a little more than thirty years between them. -/
def longDelay : Policy := ⟨2, Clock.longestWait + 1⟩

def failsOnce : List (PlannedAttempt Nat) := [⟨none, .error (.other "x")⟩, ⟨none, .ok (.done 1)⟩]

/-- The pause is cut to thirty years. -/
theorem elapsed_ne_of_longDelay :
    (retryScript longDelay failsOnce).1 = .succeeded 1 2 ∧
      (retryScript longDelay failsOnce).2 = ⟨946080000000, [(1, 0), (2, 946080000000)]⟩ ∧
      (retryScript longDelay failsOnce).2.time ≠ ∑ i ∈ range 2, (scriptedAttempt failsOnce (i + 1)).takes +
        longDelay.delay *
          #{i ∈ range 2 | (error? (scriptedAttempt failsOnce (i + 1)).ends).isSome ∧ i + 1 < longDelay.attempts} :=
  ⟨rfl, rfl, by decide⟩

end Simulation
end AddressBinder
