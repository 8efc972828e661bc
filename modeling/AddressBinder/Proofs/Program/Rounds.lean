import AddressBinder.Proofs.Program.Protocol
/-!
# Rounds of a retry

A retry run is a sequence of rounds, each an attempt and the pause after it, if there is one.  Whatever the attempts are,
none but the last reaches the goal, a pause follows just those that fail and are not the last that is allowed, and the
outcome is read off the results (`Retry.leads_run`).
-/
namespace AddressBinder
namespace Retry

open Program

variable {σ : Signature} {α : Type}

/-- The value of an attempt that reached the goal. -/
def done? : Except Error (Attempt α) → Option α
  | .ok (.done a) => some a
  | _ => none

/-- The failure of an attempt that failed. -/
def error? : Except Error (Attempt α) → Option Error
  | .error e => some e
  | .ok _ => none

/-- What an attempt and the pause after it asked, and how the attempt ended. -/
structure Round (σ : Signature) (α : Type) where
  attempt : List (Exchange σ)
  ends : Except Error (Attempt α)
  pause : List (Exchange σ)

namespace Round

def exchanges (r : Round σ α) : List (Exchange σ) := r.attempt ++ r.pause

/-- A round goes as the one with a number may when `left` attempts are left after it. -/
structure Goes (policy : Policy) (pause : Nat → Program σ Unit) (op : Nat → Program σ (Except Error (Attempt α)))
    (number left : Nat) (r : Round σ α) : Prop where
  attempt : (op number).Leads r.attempt (.done r.ends)
  pauses : error? r.ends ≠ none → left ≠ 0 → (pause policy.delay).Leads r.pause (.done ())
  hurries : error? r.ends = none ∨ left = 0 → r.pause = []

end Round

/-- The outcome of some rounds: the last one reached the goal, or none did and no attempt is left.  The first has the
number `number`, and the last failure before was `last`. -/
inductive Concludes (policy : Policy) (left number : Nat) (last : Option Error) (rounds : List (Round σ α)) :
    Outcome α → Prop where
  | succeeded (r : Round σ α) (a : α) (hlast : rounds.getLast? = some r) (ha : done? r.ends = some a) :
      Concludes policy left number last rounds (.succeeded a (number + (rounds.length - 1)))
  | exhausted (hall : ∀ r ∈ rounds, done? r.ends = none) (hlength : rounds.length = left) :
      Concludes policy left number last rounds
        (.exhausted policy.attempts ((rounds.filterMap fun r => error? r.ends).getLast?.or last))

/-- The rounds of a run from the attempt with a number on. -/
structure Runs (policy : Policy) (pause : Nat → Program σ Unit) (op : Nat → Program σ (Except Error (Attempt α)))
    (left number : Nat) (last : Option Error) (rounds : List (Round σ α)) (outcome : Outcome α) : Prop where
  length_le : rounds.length ≤ left
  goes : ∀ (i : Nat) (r : Round σ α), rounds[i]? = some r → r.Goes policy pause op (number + i) (left - (i + 1))
  unfinished : ∀ r ∈ rounds.dropLast, done? r.ends = none
  concludes : Concludes policy left number last rounds outcome

variable {policy : Policy} {pause : Nat → Program σ Unit} {op : Nat → Program σ (Except Error (Attempt α))}
  {left number : Nat} {last : Option Error} {r : Round σ α} {rounds : List (Round σ α)} {outcome : Outcome α}

theorem Concludes.cons (hdone : done? r.ends = none)
    (h : Concludes policy left (number + 1) ((error? r.ends).or last) rounds outcome) :
    Concludes policy (left + 1) number last (r :: rounds) outcome := by
  cases h with
  | succeeded s a hlast ha =>
    cases rounds with
    | nil => cases hlast
    | cons t rounds =>
      have hnumber : number + 1 + ((t :: rounds).length - 1) = number + ((r :: t :: rounds).length - 1) := by
        simp only [List.length_cons]
        omega
      rw [hnumber]
      exact .succeeded s a (by rwa [List.getLast?_cons_cons]) ha
  | exhausted hall hlength =>
    have hlast : ((rounds.filterMap fun r => error? r.ends).getLast?.or ((error? r.ends).or last)) =
        ((r :: rounds).filterMap fun r => error? r.ends).getLast?.or last := by
      rw [List.filterMap_cons, ← Option.or_assoc]
      cases error? r.ends with
      | none => simp
      | some e => cases h : (rounds.filterMap fun r => error? r.ends).getLast? <;> simp [List.getLast?_cons, h]
    rw [hlast]
    exact .exhausted (List.forall_mem_cons.2 ⟨hdone, hall⟩) (congrArg Nat.succ hlength)

theorem Runs.cons (hr : r.Goes policy pause op number left) (hdone : done? r.ends = none)
    (h : Runs policy pause op left (number + 1) ((error? r.ends).or last) rounds outcome) :
    Runs policy pause op (left + 1) number last (r :: rounds) outcome where
  length_le := Nat.succ_le_succ h.length_le
  goes := by
    intro i s hs
    cases i with
    | zero =>
      obtain rfl := Option.some.inj hs
      exact hr
    | succ i =>
      have hgoes := h.goes i s hs
      rwa [Nat.add_assoc, Nat.add_comm 1 i, ← Nat.add_sub_add_right left 1] at hgoes
  unfinished := by
    cases rounds with
    | nil => exact fun s hs => by cases hs
    | cons t rounds => exact List.forall_mem_cons.2 ⟨hdone, h.unfinished⟩
  concludes := h.concludes.cons hdone

theorem Runs.done {es : List (Exchange σ)} {a : α} (h : (op number).Leads es (.done (.ok (.done a)))) :
    Runs policy pause op (left + 1) number last [⟨es, .ok (.done a), []⟩] (.succeeded a number) where
  length_le := Nat.succ_le_succ (Nat.zero_le left)
  goes := by
    intro i s hs
    cases i with
    | zero =>
      obtain rfl := Option.some.inj hs
      exact ⟨h, fun he => absurd rfl he, fun _ => rfl⟩
    | succ i => cases hs
  unfinished := fun s hs => absurd hs List.not_mem_nil
  concludes := .succeeded _ a rfl rfl

theorem leads_runFrom : ∀ {left number : Nat} {last : Option Error} {es : List (Exchange σ)} {outcome : Outcome α},
    (runFrom policy pause op left number last).Leads es (.done outcome) →
      ∃ rounds, es = rounds.flatMap Round.exchanges ∧ Runs policy pause op left number last rounds outcome
  | 0, number, last, es, outcome, h => by
    obtain ⟨rfl, rfl⟩ := leads_done.1 h
    exact ⟨[], rfl, Nat.le_refl 0, fun i r hr => by simp at hr, fun r hr => absurd hr List.not_mem_nil,
      .exhausted (fun r hr => absurd hr List.not_mem_nil) rfl⟩
  | left + 1, number, last, es, outcome, h => by
    obtain ⟨result, attempt, rest, rfl, hop, hrest⟩ := leads_bind.1 h
    match result, hop, hrest with
    | .ok (.done a), hop, hrest =>
      obtain ⟨rfl, rfl⟩ := leads_done.1 hrest
      exact ⟨_, by simp [Round.exchanges], Runs.done hop⟩
    | .ok .again, hop, hrest =>
      obtain ⟨rounds, rfl, hruns⟩ := leads_runFrom hrest
      exact ⟨⟨attempt, .ok .again, []⟩ :: rounds, by simp [Round.exchanges],
        .cons ⟨hop, fun he => absurd rfl he, fun _ => rfl⟩ rfl hruns⟩
    | .error e, hop, hrest =>
      -- the last attempt that is allowed is not followed by a pause
      dsimp only at hrest
      by_cases hleft : left = 0
      · rw [if_pos hleft] at hrest
        obtain ⟨rounds, rfl, hruns⟩ := leads_runFrom hrest
        exact ⟨⟨attempt, .error e, []⟩ :: rounds, by simp [Round.exchanges],
          .cons ⟨hop, fun _ h => absurd hleft h, fun _ => rfl⟩ rfl hruns⟩
      · rw [if_neg hleft] at hrest
        obtain ⟨⟨⟩, pausing, rest, rfl, hpause, hrest⟩ := leads_bind.1 hrest
        obtain ⟨rounds, rfl, hruns⟩ := leads_runFrom hrest
        have hgoes : Round.Goes policy pause op number left ⟨attempt, .error e, pausing⟩ :=
          ⟨hop, fun _ _ => hpause, fun h => absurd h (by simp [error?, hleft])⟩
        exact ⟨⟨attempt, .error e, pausing⟩ :: rounds, by simp [Round.exchanges], .cons hgoes rfl hruns⟩

/-- **A retry run, round by round**, whatever its attempts are. -/
theorem leads_run {es : List (Exchange σ)} (h : (run policy pause op).Leads es (.done outcome)) :
    ∃ rounds, es = rounds.flatMap Round.exchanges ∧ Runs policy pause op policy.attempts 1 none rounds outcome :=
  leads_runFrom h

end Retry
end AddressBinder
