import AddressBinder.Program
import AddressBinder.Error
/-!
# Bounded retry

The startup bind and the shutdown unbind run a fixed number of attempts.  An attempt reaches the goal, makes progress
(and is re-checked at once), or fails (and the next one comes after a pause).  Running out of attempts is an outcome,
not an error.
-/
namespace AddressBinder

/-- The result of one attempt that did not fail. -/
inductive Attempt (α : Type) where
  | done (a : α)
  /-- The next attempt follows without a pause. -/
  | again
deriving DecidableEq

namespace Retry

/-- How often, and with what pause after a failed attempt. -/
structure Policy where
  attempts : Nat
  delay : Nat
deriving DecidableEq, Inhabited

/-- The result of a whole run. -/
inductive Outcome (α : Type) where
  /-- The goal was reached in the attempt with this number. -/
  | succeeded (a : α) (attempts : Nat)
  /-- All attempts were used up; the error is that of the last one that failed, if one did. -/
  | exhausted (attempts : Nat) (lastError : Option Error)

namespace Outcome

variable {α : Type}

/-- The number of attempts made. -/
def attempts : Outcome α → Nat
  | .succeeded _ n => n
  | .exhausted n _ => n

def value? : Outcome α → Option α
  | .succeeded a _ => some a
  | .exhausted .. => none

def lastError? : Outcome α → Option Error
  | .succeeded .. => none
  | .exhausted _ e => e

end Outcome

variable {σ : Signature} {α : Type}

/-- Makes the attempts that are left, the next one being number `number`; `lastError` is the latest failure so far. -/
def runFrom (policy : Policy) (pause : Nat → Program σ Unit) (op : Nat → Program σ (Except Error (Attempt α))) :
    Nat → Nat → Option Error → Program σ (Outcome α)
  | 0, _, lastError => .done (.exhausted policy.attempts lastError)
  | left + 1, number, lastError =>
    (op number).bind fun
      | .ok (.done a) => .done (.succeeded a number)
      | .ok .again => runFrom policy pause op left (number + 1) lastError
      | .error e =>
        if left = 0 then runFrom policy pause op left (number + 1) (some e)
        else (pause policy.delay).bind fun _ => runFrom policy pause op left (number + 1) (some e)

/-- Runs `op` with the numbers 1, 2, … until it reaches its goal or the attempts are used up. -/
def run (policy : Policy) (pause : Nat → Program σ Unit) (op : Nat → Program σ (Except Error (Attempt α))) :
    Program σ (Outcome α) :=
  runFrom policy pause op policy.attempts 1 none

end Retry
end AddressBinder
