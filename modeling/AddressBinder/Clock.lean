import AddressBinder.Program
/-!
# Time

Times are milliseconds since the clock was started.  A program reads the clock and waits for a time to come; waiting is
a request that cannot be served earlier, so what waits is seen from the request alone.  However long a wait is asked
for, it is over after thirty years.
-/
namespace AddressBinder
namespace Clock

inductive Request where
  | now
  /-- Wait until the clock shows the time. -/
  | wait (time : Nat)
deriving DecidableEq

abbrev Request.Reply : Request → Type
  | .now => Nat
  | .wait _ => Unit

def serve (time : Nat) : (r : Request) → Option r.Reply
  | .now => some time
  | .wait due => if due ≤ time then some () else none

/-- The time that a request waits for. -/
def Request.due : Request → Option Nat
  | .now => none
  | .wait due => some due

/-- The longest wait, in milliseconds: thirty years of 365 days. -/
def longestWait : Nat := 946080000000

/-- The time at which a wait that begins at a time is over. -/
def endOfWait (time ms : Nat) : Nat := time + Nat.min ms longestWait

theorem lt_endOfWait {time ms : Nat} (h : 0 < ms) : time < endOfWait time ms :=
  Nat.lt_add_of_pos_right (Nat.lt_min.2 ⟨h, by decide⟩)

/-- Lets a time pass, however long it is. -/
def elapse {σ : Signature} (clock : (r : Request) → Program σ r.Reply) (ms : Nat) : Program σ Unit :=
  (clock .now).bind fun time => clock (.wait (time + ms))

def sleep {σ : Signature} (clock : (r : Request) → Program σ r.Reply) (ms : Nat) : Program σ Unit :=
  (clock .now).bind fun time => clock (.wait (endOfWait time ms))

def signature : Signature := ⟨Request, Request.Reply⟩

/-- Serves a request from a clock that jumps to the time that is waited for. -/
def serveAtOnce : (r : Request) → Nat → r.Reply × Nat
  | .now, time => (time, time)
  | .wait due, time => ((), Nat.max time due)

end Clock
end AddressBinder
