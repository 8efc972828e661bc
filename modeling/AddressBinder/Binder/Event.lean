import AddressBinder.Net.Ipv4
/-!
# Events

What a binder reports to whoever watches it, over a channel of limited capacity.  A full or closed channel drops the
event; nothing else depends on the channel.
-/
namespace AddressBinder

inductive Event where
  | startupCompleted (bound : Bool) (attempts : Nat)
  | scheduleArmed (firstDelay : Nat)
  | attached (interfaceId : String) (ip : Ipv4) (attachmentId : String)
  | noInterfaceAvailable (zone : String)
  /-- The peer registry was cleared and filled again before a bind. -/
  | registryResynced (count : Nat)
  /-- A periodic pass ended; `bound` says how it found the instance. -/
  | passCompleted (bound : Bool) (nextDelay : Nat)
  | passFailed (failure : String) (nextDelay : Nat)
  | scheduleCancelled
  | detached (interfaceId attachmentId : String)
  | stopped
deriving DecidableEq, Inhabited

/-- A channel of events: those that wait for the reader, at most `capacity`. -/
structure Channel where
  capacity : Nat
  waiting : List Event
  isOpen : Bool
deriving DecidableEq, Inhabited

namespace Channel

def ofCapacity (capacity : Nat) : Channel := ⟨capacity, [], true⟩

/-- Sends an event, or drops it when the channel is full or closed. -/
def send (c : Channel) (e : Event) : Channel :=
  if c.isOpen && c.waiting.length < c.capacity then { c with waiting := c.waiting ++ [e] } else c

def drain (c : Channel) : List Event × Channel := (c.waiting, { c with waiting := [] })

/-- Closes the channel; what waits is lost. -/
def close (c : Channel) : Channel := { c with waiting := [], isOpen := false }

end Channel
end AddressBinder
