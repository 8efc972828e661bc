import AddressBinder.Candidate.Basic
import AddressBinder.Cloud.Interface
/-!
# Binding decisions

Pure functions of what the cloud listed, so every instance that competes for a pool decides alike.  Both decisions are
one rule: of the interfaces with a candidate address, the one whose address comes first in the pool, and of several
with that address the one listed first.
-/
namespace AddressBinder
namespace Decision

/-- The priority of an interface: that of its address, if it has one and it is a candidate. -/
def rank? (candidates : Candidates) (i : Interface) : Option Nat :=
  match i.privateIp with
  | some ip => candidates.position ip
  | none => none

/-- The interface of best priority, the earliest listed among equals. -/
def best? (candidates : Candidates) : List Interface → Option Interface
  | [] => none
  | i :: rest =>
    match rank? candidates i, best? candidates rest with
    | none, later => later
    | some _, none => some i
    | some m, some j =>
      match rank? candidates j with
      | some n => if n < m then some j else some i
      | none => some i

/-- The attached interface that holds a candidate address, if any does. -/
def boundInterface? (attached : List Interface) (candidates : Candidates) : Option Interface :=
  best? candidates attached

def isBound (attached : List Interface) (candidates : Candidates) : Bool :=
  (boundInterface? attached candidates).isSome

/-- The interface to attach out of those that are available; none is the normal "no free address yet". -/
def select? (available : List Interface) (candidates : Candidates) : Option Interface :=
  best? candidates available

end Decision
end AddressBinder
