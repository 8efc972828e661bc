import AddressBinder.Net.Ipv4
/-!
# The candidate addresses of a zone

The pool of addresses that instances of a zone compete for, in priority order: every instance tries the first address
first, so competing instances rank alike.
-/
namespace AddressBinder

/-- The ordered candidate addresses of one zone. -/
structure Candidates where
  addresses : List Ipv4
deriving DecidableEq, Inhabited

namespace Candidates

/-- The priority of an address: the place of its first occurrence. -/
def position (cs : Candidates) (ip : Ipv4) : Option Nat := cs.addresses.idxOf? ip

def contains (cs : Candidates) (ip : Ipv4) : Bool := (cs.position ip).isSome

/-- The number of entries, repeated addresses counted. -/
def size (cs : Candidates) : Nat := cs.addresses.length

def isEmpty (cs : Candidates) : Bool := cs.addresses.isEmpty

instance : ToString Candidates :=
  ⟨fun cs => "[" ++ ", ".intercalate (cs.addresses.map toString) ++ "]"⟩

end Candidates
end AddressBinder
