import AddressBinder.Net.Ipv4
/-!
# The text form of IPv6 addresses

Only recognised, never held: an interface of the pool has no IPv6 address, and an entry that names one is told apart
from an entry that is no address at all.  A text is eight groups of one to four base-sixteen digits with colons
between them; one `::` may stand for one or more groups, and the last two groups may be written as an IPv4 address.
-/
namespace AddressBinder
namespace Ipv6

/-- Whether the text is one group. -/
def isGroup (cs : List Char) : Bool :=
  1 ≤ cs.length && cs.length ≤ 4 && cs.all (fun c => (Text.hexDigit? c).isSome)

/-- The number of groups that the pieces stand for; `tail` says whether the last may be an IPv4 address. -/
def groupCount (tail : Bool) : List (List Char) → Option Nat
  | [] => some 0
  | [piece] =>
    if isGroup piece then some 1
    else if tail && (Ipv4.parse? piece).isSome then some 2
    else none
  | piece :: pieces => if isGroup piece then (groupCount tail pieces).map (· + 1) else none

/-- The number of groups in one side of a `::`, which may be empty. -/
def sideCount (tail : Bool) (cs : List Char) : Option Nat :=
  if cs.isEmpty then some 0 else groupCount tail (Text.splitAt ':' cs)

/-- What stands before and after the first `::`, if there is one. -/
def cutGap : List Char → Option (List Char × List Char)
  | ':' :: ':' :: cs => some ([], cs)
  | [] => none
  | c :: cs => (cutGap cs).map (fun r => (c :: r.1, r.2))

/-- Whether the text is an IPv6 address. -/
def isText (cs : List Char) : Bool :=
  match cutGap cs with
  | none => groupCount true (Text.splitAt ':' cs) == some 8
  | some (left, right) =>
    match sideCount false left, sideCount true right with
    | some m, some n => m + n ≤ 7
    | _, _ => false

end Ipv6
end AddressBinder
