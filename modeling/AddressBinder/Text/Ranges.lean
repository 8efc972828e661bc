/-!
# Ranges of characters

A character class is a list of ranges of code points.  The tables of this library are data of the character standard,
kept in modules of their own; `inRanges` is the one reader.
-/
namespace AddressBinder
namespace Text

/-- Whether a code point lies in one of the ranges, ends included. -/
def inRanges (ranges : List (Nat × Nat)) (n : Nat) : Bool :=
  ranges.any (fun r => r.1 ≤ n && n ≤ r.2)

end Text
end AddressBinder
