import AddressBinder.Text.CaseTable
/-!
# Lower case

`lower` is the full lower-casing of the character standard: each character has its lower-case form, U+0130 becomes two
characters, and a capital sigma at the end of a word becomes the final sigma.  `asciiLower` changes A to Z only.
-/
namespace AddressBinder
namespace Text

/-- The lower-case form of an ASCII capital; every other character itself. -/
def asciiLower (c : Char) : Char :=
  if 'A' ≤ c ∧ c ≤ 'Z' then Char.ofNat (c.toNat + 32) else c

def isAsciiLetter (c : Char) : Bool := ('a' ≤ c && c ≤ 'z') || ('A' ≤ c && c ≤ 'Z')

/-- The distance from a character to its lower-case form, if a run of the table holds it. -/
def lowerDistance (n : Nat) : List CaseRun → Option Int
  | [] => none
  | r :: rs => if r.first ≤ n ∧ n ≤ r.last ∧ (n - r.first) % r.step = 0 then some r.distance else lowerDistance n rs

/-- The lower-case form of a character taken by itself. -/
def lowerChar (c : Char) : List Char :=
  if c.toNat = 0x130 then ['i', Char.ofNat 0x307]
  else
    match lowerDistance c.toNat lowerRuns with
    | some d => [Char.ofNat (Int.toNat (c.toNat + d))]
    | none => [c]

/-- Whether the first character that is not case-ignorable is a cased one. -/
def startsCased : List Char → Bool
  | [] => false
  | c :: cs =>
    if inRanges casedRanges c.toNat then true
    else if inRanges caseIgnorableRanges c.toNat then startsCased cs
    else false

/-- The lower-case form of a text; `before` is what stands before it, nearest character first. -/
def lowerAfter (before : List Char) : List Char → List Char
  | [] => []
  | c :: cs =>
    let form :=
      if c.toNat = 0x3a3 then [Char.ofNat (if startsCased before && !startsCased cs then 0x3c2 else 0x3c3)]
      else lowerChar c
    form ++ lowerAfter (c :: before) cs

def lower (cs : List Char) : List Char := lowerAfter [] cs

end Text
end AddressBinder
