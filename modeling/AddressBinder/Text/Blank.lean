import AddressBinder.Text.Ranges
/-!
# Blank characters, trimming and words

`isBlank` is the White_Space property of the character standard, which is wider than ASCII: the no-break space and the
ideographic space are blank, the zero-width space is not.  Trimming and splitting into words go by it.
-/
namespace AddressBinder
namespace Text

/-- The code points with the White_Space property. -/
def blankRanges : List (Nat × Nat) :=
  [(0x09, 0x0d), (0x20, 0x20), (0x85, 0x85), (0xa0, 0xa0), (0x1680, 0x1680), (0x2000, 0x200a), (0x2028, 0x2029),
   (0x202f, 0x202f), (0x205f, 0x205f), (0x3000, 0x3000)]

/-- Whether a character is white space. -/
def isBlank (c : Char) : Bool := inRanges blankRanges c.toNat

/-! ## Dropping from the ends -/

/-- The text without its leading characters in the class `p`. -/
def dropLeading (p : Char → Bool) (cs : List Char) : List Char := cs.dropWhile p

/-- The text without its trailing characters in the class `p`. -/
def dropTrailing (p : Char → Bool) : List Char → List Char
  | [] => []
  | c :: cs =>
    match dropTrailing p cs with
    | [] => if p c then [] else [c]
    | d :: ds => c :: d :: ds

/-- The text without the characters in the class `p` at either end. -/
def dropEnds (p : Char → Bool) (cs : List Char) : List Char := dropTrailing p (dropLeading p cs)

/-- The text without the blanks at either end. -/
def trim (cs : List Char) : List Char := dropEnds isBlank cs

theorem eq_dropTrailing_append (p : Char → Bool) :
    ∀ cs : List Char, ∃ tail, cs = dropTrailing p cs ++ tail ∧ ∀ c ∈ tail, p c
  | [] => ⟨[], rfl, fun _ h => by cases h⟩
  | c :: cs => by
    obtain ⟨tail, he, ht⟩ := eq_dropTrailing_append p cs
    unfold dropTrailing
    cases h : dropTrailing p cs with
    | nil =>
      rw [h] at he
      by_cases hc : p c
      · refine ⟨c :: cs, by simp [hc], fun x hx => ?_⟩
        rcases List.mem_cons.1 hx with rfl | hx
        · exact hc
        · exact ht x (by simpa [he] using hx)
      · exact ⟨cs, by simp [hc], fun x hx => ht x (by simpa [he] using hx)⟩
    | cons d ds =>
      rw [h] at he
      exact ⟨tail, by simp [he], ht⟩

/-! ## Words -/

/-- The maximal runs of characters that are not blank, in order; `word` is the run read so far. -/
def wordsFrom (word : List Char) : List Char → List (List Char)
  | [] => if word.isEmpty then [] else [word]
  | c :: cs =>
    if isBlank c then
      if word.isEmpty then wordsFrom [] cs else word :: wordsFrom [] cs
    else wordsFrom (word ++ [c]) cs

/-- The words of a text: its maximal runs of characters that are not blank. -/
def words (cs : List Char) : List (List Char) := wordsFrom [] cs

end Text
end AddressBinder
