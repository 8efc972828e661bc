import AddressBinder.Text.Blank
/-!
# Splitting at a character

A text splits at a separator into the pieces between its occurrences, so there is always one piece more than there are
separators, and joining the pieces gives the text back (`join_splitAt`).
-/
namespace AddressBinder
namespace Text

/-- The pieces of a text between the occurrences of `sep`. -/
def splitAt (sep : Char) : List Char → List (List Char)
  | [] => [[]]
  | c :: cs =>
    if c = sep then [] :: splitAt sep cs
    else
      match splitAt sep cs with
      | [] => [[c]]
      | piece :: pieces => (c :: piece) :: pieces

/-- The pieces written one after the other with `sep` between them. -/
def join (sep : List Char) : List (List Char) → List Char
  | [] => []
  | [piece] => piece
  | piece :: pieces => piece ++ sep ++ join sep pieces

theorem splitAt_ne_nil (sep : Char) : ∀ cs : List Char, splitAt sep cs ≠ []
  | [] => by simp [splitAt]
  | c :: cs => by
    unfold splitAt
    split
    · simp
    · split <;> simp

theorem join_splitAt (sep : Char) : ∀ cs : List Char, join [sep] (splitAt sep cs) = cs
  | [] => rfl
  | c :: cs => by
    have ih := join_splitAt sep cs
    unfold splitAt
    by_cases h : c = sep
    · rw [if_pos h]
      cases hs : splitAt sep cs with
      | nil => exact absurd hs (splitAt_ne_nil sep cs)
      | cons piece pieces => rw [hs] at ih; simp [join, ih, h]
    · rw [if_neg h]
      cases hs : splitAt sep cs with
      | nil => exact absurd hs (splitAt_ne_nil sep cs)
      | cons piece pieces =>
        rw [hs] at ih
        cases pieces with
        | nil => simpa [join] using ih
        | cons q qs => simpa [join] using ih

theorem splitAt_no_sep (sep : Char) : ∀ (cs : List Char), ∀ piece ∈ splitAt sep cs, sep ∉ piece
  | [], piece, h => by
    rw [splitAt, List.mem_singleton] at h
    simp [h]
  | c :: cs, piece, h => by
    have ih := splitAt_no_sep sep cs
    unfold splitAt at h
    by_cases hc : c = sep
    · rw [if_pos hc] at h
      rcases List.mem_cons.1 h with rfl | h
      · simp
      · exact ih piece h
    · rw [if_neg hc] at h
      cases hs : splitAt sep cs with
      | nil => exact absurd hs (splitAt_ne_nil sep cs)
      | cons q qs =>
        rw [hs] at h ih
        rcases List.mem_cons.1 h with rfl | h
        · have := ih q List.mem_cons_self
          simp [Ne.symm hc, this]
        · exact ih piece (List.mem_cons_of_mem _ h)

/-- The non-empty trimmed pieces between the occurrences of `sep`: a list written by hand, blanks and gaps ignored. -/
def items (sep : Char) (cs : List Char) : List (List Char) :=
  ((splitAt sep cs).map trim).filter (fun piece => !piece.isEmpty)

/-! ## Cutting in two -/

/-- What stands before and after the first occurrence of `mark`, if it occurs. -/
def cut (mark : Char) : List Char → Option (List Char × List Char)
  | [] => none
  | c :: cs => if c = mark then some ([], cs) else (cut mark cs).map (fun r => (c :: r.1, r.2))

/-- What follows the first occurrence of the text `mark`, if it occurs. -/
def after (mark : List Char) : List Char → Option (List Char)
  | [] => if mark.isEmpty then some [] else none
  | c :: cs => if mark.isPrefixOf (c :: cs) then some ((c :: cs).drop mark.length) else after mark cs

/-- What follows the last occurrence of `mark`; all of the text when it does not occur. -/
def afterLast (mark : Char) : List Char → List Char
  | [] => []
  | c :: cs => if c = mark then afterLast mark cs else if mark ∈ cs then afterLast mark cs else c :: cs

theorem cut_eq {mark : Char} : ∀ {cs a b : List Char}, cut mark cs = some (a, b) → cs = a ++ mark :: b ∧ mark ∉ a
  | [], a, b, h => by simp [cut] at h
  | c :: cs, a, b, h => by
    unfold cut at h
    by_cases hc : c = mark
    · rw [if_pos hc] at h
      simp only [Option.some.injEq, Prod.mk.injEq] at h
      obtain ⟨rfl, rfl⟩ := h
      simp [hc]
    · rw [if_neg hc] at h
      obtain ⟨⟨a', b'⟩, hr, he⟩ := Option.map_eq_some_iff.1 h
      simp only [Prod.mk.injEq] at he
      obtain ⟨rfl, rfl⟩ := he
      obtain ⟨h1, h2⟩ := cut_eq hr
      exact ⟨by simp [h1], by simp [Ne.symm hc, h2]⟩

end Text
end AddressBinder
