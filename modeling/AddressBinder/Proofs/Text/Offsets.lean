import Mathlib.Data.String.Basic
import AddressBinder.Proofs.Text.Split
/-!
# Offsets in bytes

A text that is held in UTF-8 is searched and cut by offsets in bytes.  It can be cut only between characters: an offset
past the end or within the bytes of a character is refused (`partsAt_eq_ok_iff`, `exists_partsAt_iff`).  An offset that a
search yields is a place to cut, and what is cut off there is what the search among the characters finds.
-/
namespace AddressBinder
namespace Text

open String (utf8Len)

/-- A cut that cannot be made. -/
inductive Slip where
  /-- A text is cut past its end or within a character. -/
  | text (cs : List Char) (offset : Nat)
  /-- A list is cut past its end. -/
  | list (size stop : Nat)
deriving DecidableEq

/-! ## Cutting -/

/-- The parts of a text before and after an offset, if the offset lies between characters. -/
def partsAt? : Nat → List Char → Option (List Char × List Char)
  | 0, cs => some ([], cs)
  | _ + 1, [] => none
  | n + 1, c :: cs =>
    if c.utf8Size ≤ n + 1 then (partsAt? (n + 1 - c.utf8Size) cs).map fun parts => (c :: parts.1, parts.2) else none

def partsAt (cs : List Char) (n : Nat) : Except Slip (List Char × List Char) :=
  match partsAt? n cs with
  | some parts => .ok parts
  | none => .error (.text cs n)

/-- The text from an offset on. -/
def sliceFrom (cs : List Char) (n : Nat) : Except Slip (List Char) := (partsAt cs n).map Prod.snd

/-- The text up to an offset. -/
def sliceTo (cs : List Char) (n : Nat) : Except Slip (List Char) := (partsAt cs n).map Prod.fst

variable {cs a b : List Char} {n : Nat}

theorem partsAt?_append : ∀ a b : List Char, partsAt? (utf8Len a) (a ++ b) = some (a, b)
  | [], b => by simp [partsAt?]
  | c :: a, b => by
    have hpos := c.utf8Size_pos
    obtain ⟨n, hn⟩ : ∃ n, utf8Len a + c.utf8Size = n + 1 := ⟨utf8Len a + c.utf8Size - 1, by omega⟩
    have hrest : n + 1 - c.utf8Size = utf8Len a := by omega
    rw [String.utf8Len_cons, List.cons_append, hn, partsAt?, if_pos (by omega), hrest, partsAt?_append a b]
    rfl

theorem eq_of_partsAt? (h : partsAt? n cs = some (a, b)) : cs = a ++ b ∧ utf8Len a = n := by
  fun_induction partsAt? n cs generalizing a b with
  | case1 cs =>
    cases h
    exact ⟨rfl, rfl⟩
  | case2 => cases h
  | case3 n c cs hsize ih =>
    obtain ⟨⟨a', b'⟩, hparts, heq⟩ := Option.map_eq_some_iff.1 h
    obtain ⟨rfl, hlen⟩ := ih hparts
    cases heq
    refine ⟨rfl, ?_⟩
    rw [String.utf8Len_cons, hlen]
    omega
  | case4 => cases h

/-- **A text is cut into two parts that make it up**, the first of which is as long as the offset says. -/
theorem partsAt_eq_ok_iff : partsAt cs n = .ok (a, b) ↔ cs = a ++ b ∧ utf8Len a = n := by
  have hsome : partsAt cs n = .ok (a, b) ↔ partsAt? n cs = some (a, b) := by
    unfold partsAt
    cases partsAt? n cs <;> simp
  rw [hsome]
  constructor
  · exact eq_of_partsAt?
  · rintro ⟨rfl, rfl⟩
    exact partsAt?_append a b

/-- **The offsets at which a text can be cut are those between its characters.** -/
theorem exists_partsAt_iff : (∃ parts, partsAt cs n = .ok parts) ↔ (⟨n⟩ : String.Pos.Raw).IsValid (String.ofList cs) := by
  rw [String.Pos.Raw.isValid_iff_exists_append]
  constructor
  · rintro ⟨⟨a, b⟩, h⟩
    obtain ⟨rfl, rfl⟩ := partsAt_eq_ok_iff.1 h
    refine ⟨String.ofList a, String.ofList b, String.ofList_append, ?_⟩
    rw [String.rawEndPos, String.utf8ByteSize_ofList]
  · rintro ⟨s, t, hcs, hn⟩
    refine ⟨(s.toList, t.toList), partsAt_eq_ok_iff.2 ⟨?_, ?_⟩⟩
    · rw [← String.toList_append, ← hcs, String.toList_ofList]
    · rw [← String.utf8ByteSize_ofList, String.ofList_toList]
      exact (congrArg String.Pos.Raw.byteIdx hn).symm

theorem sliceFrom_append (a b : List Char) : sliceFrom (a ++ b) (utf8Len a) = .ok b := by
  rw [sliceFrom, partsAt_eq_ok_iff.2 ⟨rfl, rfl⟩]
  rfl

/-- The text behind a mark. -/
theorem sliceFrom_behind (before mark rest : List Char) :
    sliceFrom (before ++ mark ++ rest) (utf8Len before + utf8Len mark) = .ok rest := by
  rw [← String.utf8Len_append]
  exact sliceFrom_append (before ++ mark) rest

theorem sliceTo_append (a b : List Char) : sliceTo (a ++ b) (utf8Len a) = .ok a := by
  rw [sliceTo, partsAt_eq_ok_iff.2 ⟨rfl, rfl⟩]
  rfl

/-! ## Searching -/

/-- The offset of the first place where `mark` stands. -/
def offset? (mark : List Char) : List Char → Option Nat
  | [] => if mark.isEmpty then some 0 else none
  | c :: cs => if mark.isPrefixOf (c :: cs) then some 0 else (offset? mark cs).map (· + c.utf8Size)

/-- The offset of the first character in the class `p`. -/
def offsetOf? (p : Char → Bool) : List Char → Option Nat
  | [] => none
  | c :: cs => if p c then some 0 else (offsetOf? p cs).map (· + c.utf8Size)

/-- The offset of the last character in the class `p`. -/
def lastOffsetOf? (p : Char → Bool) : List Char → Option Nat
  | [] => none
  | c :: cs =>
    match lastOffsetOf? p cs with
    | some n => some (n + c.utf8Size)
    | none => if p c then some 0 else none

/-- **The first place of a mark**: the text can be cut there, and behind the mark. -/
theorem offset?_cases (mark : List Char) : ∀ cs : List Char, (offset? mark cs = none ∧ after mark cs = none) ∨
    ∃ before rest, cs = before ++ mark ++ rest ∧ offset? mark cs = some (utf8Len before) ∧ after mark cs = some rest
  | [] => by
    cases mark with
    | nil => exact .inr ⟨[], [], rfl, rfl, rfl⟩
    | cons => exact .inl ⟨rfl, rfl⟩
  | c :: cs => by
    rw [offset?, after]
    by_cases hfirst : mark.isPrefixOf (c :: cs) = true
    · obtain ⟨rest, hrest⟩ := List.isPrefixOf_iff_prefix.1 hfirst
      rw [if_pos hfirst, if_pos hfirst, ← hrest, List.drop_left]
      exact .inr ⟨[], rest, rfl, rfl, rfl⟩
    · rw [if_neg hfirst, if_neg hfirst]
      rcases offset?_cases mark cs with ⟨hnone, hafter⟩ | ⟨before, rest, rfl, hsome, hafter⟩
      · exact .inl ⟨by rw [hnone]; rfl, hafter⟩
      · exact .inr ⟨c :: before, rest, rfl, by rw [hsome]; rfl, hafter⟩

/-- **The first character in a class**: the text can be cut before it. -/
theorem offsetOf?_cases (p : Char → Bool) : ∀ cs : List Char, (offsetOf? p cs = none ∧ ∀ c ∈ cs, p c = false) ∨
    ∃ before c rest, cs = before ++ c :: rest ∧ (∀ d ∈ before, p d = false) ∧ p c = true ∧
      offsetOf? p cs = some (utf8Len before)
  | [] => .inl ⟨rfl, fun _ h => absurd h List.not_mem_nil⟩
  | c :: cs => by
    rw [offsetOf?]
    by_cases hc : p c = true
    · rw [if_pos hc]
      exact .inr ⟨[], c, cs, rfl, fun _ h => absurd h List.not_mem_nil, hc, rfl⟩
    · have hc' : p c = false := by simpa using hc
      rw [if_neg hc]
      rcases offsetOf?_cases p cs with ⟨hnone, hall⟩ | ⟨before, d, rest, rfl, hbefore, hd, hsome⟩
      · exact .inl ⟨by rw [hnone]; rfl, List.forall_mem_cons.2 ⟨hc', hall⟩⟩
      · exact .inr ⟨c :: before, d, rest, rfl, List.forall_mem_cons.2 ⟨hc', hbefore⟩, hd, by rw [hsome]; rfl⟩

theorem takeWhile_of_first {p : Char → Bool} {before rest : List Char} {c : Char} (hbefore : ∀ d ∈ before, p d = false)
    (hc : p c = true) : (before ++ c :: rest).takeWhile (fun d => !p d) = before := by
  refine takeWhile_append_of_head (fun d hd => ?_) fun d hd => ?_
  · rw [hbefore d hd]
    rfl
  · obtain rfl := Option.some.inj hd
    rw [hc]
    rfl

/-- **The last place of a character**: behind it stands what follows its last occurrence. -/
theorem lastOffsetOf?_cases (mark : Char) : ∀ cs : List Char,
    (lastOffsetOf? (· == mark) cs = none ∧ mark ∉ cs) ∨
    ∃ before, cs = before ++ mark :: afterLast mark cs ∧ lastOffsetOf? (· == mark) cs = some (utf8Len before)
  | [] => .inl ⟨rfl, List.not_mem_nil⟩
  | c :: cs => by
    rw [lastOffsetOf?]
    rcases lastOffsetOf?_cases mark cs with ⟨hnone, hnot⟩ | ⟨before, hcs, hsome⟩
    · rw [hnone]
      by_cases hc : c = mark
      · subst hc
        refine .inr ⟨[], ?_, by simp⟩
        rw [afterLast, if_pos rfl, afterLast_of_notMem hnot]
        rfl
      · exact .inl ⟨by simp [hc], by simp [Ne.symm hc, hnot]⟩
    · have hmem : mark ∈ cs := hcs ▸ List.mem_append_right before List.mem_cons_self
      refine .inr ⟨c :: before, ?_, by rw [hsome]; rfl⟩
      rw [afterLast, if_pos hmem, ite_self, List.cons_append, ← hcs]

end Text
end AddressBinder
