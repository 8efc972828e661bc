import Mathlib.Data.List.Forall2
import AddressBinder.Proofs.Text.Words
/-!
# Splitting what is written together

A text without the separator is one piece, and pieces without it come back from what they are joined to (`splitAt_join`).
The same for the other ways to cut a text at a character.
-/
namespace AddressBinder
namespace Text

variable {sep : Char}

theorem splitAt_of_notMem : ∀ {cs : List Char}, sep ∉ cs → splitAt sep cs = [cs]
  | [], _ => rfl
  | c :: cs, h => by
    obtain ⟨hc, hcs⟩ := List.ne_and_not_mem_of_not_mem_cons h
    rw [splitAt, if_neg (Ne.symm hc), splitAt_of_notMem hcs]

/-- The pieces of texts with a separator between them are those of the one and then those of the other. -/
theorem splitAt_append_sep : ∀ cs ds : List Char, splitAt sep (cs ++ sep :: ds) = splitAt sep cs ++ splitAt sep ds
  | [], ds => by simp [splitAt]
  | c :: cs, ds => by
    have ih := splitAt_append_sep cs ds
    by_cases hc : c = sep
    · rw [List.cons_append, splitAt, splitAt, if_pos hc, if_pos hc, ih, List.cons_append]
    · rw [List.cons_append, splitAt, splitAt, if_neg hc, if_neg hc, ih]
      cases hs : splitAt sep cs with
      | nil => exact absurd hs (splitAt_ne_nil sep cs)
      | cons piece pieces => rfl

theorem splitAt_append {piece : List Char} (h : sep ∉ piece) (cs : List Char) :
    splitAt sep (piece ++ sep :: cs) = piece :: splitAt sep cs := by
  rw [splitAt_append_sep, splitAt_of_notMem h, List.singleton_append]

/-- **Pieces that do not hold the separator come back from what they are joined to.** -/
theorem splitAt_join : ∀ {pieces : List (List Char)}, pieces ≠ [] → (∀ piece ∈ pieces, sep ∉ piece) →
    splitAt sep (join [sep] pieces) = pieces
  | [], h, _ => absurd rfl h
  | [piece], _, h => splitAt_of_notMem (h piece List.mem_cons_self)
  | piece :: next :: pieces, _, h => by
    obtain ⟨hpiece, hrest⟩ := List.forall_mem_cons.1 h
    have ih : splitAt sep (join [sep] (next :: pieces)) = next :: pieces := splitAt_join nofun hrest
    rw [join, List.append_assoc, List.singleton_append, splitAt_append hpiece, ih]
    exact nofun

/-- **The pieces of a text are those without the separator that it is joined from.** -/
theorem splitAt_eq_iff {cs : List Char} {pieces : List (List Char)} :
    splitAt sep cs = pieces ↔ pieces ≠ [] ∧ (∀ piece ∈ pieces, sep ∉ piece) ∧ cs = join [sep] pieces := by
  constructor
  · rintro rfl
    exact ⟨splitAt_ne_nil sep cs, splitAt_no_sep sep cs, (join_splitAt sep cs).symm⟩
  · rintro ⟨hne, hpieces, rfl⟩
    exact splitAt_join hne hpieces

theorem join_cons {sep : List Char} {pieces : List (List Char)} (piece : List Char) (h : pieces ≠ []) :
    join sep (piece :: pieces) = piece ++ sep ++ join sep pieces := by
  cases pieces with
  | nil => exact absurd rfl h
  | cons next pieces => rfl

theorem join_append {sep : List Char} {others : List (List Char)} (hothers : others ≠ []) :
    ∀ {pieces : List (List Char)}, pieces ≠ [] → join sep (pieces ++ others) = join sep pieces ++ sep ++ join sep others
  | [], h => absurd rfl h
  | [piece], _ => join_cons piece hothers
  | piece :: next :: pieces, _ => by
    have hnext : next :: pieces ≠ [] := List.cons_ne_nil next pieces
    have ih : join sep (next :: pieces ++ others) = join sep (next :: pieces) ++ sep ++ join sep others :=
      join_append hothers hnext
    rw [List.cons_append, join_cons piece (List.append_ne_nil_of_left_ne_nil hnext others), ih, join_cons piece hnext]
    simp only [List.append_assoc]

/-- **The first pieces of a text** are those that it begins with, when a separator follows them or nothing does. -/
theorem exists_splitAt_eq_append {cs : List Char} {pieces : List (List Char)} (hne : pieces ≠ [])
    (hpieces : ∀ piece ∈ pieces, sep ∉ piece) :
    (∃ others, splitAt sep cs = pieces ++ others) ↔
      ∃ more, cs = join [sep] pieces ++ more ∧ ∀ c ∈ more.head?, c = sep := by
  constructor
  · rintro ⟨others, hsplit⟩
    obtain ⟨-, -, rfl⟩ := splitAt_eq_iff.1 hsplit
    cases others with
    | nil => exact ⟨[], by simp, nofun⟩
    | cons other others =>
      refine ⟨sep :: join [sep] (other :: others), ?_, fun c hc => (Option.some.inj hc).symm⟩
      rw [join_append (List.cons_ne_nil other others) hne, List.append_assoc, List.singleton_append]
  · rintro ⟨more, rfl, hmore⟩
    cases more with
    | nil =>
      refine ⟨[], ?_⟩
      rw [List.append_nil, List.append_nil, splitAt_join hne hpieces]
    | cons c rest =>
      obtain rfl := hmore c rfl
      refine ⟨splitAt c rest, ?_⟩
      rw [splitAt_append_sep, splitAt_join hne hpieces]

theorem mem_join {sep : List Char} {c : Char} : ∀ {pieces : List (List Char)}, c ∈ join sep pieces →
    c ∈ sep ∨ ∃ piece ∈ pieces, c ∈ piece
  | [], h => by cases h
  | [piece], h => .inr ⟨piece, List.mem_singleton_self piece, h⟩
  | piece :: next :: pieces, h => by
    rw [join_cons piece (List.cons_ne_nil next pieces), List.mem_append, List.mem_append] at h
    rcases h with (h | h) | h
    · exact .inr ⟨piece, List.mem_cons_self, h⟩
    · exact .inl h
    · rcases mem_join h with h | ⟨other, hother, h⟩
      · exact .inl h
      · exact .inr ⟨other, List.mem_cons_of_mem _ hother, h⟩

/-- The words of texts that are joined by a blank. -/
theorem hasWords_join {c : Char} (hc : isBlank c = true) {texts : List (List Char)} {lines : List (List (List Char))}
    (h : List.Forall₂ HasWords texts lines) : HasWords (join [c] texts) lines.flatten := by
  induction h with
  | nil => exact .nil
  | cons hfirst hrest ih =>
    cases hrest with
    | nil => simpa [join] using hfirst
    | cons _ _ =>
      rw [join_cons _ (List.cons_ne_nil _ _), List.flatten_cons, List.append_assoc, List.singleton_append]
      exact hfirst.append hc ih

/-- A mark does not begin in a text without its first character. -/
theorem after_append_of_notMem {c : Char} {mark : List Char} : ∀ {cs : List Char}, c ∉ cs → ∀ rest : List Char,
    after (c :: mark) (cs ++ rest) = after (c :: mark) rest
  | [], _, _ => rfl
  | d :: cs, h, rest => by
    obtain ⟨hd, hcs⟩ := List.ne_and_not_mem_of_not_mem_cons h
    have hno : (c :: mark).isPrefixOf (d :: (cs ++ rest)) = false := by simp [List.isPrefixOf, hd]
    rw [List.cons_append, after, hno]
    exact after_append_of_notMem hcs rest

/-- **A mark is found exactly when it occurs.** -/
theorem after_isSome_iff {mark : List Char} : ∀ {cs : List Char}, (after mark cs).isSome = true ↔ mark <:+: cs
  | [] => by simp [after, apply_ite]
  | c :: cs => by
    rw [after, List.infix_cons_iff]
    by_cases hfirst : mark.isPrefixOf (c :: cs) = true
    · rw [if_pos hfirst]
      simp [List.isPrefixOf_iff_prefix.1 hfirst]
    · rw [if_neg hfirst, after_isSome_iff, or_iff_right (fun h => hfirst (List.isPrefixOf_iff_prefix.2 h))]

/-- A mark that occurs before characters that are none of its own occurs without them. -/
theorem infix_of_infix_append {mark : List Char} (hmark : mark ≠ []) : ∀ {cs ds : List Char}, mark <:+: cs ++ ds →
    (∀ d ∈ ds, d ∉ mark) → mark <:+: cs
  | cs, [], h, _ => by rwa [List.append_nil] at h
  | cs, d :: ds, h, hds => by
    obtain ⟨hd, hrest⟩ := List.forall_mem_cons.1 hds
    have hshort : mark <:+: cs ++ [d] := infix_of_infix_append hmark (by rwa [List.append_assoc]) hrest
    rcases List.infix_concat_iff.1 hshort with ⟨before, hend⟩ | hshort
    · have hlast : mark.getLast? = some d := by
        have hwhole := congrArg List.getLast? hend
        rwa [List.getLast?_append, List.getLast?_concat, List.getLast?_eq_some_getLast hmark, Option.some_or,
          ← List.getLast?_eq_some_getLast hmark] at hwhole
      exact absurd (List.mem_of_getLast? hlast) hd
    · exact hshort

/-- A mark outside a class occurs in a text exactly when it occurs without the trailing characters in the class. -/
theorem infix_dropTrailing_iff {p : Char → Bool} {mark cs : List Char} (hmark : mark ≠ [])
    (h : ∀ c ∈ mark, p c = false) : mark <:+: dropTrailing p cs ↔ mark <:+: cs := by
  obtain ⟨tail, hcs, htail⟩ := eq_dropTrailing_append p cs
  constructor
  · intro hshort
    rw [hcs]
    exact hshort.trans (List.prefix_append _ _).isInfix
  · intro hlong
    rw [hcs] at hlong
    refine infix_of_infix_append hmark hlong fun c hc hmem => ?_
    have hno := h c hmem
    rw [htail c hc] at hno
    cases hno

theorem afterLast_of_notMem : ∀ {cs : List Char}, sep ∉ cs → afterLast sep cs = cs
  | [], _ => rfl
  | c :: cs, h => by
    obtain ⟨hc, hcs⟩ := List.ne_and_not_mem_of_not_mem_cons h
    rw [afterLast, if_neg (Ne.symm hc), if_neg hcs]

/-- The leading characters in a class are a text before the first character that is not. -/
theorem takeWhile_append_of_head {p : Char → Bool} {cs rest : List Char} (hcs : ∀ c ∈ cs, p c = true)
    (hrest : ∀ c ∈ rest.head?, p c = false) : (cs ++ rest).takeWhile p = cs := by
  rw [List.takeWhile_append_of_pos hcs]
  cases rest with
  | nil => rw [List.takeWhile_nil, List.append_nil]
  | cons c rest => rw [List.takeWhile_cons_of_neg (by simp [hrest c rfl]), List.append_nil]

/-- A mark is found where it stands first. -/
theorem after_append {c : Char} {mark cs : List Char} (h : c ∉ cs) (rest : List Char) :
    after (c :: mark) (cs ++ c :: mark ++ rest) = some rest := by
  have hfirst : (c :: mark).isPrefixOf (c :: (mark ++ rest)) = true := by simp
  rw [List.append_assoc, after_append_of_notMem h, List.cons_append, after, if_pos hfirst]
  simp

theorem afterLast_append {cs : List Char} (h : sep ∉ cs) : ∀ before : List Char,
    afterLast sep (before ++ sep :: cs) = cs
  | [] => by rw [List.nil_append, afterLast, if_pos rfl, afterLast_of_notMem h]
  | c :: before => by
    have hmem : sep ∈ before ++ sep :: cs := List.mem_append_right before List.mem_cons_self
    rw [List.cons_append, afterLast, if_pos hmem, ite_self]
    exact afterLast_append h before

theorem cut_of_notMem {mark : Char} : ∀ {cs : List Char}, mark ∉ cs → cut mark cs = none
  | [], _ => rfl
  | c :: cs, h => by
    obtain ⟨hc, hcs⟩ := List.ne_and_not_mem_of_not_mem_cons h
    rw [cut, if_neg (Ne.symm hc), cut_of_notMem hcs]
    rfl

theorem cut_append {mark : Char} : ∀ {cs : List Char}, mark ∉ cs → ∀ rest : List Char,
    cut mark (cs ++ mark :: rest) = some (cs, rest)
  | [], _, rest => by rw [List.nil_append, cut, if_pos rfl]
  | c :: cs, h, rest => by
    obtain ⟨hc, hcs⟩ := List.ne_and_not_mem_of_not_mem_cons h
    rw [List.cons_append, cut, if_neg (Ne.symm hc), cut_append hcs]
    rfl

end Text
end AddressBinder
