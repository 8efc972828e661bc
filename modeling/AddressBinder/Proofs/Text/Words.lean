import AddressBinder.Text.Split
/-!
# Words and trimmed texts

What the words of a text are, said by how the text is laid out (`words_eq_iff`), and what trimming leaves: a text whose
ends are not in the class that is dropped stays as it is, and any other is such a text between runs of that class.
-/
namespace AddressBinder
namespace Text

/-- What holds of each character of a text, seen one by one. -/
theorem forall_mem_of_all {p : Char → Prop} [DecidablePred p] {cs : List Char} (h : cs.all (fun c => p c) = true) :
    ∀ c ∈ cs, p c := by
  simpa using h

/-! ## Words -/

/-- Whether a text is one word: there is something in it and none of it is blank. -/
def IsWord (w : List Char) : Prop := w ≠ [] ∧ ∀ c ∈ w, isBlank c = false

instance (w : List Char) : Decidable (IsWord w) :=
  decidable_of_iff (w ≠ [] ∧ w.all (fun c => !isBlank c) = true) (by simp [IsWord])

/-- A text holds words in order: blanks stand around them, at least one between two of them. -/
inductive HasWords : List Char → List (List Char) → Prop where
  | nil : HasWords [] []
  | blank {c : Char} {cs : List Char} {ws : List (List Char)} (hc : isBlank c = true) (h : HasWords cs ws) :
      HasWords (c :: cs) ws
  | last {w : List Char} (hw : IsWord w) : HasWords w [w]
  | word {w cs : List Char} {c : Char} {ws : List (List Char)} (hw : IsWord w) (hc : isBlank c = true)
      (h : HasWords cs ws) : HasWords (w ++ c :: cs) (w :: ws)

theorem wordsFrom_append {w : List Char} (hw : ∀ c ∈ w, isBlank c = false) (word rest : List Char) :
    wordsFrom word (w ++ rest) = wordsFrom (word ++ w) rest := by
  induction w generalizing word with
  | nil => simp
  | cons c cs ih =>
    obtain ⟨hc, hcs⟩ := List.forall_mem_cons.1 hw
    simp only [List.cons_append, wordsFrom, hc, Bool.false_eq_true, ↓reduceIte]
    rw [ih hcs, List.append_assoc, List.singleton_append]

theorem words_eq_of_hasWords {cs : List Char} {ws : List (List Char)} (h : HasWords cs ws) : words cs = ws := by
  unfold words
  induction h with
  | nil => rfl
  | blank hc _ ih => simpa [wordsFrom, hc] using ih
  | @last w hw =>
    have hread : wordsFrom [] (w ++ []) = wordsFrom w [] := wordsFrom_append hw.2 [] []
    rw [List.append_nil] at hread
    simp [hread, wordsFrom, hw.1]
  | word hw hc _ ih =>
    rw [wordsFrom_append hw.2]
    simp [wordsFrom, hc, hw.1, ih]

theorem hasWords_wordsFrom {word : List Char} (hword : ∀ c ∈ word, isBlank c = false) :
    ∀ cs : List Char, HasWords (word ++ cs) (wordsFrom word cs)
  | [] => by
    unfold wordsFrom
    cases word with
    | nil => exact .nil
    | cons c cs =>
      rw [List.append_nil]
      exact .last ⟨nofun, hword⟩
  | c :: cs => by
    have hrest : HasWords ([] ++ cs) (wordsFrom [] cs) := hasWords_wordsFrom (fun _ hc => absurd hc List.not_mem_nil) cs
    unfold wordsFrom
    by_cases hc : isBlank c = true
    · rw [if_pos hc]
      cases word with
      | nil => exact .blank hc hrest
      | cons d ds => exact .word ⟨nofun, hword⟩ hc hrest
    · rw [if_neg hc, List.append_cons]
      refine hasWords_wordsFrom (fun d hd => ?_) cs
      rcases List.mem_append.1 hd with hd | hd
      · exact hword d hd
      · rw [List.mem_singleton.1 hd]
        exact Bool.eq_false_iff.2 hc

/-- **The words of a text are those that its layout shows.** -/
theorem words_eq_iff {cs : List Char} {ws : List (List Char)} : words cs = ws ↔ HasWords cs ws := by
  constructor
  · rintro rfl
    exact hasWords_wordsFrom (fun _ hc => absurd hc List.not_mem_nil) cs
  · exact words_eq_of_hasWords

/-- The words of texts with a blank between them are those of the one and then those of the other. -/
theorem HasWords.append {cs ds : List Char} {ws vs : List (List Char)} {c : Char} (h : HasWords cs ws)
    (hc : isBlank c = true) (h' : HasWords ds vs) : HasWords (cs ++ c :: ds) (ws ++ vs) := by
  induction h with
  | nil => exact .blank hc h'
  | blank hd _ ih => exact .blank hd ih
  | last hw => exact .word hw hc h'
  | word hw hd _ ih =>
    rw [List.append_assoc]
    exact .word hw hd ih

/-- What is not blank stands in a word. -/
theorem HasWords.mem {cs : List Char} {ws : List (List Char)} {c : Char} (h : HasWords cs ws) (hc : c ∈ cs) :
    isBlank c = true ∨ ∃ w ∈ ws, c ∈ w := by
  induction h with
  | nil => cases hc
  | blank hd _ ih =>
    rcases List.mem_cons.1 hc with rfl | hc
    · exact .inl hd
    · exact ih hc
  | last _ => exact .inr ⟨_, List.mem_cons_self, hc⟩
  | word _ hd _ ih =>
    rcases List.mem_append.1 hc with hc | hc
    · exact .inr ⟨_, List.mem_cons_self, hc⟩
    · rcases List.mem_cons.1 hc with rfl | hc
      · exact .inl hd
      · rcases ih hc with hblank | ⟨w, hw, hc⟩
        · exact .inl hblank
        · exact .inr ⟨w, List.mem_cons_of_mem _ hw, hc⟩

/-! ## Trimmed texts -/

section Trim

variable {p : Char → Bool}

theorem dropTrailing_append_of_not {c : Char} (hc : p c = false) : ∀ cs : List Char,
    dropTrailing p (cs ++ [c]) = cs ++ [c]
  | [] => by simp [dropTrailing, hc]
  | d :: ds => by
    have ih : dropTrailing p (ds ++ [c]) = ds ++ [c] := dropTrailing_append_of_not hc ds
    rw [List.cons_append, dropTrailing, ih]
    cases ds <;> rfl

theorem dropTrailing_eq_nil {tail : List Char} (h : ∀ c ∈ tail, p c = true) : dropTrailing p tail = [] := by
  induction tail with
  | nil => rfl
  | cons c cs ih =>
    obtain ⟨hc, hcs⟩ := List.forall_mem_cons.1 h
    rw [dropTrailing, ih hcs]
    exact if_pos hc

theorem dropTrailing_append {tail : List Char} (h : ∀ c ∈ tail, p c = true) : ∀ cs : List Char,
    dropTrailing p (cs ++ tail) = dropTrailing p cs
  | [] => dropTrailing_eq_nil h
  | d :: ds => by rw [List.cons_append, dropTrailing, dropTrailing_append h ds, dropTrailing]

theorem dropLeading_append {lead : List Char} (h : ∀ c ∈ lead, p c = true) (cs : List Char) :
    dropLeading p (lead ++ cs) = dropLeading p cs := by
  unfold dropLeading
  exact List.dropWhile_append_of_pos h

/-- Neither the first nor the last character of a text is in the class. -/
def IsTrimmed (p : Char → Bool) (cs : List Char) : Prop :=
  (∀ c ∈ cs.head?, p c = false) ∧ ∀ c ∈ cs.getLast?, p c = false

theorem isTrimmed_nil : IsTrimmed p [] := ⟨nofun, nofun⟩

theorem isTrimmed_of_forall {cs : List Char} (h : ∀ c ∈ cs, p c = false) : IsTrimmed p cs :=
  ⟨fun c hc => h c (List.mem_of_head? hc), fun c hc => h c (List.mem_of_getLast? hc)⟩

theorem IsTrimmed.append {cs ds : List Char} (h : IsTrimmed p cs) (hne : cs ≠ [])
    (hds : ∀ c ∈ ds.getLast?, p c = false) : IsTrimmed p (cs ++ ds) := by
  refine ⟨fun c hc => ?_, fun c hc => ?_⟩
  · cases cs with
    | nil => exact absurd rfl hne
    | cons d cs => exact h.1 c hc
  · rw [Option.mem_def, List.getLast?_append] at hc
    cases hlast : ds.getLast? with
    | none =>
      rw [hlast] at hc
      exact h.2 c hc
    | some d =>
      rw [hlast] at hc
      exact hds c (hlast.trans hc)

theorem IsTrimmed.dropLeading_append {cs : List Char} (h : IsTrimmed p cs) (hne : cs ≠ []) (rest : List Char) :
    dropLeading p (cs ++ rest) = cs ++ rest := by
  cases cs with
  | nil => exact absurd rfl hne
  | cons c cs =>
    unfold dropLeading
    rw [List.cons_append, List.dropWhile_cons_of_neg (by simpa using h.1 c rfl)]

theorem dropTrailing_eq_self {cs : List Char} (h : ∀ c ∈ cs.getLast?, p c = false) : dropTrailing p cs = cs := by
  rcases List.eq_nil_or_concat cs with rfl | ⟨ds, d, rfl⟩
  · rfl
  · rw [List.concat_eq_append]
    exact dropTrailing_append_of_not (h d (by simp)) ds

theorem IsTrimmed.dropTrailing_eq {cs : List Char} (h : IsTrimmed p cs) : dropTrailing p cs = cs :=
  dropTrailing_eq_self h.2

/-- **Trimming takes a trimmed text out from between runs of the class.** -/
theorem IsTrimmed.dropEnds_between {lead cs tail : List Char} (h : IsTrimmed p cs) (hlead : ∀ c ∈ lead, p c = true)
    (htail : ∀ c ∈ tail, p c = true) : dropEnds p (lead ++ cs ++ tail) = cs := by
  unfold dropEnds
  rw [List.append_assoc, Text.dropLeading_append hlead]
  by_cases hne : cs = []
  · -- with nothing between them the two runs are dropped as one
    subst hne
    have hrun : dropLeading p (tail ++ []) = dropLeading p [] := Text.dropLeading_append htail []
    rw [List.nil_append, ← List.append_nil tail, hrun]
    rfl
  · rw [h.dropLeading_append hne, dropTrailing_append htail, h.dropTrailing_eq]

theorem IsTrimmed.dropEnds_eq {cs : List Char} (h : IsTrimmed p cs) : dropEnds p cs = cs := by
  have hbetween : dropEnds p ([] ++ cs ++ []) = cs :=
    h.dropEnds_between (fun _ hc => absurd hc List.not_mem_nil) fun _ hc => absurd hc List.not_mem_nil
  rwa [List.append_nil] at hbetween

theorem getLast?_dropTrailing : ∀ (cs : List Char), ∀ c ∈ (dropTrailing p cs).getLast?, p c = false
  | [], c, hc => by cases hc
  | d :: ds, c, hc => by
    have ih := getLast?_dropTrailing ds
    unfold dropTrailing at hc
    cases hds : dropTrailing p ds with
    | nil =>
      rw [hds] at hc
      by_cases hd : p d = true
      · simp [hd] at hc
      · obtain rfl : d = c := by simpa [hd] using hc
        exact Bool.eq_false_iff.2 hd
    | cons e es =>
      rw [hds] at hc ih
      exact ih c (by simpa using hc)

theorem head?_dropTrailing {cs : List Char} {c : Char} (h : c ∈ (dropTrailing p cs).head?) : c ∈ cs.head? := by
  obtain ⟨tail, hcs, -⟩ := eq_dropTrailing_append p cs
  rw [hcs]
  cases hd : dropTrailing p cs with
  | nil =>
    rw [hd] at h
    cases h
  | cons d ds =>
    rw [hd] at h
    exact h

/-- **Any text is a trimmed one between runs of the class.** -/
theorem exists_eq_dropEnds (p : Char → Bool) (cs : List Char) : IsTrimmed p (dropEnds p cs) ∧
    ∃ lead tail, cs = lead ++ dropEnds p cs ++ tail ∧ (∀ c ∈ lead, p c = true) ∧ ∀ c ∈ tail, p c = true := by
  have hhead : ∀ c ∈ (dropLeading p cs).head?, p c = false := fun c hc => by
    have hnot := List.head?_dropWhile_not p cs
    rw [show cs.dropWhile p = dropLeading p cs from rfl, Option.mem_def.1 hc] at hnot
    simpa using hnot
  obtain ⟨tail, htrail, htail⟩ := eq_dropTrailing_append p (dropLeading p cs)
  refine ⟨⟨fun c hc => hhead c (head?_dropTrailing hc), getLast?_dropTrailing _⟩, cs.takeWhile p, tail, ?_, ?_, htail⟩
  · rw [List.append_assoc]
    calc cs = cs.takeWhile p ++ dropLeading p cs := List.takeWhile_append_dropWhile.symm
      _ = cs.takeWhile p ++ (dropEnds p cs ++ tail) := by rw [htrail]; rfl
  · exact fun c hc => List.all_eq_true.1 List.all_takeWhile c hc

/-- Text that is left when the trailing characters in a class are taken from another text. -/
def IsStem (p : Char → Bool) (cs stem : List Char) : Prop :=
  (∀ c ∈ stem.getLast?, p c = false) ∧ ∃ tail, cs = stem ++ tail ∧ ∀ c ∈ tail, p c = true

theorem dropTrailing_eq_iff {cs stem : List Char} : dropTrailing p cs = stem ↔ IsStem p cs stem := by
  constructor
  · rintro rfl
    exact ⟨getLast?_dropTrailing cs, eq_dropTrailing_append p cs⟩
  · rintro ⟨hlast, tail, rfl, htail⟩
    rw [dropTrailing_append htail, dropTrailing_eq_self hlast]

/-- Text that stands in another between two runs of a class, and has no character of the class at its ends. -/
def IsCore (p : Char → Bool) (cs core : List Char) : Prop :=
  IsTrimmed p core ∧ ∃ lead tail, cs = lead ++ core ++ tail ∧ (∀ c ∈ lead, p c = true) ∧ ∀ c ∈ tail, p c = true

theorem dropEnds_eq_iff {cs core : List Char} : dropEnds p cs = core ↔ IsCore p cs core := by
  constructor
  · rintro rfl
    exact exists_eq_dropEnds p cs
  · rintro ⟨htrimmed, lead, tail, rfl, hlead, htail⟩
    exact htrimmed.dropEnds_between hlead htail

theorem trim_eq_nil_iff {cs : List Char} : trim cs = [] ↔ ∀ c ∈ cs, isBlank c = true := by
  unfold trim
  rw [dropEnds_eq_iff]
  constructor
  · rintro ⟨-, lead, tail, rfl, hlead, htail⟩
    rw [List.append_nil]
    exact List.forall_mem_append.2 ⟨hlead, htail⟩
  · exact fun h => ⟨isTrimmed_nil, cs, [], by simp, h, fun _ hc => absurd hc List.not_mem_nil⟩

end Trim

end Text
end AddressBinder
