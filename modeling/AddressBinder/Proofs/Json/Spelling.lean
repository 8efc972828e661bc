import AddressBinder.Proofs.Json.Strings
/-!
# Texts of a JSON value

`Spells v text`: the text is one way to write the value, with blanks between the tokens and any form of the strings.
Numbers are the numerals of natural numbers.  The reader gets the value back from each of its texts
(`ofText?_of_isText`), and the printed text is one of them (`Printable`).
-/
namespace AddressBinder
namespace Json

/-- Nothing but blanks. -/
def Blank (gap : List Char) : Prop := ∀ c ∈ gap, isSpace c = true

/-- The texts of a key with its colon. -/
inductive SpellsName : String → List Char → Prop where
  | name {key : String} {before form after : List Char} (hbefore : Blank before) (h : SpellsText key.toList form)
      (hafter : Blank after) : SpellsName key (before ++ '"' :: (form ++ '"' :: (after ++ [':'])))

mutual
/-- The texts of a value. -/
inductive Spells : Json → List Char → Prop where
  | nothing : Spells .null ['n', 'u', 'l', 'l']
  | yes : Spells (.bool true) ['t', 'r', 'u', 'e']
  | no : Spells (.bool false) ['f', 'a', 'l', 's', 'e']
  | num (n : Nat) : Spells (.num (Text.numeral n)) (Text.numeral n)
  | str {s : String} {form : List Char} (h : SpellsText s.toList form) : Spells (.str (some s)) ('"' :: (form ++ ['"']))
  | emptyArr {gap : List Char} (hgap : Blank gap) : Spells (.arr []) ('[' :: (gap ++ [']']))
  | arr {vs : List Json} {form : List Char} (h : SpellsItems vs form) : Spells (.arr vs) ('[' :: form)
  | emptyObj {gap : List Char} (hgap : Blank gap) : Spells (.obj []) ('\x7b' :: (gap ++ ['\x7d']))
  | obj {ms : List (Option String × Json)} {form : List Char} (h : SpellsMembers ms form) :
      Spells (.obj ms) ('\x7b' :: form)

/-- The texts of the items of an array after its opening bracket. -/
inductive SpellsItems : List Json → List Char → Prop where
  | last {v : Json} {before form after : List Char} (hbefore : Blank before) (h : Spells v form) (hafter : Blank after) :
      SpellsItems [v] (before ++ (form ++ (after ++ [']'])))
  | cons {v : Json} {vs : List Json} {before form after rest : List Char} (hbefore : Blank before) (h : Spells v form)
      (hafter : Blank after) (hrest : SpellsItems vs rest) :
      SpellsItems (v :: vs) (before ++ (form ++ (after ++ ',' :: rest)))

/-- The texts of the members of an object after its opening brace. -/
inductive SpellsMembers : List (Option String × Json) → List Char → Prop where
  | last {key : String} {v : Json} {name before form after : List Char} (hname : SpellsName key name)
      (hbefore : Blank before) (h : Spells v form) (hafter : Blank after) :
      SpellsMembers [(some key, v)] (name ++ (before ++ (form ++ (after ++ ['\x7d']))))
  | cons {key : String} {v : Json} {ms : List (Option String × Json)} {name before form after rest : List Char}
      (hname : SpellsName key name) (hbefore : Blank before) (h : Spells v form) (hafter : Blank after)
      (hrest : SpellsMembers ms rest) :
      SpellsMembers ((some key, v) :: ms) (name ++ (before ++ (form ++ (after ++ ',' :: rest))))
end

/-! ## Blanks -/

theorem skipSpace_append {gap : List Char} (h : Blank gap) (cs : List Char) : skipSpace (gap ++ cs) = skipSpace cs :=
  List.dropWhile_append_of_pos h

theorem skipSpace_cons {c : Char} (h : isSpace c = false) (cs : List Char) : skipSpace (c :: cs) = c :: cs := by
  simp [skipSpace, h]

theorem skipSpace_skipSpace : ∀ cs : List Char, skipSpace (skipSpace cs) = skipSpace cs
  | [] => rfl
  | c :: cs => by
    have ih : skipSpace (skipSpace cs) = skipSpace cs := skipSpace_skipSpace cs
    cases hc : isSpace c with
    | true =>
      have hskip : skipSpace (c :: cs) = skipSpace cs := by simp [skipSpace, hc]
      rw [hskip, ih]
    | false => rw [skipSpace_cons hc, skipSpace_cons hc]

theorem closing_append {gap : List Char} (h : Blank gap) {c : Char} (hc : isSpace c = false) (cs : List Char) :
    skipSpace (gap ++ c :: cs) = c :: cs := by
  rw [skipSpace_append h, skipSpace_cons hc]

theorem value_skipSpace (fuel : Nat) (cs : List Char) : value fuel (skipSpace cs) = value fuel cs := by
  cases fuel with
  | zero => rfl
  | succ fuel => rw [value, value, skipSpace_skipSpace]

theorem value_append {gap : List Char} (h : Blank gap) (fuel : Nat) (cs : List Char) :
    value fuel (gap ++ cs) = value fuel cs := by
  rw [← value_skipSpace, skipSpace_append h, value_skipSpace]

theorem items_skipSpace (fuel : Nat) (cs : List Char) : items fuel (skipSpace cs) = items fuel cs := by
  cases fuel with
  | zero => rfl
  | succ fuel => rw [items, items, value_skipSpace]

theorem members_skipSpace (fuel : Nat) (cs : List Char) : members fuel (skipSpace cs) = members fuel cs := by
  cases fuel with
  | zero => rfl
  | succ fuel => rw [members, members, skipSpace_skipSpace]

/-! ## Numbers -/

/-- A value may end before `rest`: a number does not go on there. -/
def Ends (rest : List Char) : Prop := ∀ c ∈ rest.head?, isDigit c = false ∧ c ≠ '.' ∧ c ≠ 'e' ∧ c ≠ 'E'

theorem ends_of_isSpace {c : Char} (h : isSpace c = true) : isDigit c = false ∧ c ≠ '.' ∧ c ≠ 'e' ∧ c ≠ 'E' := by
  simp only [isSpace, Bool.or_eq_true, decide_eq_true_eq] at h
  rcases h with ((rfl | rfl) | rfl) | rfl <;> decide

theorem ends_append {gap : List Char} (hgap : Blank gap) {c : Char} (hc : c = ',' ∨ c = ']' ∨ c = '\x7d') (rest : List Char) :
    Ends (gap ++ c :: rest) := by
  cases gap with
  | nil =>
    rintro d ⟨⟩
    rcases hc with rfl | rfl | rfl <;> decide
  | cons space gap =>
    rintro d ⟨⟩
    exact ends_of_isSpace (hgap space List.mem_cons_self)

theorem isDigit_of_mem_numeral {n : Nat} {c : Char} (h : c ∈ Text.numeral n) : isDigit c = true := by
  have hdigit : c.isDigit = true := Text.isDigit_of_mem_numeral h
  simp only [Char.isDigit, Bool.and_eq_true, decide_eq_true_eq] at hdigit
  have hrange : '0' ≤ c ∧ c ≤ '9' := hdigit
  simp [isDigit, Text.digit?, hrange]

theorem isSpace_of_isDigit {c : Char} (h : isDigit c = true) : isSpace c = false := by
  refine Bool.eq_false_iff.2 fun hspace => ?_
  rw [(ends_of_isSpace hspace).1] at h
  cases h

theorem digitRun_append {digits rest : List Char} (hne : digits ≠ []) (hdigits : ∀ c ∈ digits, isDigit c = true)
    (hrest : Ends rest) : digitRun (digits ++ rest) = some (digits, rest) := by
  have hstop : rest.takeWhile isDigit = [] ∧ rest.dropWhile isDigit = rest := by
    cases rest with
    | nil => exact ⟨rfl, rfl⟩
    | cons c rest =>
      have hc : isDigit c = false := (hrest c rfl).1
      simp [hc]
  have htake : (digits ++ rest).takeWhile isDigit = digits := by
    rw [List.takeWhile_append_of_pos hdigits, hstop.1, List.append_nil]
  have hdrop : (digits ++ rest).dropWhile isDigit = rest := by
    rw [List.dropWhile_append_of_pos hdigits, hstop.2]
  unfold digitRun
  rw [htake, hdrop]
  cases digits with
  | nil => contradiction
  | cons c digits => rfl

theorem wholePart_numeral (n : Nat) {rest : List Char} (h : Ends rest) :
    wholePart (Text.numeral n ++ rest) = some (Text.numeral n, rest) := by
  rcases Nat.eq_zero_or_pos n with rfl | hn
  · rfl
  · have hhead := Text.head?_numeral hn
    have hrun := digitRun_append (Text.numeral_ne_nil n) (fun _ hc => isDigit_of_mem_numeral hc) h
    cases hd : Text.numeral n with
    | nil => exact absurd hd (Text.numeral_ne_nil n)
    | cons c cs =>
      rw [hd] at hhead hrun
      have hc : c ≠ '0' := hhead c rfl
      rw [List.cons_append, wholePart]
      · exact hrun
      · rintro tail ⟨⟩
        exact hc rfl

theorem unsigned_numeral (n : Nat) {rest : List Char} (h : Ends rest) :
    unsigned (Text.numeral n ++ rest) = some (Text.numeral n, rest) := by
  have hfraction : fractionPart rest = some ([], rest) := by
    cases rest with
    | nil => rfl
    | cons c rest =>
      have hc : c ≠ '.' := (h c rfl).2.1
      rw [fractionPart]
      rintro tail ⟨⟩
      exact hc rfl
  have hexponent : exponentPart rest = some ([], rest) := by
    cases rest with
    | nil => rfl
    | cons c rest =>
      have hc : c ≠ 'e' ∧ c ≠ 'E' := (h c rfl).2.2
      simp [exponentPart, hc]
  simp [unsigned, wholePart_numeral n h, hfraction, hexponent]

/-- **A numeral is read back**, whatever follows it that ends a number. -/
theorem value_numeral (n fuel : Nat) {rest : List Char} (h : Ends rest) :
    value (fuel + 1) (Text.numeral n ++ rest) = some (.num (Text.numeral n), rest) := by
  have hread := unsigned_numeral n h
  cases hd : Text.numeral n with
  | nil => exact absurd hd (Text.numeral_ne_nil n)
  | cons c cs =>
    have hc : isDigit c = true := isDigit_of_mem_numeral (hd ▸ List.mem_cons_self)
    rw [hd, List.cons_append] at hread
    rw [List.cons_append, value, skipSpace_cons (isSpace_of_isDigit hc)]
    have hother : ∀ d : Char, isDigit d = false → c ≠ d := fun d hd hcd => by rw [hcd, hd] at hc; cases hc
    split
    case h_7 =>
      have hnumber : number (c :: (cs ++ rest)) = unsigned (c :: (cs ++ rest)) := by
        rw [number]
        rintro tail ⟨⟩
        exact hother '-' (by decide) rfl
      rw [hnumber, hread]
      rfl
    all_goals
      rename_i heq
      exact absurd (List.cons.inj heq).1 (hother _ (by decide))

/-! ## Opening brackets -/

/-- A text of a value starts with a token that closes nothing. -/
theorem Spells.first {v : Json} {form : List Char} (h : Spells v form) :
    ∃ c cs, form = c :: cs ∧ isSpace c = false ∧ c ≠ ']' := by
  cases h with
  | num n =>
    cases hd : Text.numeral n with
    | nil => exact absurd hd (Text.numeral_ne_nil n)
    | cons c cs =>
      have hc : isDigit c = true := isDigit_of_mem_numeral (hd ▸ List.mem_cons_self)
      exact ⟨c, cs, rfl, isSpace_of_isDigit hc, fun hcd => by rw [hcd] at hc; cases hc⟩
  | _ => exact ⟨_, _, rfl, rfl, by decide⟩

theorem SpellsItems.first {vs : List Json} {form : List Char} (h : SpellsItems vs form) (rest : List Char) :
    ∃ c cs, skipSpace (form ++ rest) = c :: cs ∧ c ≠ ']' := by
  cases h with
  | last hbefore h hafter =>
    obtain ⟨c, cs, rfl, hspace, hc⟩ := h.first
    rw [List.append_assoc, skipSpace_append hbefore]
    exact ⟨c, _, skipSpace_cons hspace _, hc⟩
  | cons hbefore h hafter hrest =>
    obtain ⟨c, cs, rfl, hspace, hc⟩ := h.first
    rw [List.append_assoc, skipSpace_append hbefore]
    exact ⟨c, _, skipSpace_cons hspace _, hc⟩

/-- A key is read up to its colon. -/
theorem SpellsName.opens {key : String} {name : List Char} (h : SpellsName key name) (rest : List Char) :
    ∃ cs left, skipSpace (name ++ rest) = '"' :: cs ∧ stringBody cs = some (some key, left) ∧
      skipSpace left = ':' :: rest := by
  cases h with
  | @name before form after hbefore h hafter =>
    refine ⟨form ++ '"' :: (after ++ ':' :: rest), after ++ ':' :: rest, ?_, ?_, closing_append hafter rfl rest⟩
    · simpa using closing_append hbefore (c := '"') rfl (form ++ '"' :: (after ++ ':' :: rest))
    · rw [stringBody_of_spellsText h, String.ofList_toList]

theorem SpellsMembers.first {ms : List (Option String × Json)} {form : List Char} (h : SpellsMembers ms form)
    (rest : List Char) : ∃ cs, skipSpace (form ++ rest) = '"' :: cs := by
  cases h with
  | last hname hbefore h hafter =>
    rw [List.append_assoc]
    obtain ⟨cs, -, hopen, -⟩ := hname.opens _
    exact ⟨cs, hopen⟩
  | cons hname hbefore h hafter hrest =>
    rw [List.append_assoc]
    obtain ⟨cs, -, hopen, -⟩ := hname.opens _
    exact ⟨cs, hopen⟩

theorem value_openBracket (fuel : Nat) {rest : List Char} (h : ∃ c cs, skipSpace rest = c :: cs ∧ c ≠ ']') :
    value (fuel + 1) ('[' :: rest) = (items fuel rest).map fun r => (.arr r.1, r.2) := by
  obtain ⟨c, cs, hskip, hc⟩ := h
  rw [value, skipSpace_cons rfl]
  simp only
  rw [← items_skipSpace, hskip]
  split
  · rename_i heq
    exact absurd (List.cons.inj heq).1 hc
  · rfl

theorem value_openBrace (fuel : Nat) {rest : List Char} (h : ∃ cs, skipSpace rest = '"' :: cs) :
    value (fuel + 1) ('\x7b' :: rest) = (members fuel rest).map fun r => (.obj r.1, r.2) := by
  obtain ⟨cs, hskip⟩ := h
  rw [value, skipSpace_cons rfl]
  simp only
  rw [← members_skipSpace, hskip]
  rfl

/-! ## Values -/

-- The induction is on how the text was put together; fuel is enough when it is the length of the text, since each call
-- is made after a token more has been read.
mutual
theorem value_of_spells {v : Json} {form : List Char} (h : Spells v form) {fuel : Nat} {rest : List Char}
    (hfuel : form.length ≤ fuel) (hrest : Ends rest) : value fuel (form ++ rest) = some (v, rest) := by
  obtain ⟨fuel, rfl⟩ : ∃ k, fuel = k + 1 := by
    obtain ⟨c, cs, rfl, -⟩ := h.first
    exact ⟨fuel - 1, by simp at hfuel; omega⟩
  cases h with
  | nothing => rfl
  | yes => rfl
  | no => rfl
  | num n => exact value_numeral n fuel hrest
  | @str s form h =>
    have hbody := stringBody_of_spellsText h rest
    simp [value, skipSpace_cons (c := '"') rfl, hbody]
  | emptyArr hgap => simp [value, skipSpace_cons (c := '[') rfl, closing_append hgap (c := ']') rfl]
  | emptyObj hgap => simp [value, skipSpace_cons (c := '\x7b') rfl, closing_append hgap (c := '\x7d') rfl]
  | arr h =>
    have hitems : items fuel (_ ++ rest) = _ := items_of_spells h (Nat.le_of_succ_le_succ hfuel)
    rw [List.cons_append, value_openBracket fuel (h.first rest), hitems]
    rfl
  | obj h =>
    have hmembers : members fuel (_ ++ rest) = _ := members_of_spells h (Nat.le_of_succ_le_succ hfuel)
    rw [List.cons_append, value_openBrace fuel (h.first rest), hmembers]
    rfl

theorem items_of_spells {vs : List Json} {form : List Char} (h : SpellsItems vs form) {fuel : Nat} {rest : List Char}
    (hfuel : form.length ≤ fuel) : items fuel (form ++ rest) = some (vs, rest) := by
  cases h with
  | @last v before form after hbefore h hafter =>
    simp only [List.length_append, List.length_singleton] at hfuel
    obtain ⟨fuel, rfl⟩ : ∃ k, fuel = k + 1 := ⟨fuel - 1, by omega⟩
    have hvalue : value fuel (form ++ (after ++ ']' :: rest)) = some (v, after ++ ']' :: rest) :=
      value_of_spells h (by omega) (ends_append hafter (.inr (.inl rfl)) rest)
    have hclose : skipSpace (after ++ ']' :: rest) = ']' :: rest := closing_append hafter rfl rest
    simp [items, value_append hbefore, hvalue, hclose]
  | @cons v vs before form after tail hbefore h hafter htail =>
    simp only [List.length_append, List.length_cons] at hfuel
    obtain ⟨fuel, rfl⟩ : ∃ k, fuel = k + 1 := ⟨fuel - 1, by omega⟩
    have hvalue : value fuel (form ++ (after ++ ',' :: (tail ++ rest))) = some (v, after ++ ',' :: (tail ++ rest)) :=
      value_of_spells h (by omega) (ends_append hafter (.inl rfl) (tail ++ rest))
    have hcomma : skipSpace (after ++ ',' :: (tail ++ rest)) = ',' :: (tail ++ rest) := closing_append hafter rfl _
    have hitems : items fuel (tail ++ rest) = some (vs, rest) := items_of_spells htail (by omega)
    simp [items, value_append hbefore, hvalue, hcomma, hitems]

theorem members_of_spells {ms : List (Option String × Json)} {form : List Char} (h : SpellsMembers ms form)
    {fuel : Nat} {rest : List Char} (hfuel : form.length ≤ fuel) : members fuel (form ++ rest) = some (ms, rest) := by
  cases h with
  | @last key v name before form after hname hbefore h hafter =>
    simp only [List.length_append, List.length_singleton] at hfuel
    obtain ⟨fuel, rfl⟩ : ∃ k, fuel = k + 1 := ⟨fuel - 1, by omega⟩
    have hvalue : value fuel (form ++ (after ++ '\x7d' :: rest)) = some (v, after ++ '\x7d' :: rest) :=
      value_of_spells h (by omega) (ends_append hafter (.inr (.inr rfl)) rest)
    have hclose : skipSpace (after ++ '\x7d' :: rest) = '\x7d' :: rest := closing_append hafter rfl rest
    obtain ⟨cs, left, hopen, hbody, hcolon⟩ := hname.opens (before ++ (form ++ (after ++ '\x7d' :: rest)))
    simp [members, hopen, hbody, hcolon, value_append hbefore, hvalue, hclose]
  | @cons key v ms name before form after tail hname hbefore h hafter htail =>
    simp only [List.length_append, List.length_cons] at hfuel
    obtain ⟨fuel, rfl⟩ : ∃ k, fuel = k + 1 := ⟨fuel - 1, by omega⟩
    have hvalue : value fuel (form ++ (after ++ ',' :: (tail ++ rest))) = some (v, after ++ ',' :: (tail ++ rest)) :=
      value_of_spells h (by omega) (ends_append hafter (.inl rfl) (tail ++ rest))
    have hcomma : skipSpace (after ++ ',' :: (tail ++ rest)) = ',' :: (tail ++ rest) := closing_append hafter rfl _
    have hmembers : members fuel (tail ++ rest) = some (ms, rest) := members_of_spells htail (by omega)
    obtain ⟨cs, left, hopen, hbody, hcolon⟩ := hname.opens (before ++ (form ++ (after ++ ',' :: (tail ++ rest))))
    simp [members, hopen, hbody, hcolon, value_append hbefore, hvalue, hcomma, hmembers]
end

/-- The text is one of the value's, with blanks around it. -/
def IsText (v : Json) (text : String) : Prop :=
  ∃ before form after, Blank before ∧ Spells v form ∧ Blank after ∧ text.toList = before ++ (form ++ after)

/-- **Every text of a value is read as the value.** -/
theorem ofText?_of_isText {v : Json} {text : String} (h : IsText v text) : ofText? text = some v := by
  obtain ⟨before, form, after, hbefore, hform, hafter, htext⟩ := h
  have hleft : skipSpace after = [] := by simpa [skipSpace] using skipSpace_append hafter []
  have hends : Ends after := by
    intro c hc
    have hspace : isSpace c = true := hafter c (List.mem_of_head? hc)
    exact ends_of_isSpace hspace
  have hread : value (2 * (before ++ (form ++ after)).length + 2) (before ++ (form ++ after)) = some (v, after) := by
    rw [value_append hbefore]
    exact value_of_spells hform (by simp only [List.length_append]; omega) hends
  simp only [ofText?, htext, parse?, hread, hleft, List.isEmpty_nil, if_true]

/-! ## The printed text -/

/-- The printed text of the value is one of its texts. -/
def Printable (v : Json) : Prop := Spells v (render v)

theorem blank_nil : Blank [] := fun _ h => absurd h List.not_mem_nil

theorem Printable.isText {v : Json} (h : Printable v) : IsText v v.toText :=
  ⟨[], render v, [], blank_nil, h, blank_nil, by simp [toText]⟩

theorem printable_null : Printable .null := .nothing

theorem printable_bool : ∀ b : Bool, Printable (.bool b)
  | true => .yes
  | false => .no

theorem printable_ofNat (n : Nat) : Printable (.ofNat n) := .num n

theorem printable_ofString (s : String) : Printable (.ofString s) := .str (spellsText_flatMap_stringChar s.toList)

theorem printable_ofOption {α : Type} {f : α → Json} (h : ∀ a, Printable (f a)) : ∀ a : Option α, Printable (.ofOption f a)
  | none => printable_null
  | some a => h a

theorem spellsItems_render {v : Json} {vs : List Json} (h : ∀ w ∈ v :: vs, Printable w) :
    SpellsItems (v :: vs) (renderItems (v :: vs)) := by
  induction vs generalizing v with
  | nil => exact .last blank_nil (h v List.mem_cons_self) blank_nil
  | cons w vs ih =>
    exact .cons blank_nil (h v List.mem_cons_self) blank_nil (ih fun u hu => h u (List.mem_cons_of_mem v hu))

theorem printable_ofList {α : Type} {f : α → Json} (h : ∀ a, Printable (f a)) (xs : List α) : Printable (.ofList f xs) := by
  cases xs with
  | nil => exact .emptyArr blank_nil
  | cons x xs =>
    refine .arr (spellsItems_render fun w hw => ?_)
    obtain ⟨a, -, rfl⟩ := List.mem_map.1 (show w ∈ (x :: xs).map f from hw)
    exact h a

theorem spellsName_stringLiteral (key : String) : SpellsName key (stringLiteral key ++ [':']) := by
  simpa [stringLiteral] using SpellsName.name blank_nil (spellsText_flatMap_stringChar key.toList) blank_nil

theorem spellsMembers_render {m : String × Json} {ms : List (String × Json)} (h : ∀ e ∈ m :: ms, Printable e.2) :
    SpellsMembers ((m :: ms).map fun e => (some e.1, e.2)) (renderMembers ((m :: ms).map fun e => (some e.1, e.2))) := by
  have hname := spellsName_stringLiteral m.1
  have hvalue : Spells m.2 (render m.2) := h m List.mem_cons_self
  induction ms generalizing m with
  | nil => simpa [renderMembers, stringValue] using SpellsMembers.last hname blank_nil hvalue blank_nil
  | cons n ms ih =>
    have hrest : ∀ e ∈ n :: ms, Printable e.2 := fun e he => h e (List.mem_cons_of_mem m he)
    have hmembers := ih hrest (spellsName_stringLiteral n.1) (hrest n List.mem_cons_self)
    simpa [renderMembers, stringValue] using SpellsMembers.cons hname blank_nil hvalue blank_nil hmembers

theorem printable_object {ms : List (String × Json)} (h : ∀ e ∈ ms, Printable e.2) : Printable (.object ms) := by
  cases ms with
  | nil => exact .emptyObj blank_nil
  | cons m ms => exact .obj (spellsMembers_render h)

end Json
end AddressBinder
