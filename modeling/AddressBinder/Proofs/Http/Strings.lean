import AddressBinder.Http.NameService
import AddressBinder.Proofs.Text.Words
/-!
# Character-strings

What the character-strings of TXT data are, said by how the data is laid out (`characterStrings_eq_iff`).  Strings that are
written in quotes or bare, with any blanks around them, come back as they were; and a reader that looks at one character at
a time gets through any data, in a number of steps that is bounded by its length (`strings_of_data`).
-/
namespace AddressBinder
namespace Http
namespace NameService

open Text

/-! ## How strings are written -/

/-- A text with a backslash before each quote and each backslash. -/
def escape (text : List Char) : List Char := text.flatMap fun c => if c = '"' ∨ c = '\\' then ['\\', c] else [c]

/-- Whether a text can be written without quotes. -/
structure IsBare (text : List Char) : Prop where
  isWord : IsWord text
  unquoted : ∀ c ∈ text.head?, c ≠ '"'

inductive Item where
  | quoted (text : List Char)
  | bare (text : List Char) (isBare : IsBare text)

def Item.text : Item → List Char
  | .quoted text => text
  | .bare text _ => text

/-- Data in which items are written, in their order: blanks stand around them, at least one behind a bare item that is not
the last. -/
inductive Writes : List Char → List Item → Prop where
  | gap {gap : List Char} (hgap : ∀ c ∈ gap, isBlank c = true) : Writes gap []
  | quoted {gap text rest : List Char} {items : List Item} (hgap : ∀ c ∈ gap, isBlank c = true) (h : Writes rest items) :
      Writes (gap ++ '"' :: (escape text ++ '"' :: rest)) (.quoted text :: items)
  | bare {gap text rest : List Char} {items : List Item} (isBare : IsBare text) (hgap : ∀ c ∈ gap, isBlank c = true)
      (hrest : ∀ c ∈ rest.head?, isBlank c = true) (h : Writes rest items) :
      Writes (gap ++ (text ++ rest)) (.bare text isBare :: items)

/-! ## How any data is read -/

/-- What stands between quotes, and the text that it spells: a backslash stands for the character behind it. -/
inductive Spells : List Char → List Char → Prop where
  | nil : Spells [] []
  | plain {c : Char} {body text : List Char} (hquote : c ≠ '"') (hback : c ≠ '\\') (h : Spells body text) :
      Spells (c :: body) (c :: text)
  | escaped {body text : List Char} (c : Char) (h : Spells body text) : Spells ('\\' :: c :: body) (c :: text)

/-- Data in which strings stand.  The last one may lack its closing quote, and then a backslash at the end stands for
nothing. -/
inductive Holds : List Char → List (List Char) → Prop where
  | gap {gap : List Char} (hgap : ∀ c ∈ gap, isBlank c = true) : Holds gap []
  | quoted {gap body text rest : List Char} {strings : List (List Char)} (hgap : ∀ c ∈ gap, isBlank c = true)
      (hbody : Spells body text) (h : Holds rest strings) : Holds (gap ++ '"' :: (body ++ '"' :: rest)) (text :: strings)
  | unclosed {gap body text tail : List Char} (hgap : ∀ c ∈ gap, isBlank c = true) (hbody : Spells body text)
      (htail : tail = [] ∨ tail = ['\\']) : Holds (gap ++ '"' :: (body ++ tail)) [text]
  | bare {gap text rest : List Char} {strings : List (List Char)} (isBare : IsBare text)
      (hgap : ∀ c ∈ gap, isBlank c = true) (hrest : ∀ c ∈ rest.head?, isBlank c = true) (h : Holds rest strings) :
      Holds (gap ++ (text ++ rest)) (text :: strings)

variable {c : Char} {gap body text before rest data : List Char} {strings : List (List Char)} {items : List Item}

theorem Spells.append {body' text' : List Char} (h : Spells body text) (h' : Spells body' text') :
    Spells (body ++ body') (text ++ text') := by
  induction h with
  | nil => exact h'
  | plain hquote hback _ ih => exact .plain hquote hback ih
  | escaped c _ ih => exact .escaped c ih

theorem spells_escape : ∀ text : List Char, Spells (escape text) text
  | [] => .nil
  | c :: text => by
    have ih := spells_escape text
    unfold escape at ih ⊢
    rw [List.flatMap_cons]
    by_cases h : c = '"' ∨ c = '\\'
    · rw [if_pos h]
      exact .escaped c ih
    · rw [if_neg h]
      rw [not_or] at h
      exact .plain h.1 h.2 ih

theorem Writes.holds (h : Writes data items) : Holds data (items.map Item.text) := by
  induction h with
  | gap hgap => exact .gap hgap
  | quoted hgap _ ih => exact .quoted hgap (spells_escape _) ih
  | bare isBare hgap hrest _ ih => exact .bare isBare hgap hrest ih

theorem Holds.blank (hc : isBlank c = true) (h : Holds data strings) : Holds (c :: data) strings := by
  have hcons : ∀ {gap : List Char}, (∀ d ∈ gap, isBlank d = true) → ∀ d ∈ c :: gap, isBlank d = true := fun hgap =>
    List.forall_mem_cons.2 ⟨hc, hgap⟩
  cases h with
  | gap hgap => exact .gap (hcons hgap)
  | quoted hgap hbody h => exact .quoted (hcons hgap) hbody h
  | unclosed hgap hbody htail => exact .unclosed (hcons hgap) hbody htail
  | bare isBare hgap hrest h => exact .bare isBare (hcons hgap) hrest h

/-! ## What stands in data is what is read -/

theorem stringsFrom_gap (hgap : ∀ c ∈ gap, isBlank c = true) (rest : List Char) :
    stringsFrom .between (gap ++ rest) = stringsFrom .between rest := by
  induction gap with
  | nil => rfl
  | cons c gap ih =>
    obtain ⟨hc, hgap⟩ := List.forall_mem_cons.1 hgap
    rw [List.cons_append, stringsFrom, if_pos hc, ih hgap]

theorem stringsFrom_spells (h : Spells body text) (before rest : List Char) :
    stringsFrom (.quoted before) (body ++ rest) = stringsFrom (.quoted (before ++ text)) rest := by
  induction h generalizing before with
  | nil => rw [List.nil_append, List.append_nil]
  | plain hquote hback _ ih =>
    rw [List.cons_append, stringsFrom, if_neg hback, if_neg hquote, ih, List.append_assoc, List.singleton_append]
  | escaped c _ ih =>
    rw [List.cons_append, stringsFrom, if_pos rfl, List.cons_append, stringsFrom, ih, List.append_assoc,
      List.singleton_append]

theorem stringsFrom_word (h : ∀ c ∈ text, isBlank c = false) (before rest : List Char) :
    stringsFrom (.bare before) (text ++ rest) = stringsFrom (.bare (before ++ text)) rest := by
  induction text generalizing before with
  | nil => rw [List.nil_append, List.append_nil]
  | cons c text ih =>
    obtain ⟨hc, htext⟩ := List.forall_mem_cons.1 h
    rw [List.cons_append, stringsFrom, hc, if_neg Bool.false_ne_true, ih htext, List.append_assoc, List.singleton_append]

theorem stringsFrom_quote (rest : List Char) : stringsFrom .between ('"' :: rest) = stringsFrom (.quoted []) rest := by
  rw [stringsFrom, if_neg (by decide), if_pos rfl]

theorem stringsFrom_bare (isBare : IsBare text) (hrest : ∀ c ∈ rest.head?, isBlank c = true) :
    stringsFrom .between (text ++ rest) = text :: stringsFrom .between rest := by
  obtain ⟨⟨hne, hword⟩, hquote⟩ := isBare
  obtain ⟨c, cs, rfl⟩ := List.exists_cons_of_ne_nil hne
  obtain ⟨hc, hcs⟩ := List.forall_mem_cons.1 hword
  rw [List.cons_append, stringsFrom, hc, if_neg Bool.false_ne_true, if_neg (hquote c rfl), stringsFrom_word hcs,
    List.singleton_append]
  cases rest with
  | nil => rw [stringsFrom, stringsFrom]
  | cons d rest => rw [stringsFrom, stringsFrom, if_pos (hrest d rfl), if_pos (hrest d rfl)]

theorem characterStrings_of_holds (h : Holds data strings) : characterStrings data = strings := by
  unfold characterStrings
  induction h with
  | @gap gap hgap =>
    rw [← List.append_nil gap, stringsFrom_gap hgap, stringsFrom]
  | quoted hgap hbody _ ih =>
    rw [stringsFrom_gap hgap, stringsFrom_quote, stringsFrom_spells hbody, stringsFrom, if_neg (by decide), if_pos rfl, ih,
      List.nil_append]
  | unclosed hgap hbody htail =>
    rw [stringsFrom_gap hgap, stringsFrom_quote, stringsFrom_spells hbody, List.nil_append]
    rcases htail with rfl | rfl
    · rw [stringsFrom]
    · rw [stringsFrom, if_pos rfl, stringsFrom]
  | bare isBare hgap hrest _ ih => rw [stringsFrom_gap hgap, stringsFrom_bare isBare hrest, ih]

/-! ## What is read stands in the data -/

/-- What has been read of the string at which a reader stands. -/
inductive Reading : Place → List Char → Prop where
  | between : Reading .between []
  | bare {text : List Char} (isBare : IsBare text) : Reading (.bare text) text
  | quoted {body text : List Char} (hbody : Spells body text) : Reading (.quoted text) ('"' :: body)
  | escaped {body text : List Char} (hbody : Spells body text) : Reading (.escaped text) ('"' :: (body ++ ['\\']))

theorem isBare_singleton (hblank : isBlank c = false) (hquote : c ≠ '"') : IsBare [c] where
  isWord := ⟨List.cons_ne_nil c [], by simpa using hblank⟩
  unquoted := by simpa using hquote

theorem IsBare.concat (h : IsBare text) (hc : isBlank c = false) : IsBare (text ++ [c]) where
  isWord := ⟨by simp, List.forall_mem_append.2 ⟨h.isWord.2, by simpa using hc⟩⟩
  unquoted := by
    obtain ⟨d, ds, rfl⟩ := List.exists_cons_of_ne_nil h.isWord.1
    exact h.unquoted

/-- **From every place, what is read stands in the data**, together with what has been read before. -/
theorem holds_stringsFrom (place : Place) (rest : List Char) : ∀ {read : List Char}, Reading place read →
    Holds (read ++ rest) (stringsFrom place rest) := by
  have hnone : ∀ c ∈ ([] : List Char), isBlank c = true := fun _ hc => absurd hc List.not_mem_nil
  fun_induction stringsFrom place rest <;> intro read h
  -- at the end of the data
  case case1 =>
    cases h with | between => exact .gap hnone
  case case2 text =>
    cases h with | bare isBare => exact .bare isBare hnone nofun (.gap hnone)
  case case3 text =>
    cases h with | quoted hbody => exact .unclosed hnone hbody (.inl rfl)
  case case4 text =>
    cases h with | escaped hbody =>
    rw [List.append_nil]
    exact .unclosed hnone hbody (.inr rfl)
  -- between two strings
  case case5 c rest hc ih =>
    cases h with | between => exact (ih .between).blank hc
  case case6 rest _ ih =>
    cases h with | between => exact ih (.quoted .nil)
  case case7 c rest hc hquote ih =>
    cases h with | between => exact ih (.bare (isBare_singleton (Bool.eq_false_iff.2 hc) hquote))
  -- in a bare string, which a blank ends
  case case8 text c rest hc ih =>
    cases h with | bare isBare =>
    exact .bare isBare hnone (fun d hd => Option.some.inj hd ▸ hc) ((ih .between).blank hc)
  case case9 text c rest hc ih =>
    cases h with | bare isBare =>
    rw [List.append_cons]
    exact ih (.bare (isBare.concat (Bool.eq_false_iff.2 hc)))
  -- in a quoted string, before a backslash, a quote or another character, and behind a backslash
  case case10 text rest ih =>
    cases h with | quoted hbody =>
    rw [List.cons_append, List.append_cons]
    exact ih (.escaped hbody)
  case case11 text rest _ ih =>
    cases h with | quoted hbody => exact .quoted hnone hbody (ih .between)
  case case12 text c rest hback hquote ih =>
    cases h with | quoted hbody =>
    rw [List.cons_append, List.append_cons]
    exact ih (.quoted (hbody.append (.plain hquote hback .nil)))
  case case13 text c rest ih =>
    cases h with | @escaped body _ hbody =>
    have hread : '"' :: (body ++ ['\\']) ++ c :: rest = '"' :: (body ++ ['\\', c]) ++ rest := by simp
    rw [hread]
    exact ih (.quoted (hbody.append (.escaped c .nil)))

/-- **The character-strings of data are those that stand in it.** -/
theorem characterStrings_eq_iff : characterStrings data = strings ↔ Holds data strings := by
  constructor
  · rintro rfl
    exact holds_stringsFrom .between data .between
  · exact characterStrings_of_holds

/-! ## A reader at work -/

/-- A reader of data: where it stands, what it has not read yet, and the strings that it has found. -/
structure Reader where
  place : Place
  rest : List Char
  found : List (List Char)

/-- One step of a reader, which looks at the next character.  It does not take the character with which a bare string
begins, nor the blank that ends one, and it stops between two strings when nothing is left. -/
def Reader.step? : Reader → Option Reader
  | ⟨.between, [], _⟩ => none
  | ⟨.between, c :: cs, found⟩ =>
    if isBlank c then some ⟨.between, cs, found⟩
    else if c = '"' then some ⟨.quoted [], cs, found⟩
    else some ⟨.bare [], c :: cs, found⟩
  | ⟨.bare text, [], found⟩ => some ⟨.between, [], found ++ [text]⟩
  | ⟨.bare text, c :: cs, found⟩ =>
    if isBlank c then some ⟨.between, c :: cs, found ++ [text]⟩ else some ⟨.bare (text ++ [c]), cs, found⟩
  | ⟨.quoted text, [], found⟩ => some ⟨.between, [], found ++ [text]⟩
  | ⟨.quoted text, c :: cs, found⟩ =>
    if c = '\\' then some ⟨.escaped text, cs, found⟩
    else if c = '"' then some ⟨.between, cs, found ++ [text]⟩
    else some ⟨.quoted (text ++ [c]), cs, found⟩
  | ⟨.escaped text, [], found⟩ => some ⟨.quoted text, [], found⟩
  | ⟨.escaped text, c :: cs, found⟩ => some ⟨.quoted (text ++ [c]), cs, found⟩

/-- A reader stops within a number of steps, with these strings found. -/
inductive Reader.Stops : Nat → Reader → List (List Char) → Prop where
  | now {n : Nat} {r : Reader} (h : r.step? = none) : Stops n r r.found
  | step {n : Nat} {r r' : Reader} {strings : List (List Char)} (h : r.step? = some r') (hrest : Stops n r' strings) :
      Stops (n + 1) r strings

open Reader (Stops)

variable {n : Nat} {found : List (List Char)}

theorem Reader.Stops.mono {r : Reader} (h : Stops n r strings) : ∀ {m : Nat}, n ≤ m → Stops m r strings := by
  induction h with
  | now h => exact fun _ => .now h
  | step h _ ih =>
    intro m hm
    obtain ⟨k, rfl⟩ := Nat.exists_eq_add_of_le' hm
    exact .step h (ih (Nat.le_add_left _ k))

/-- The steps that a reader may need for what is left. -/
def Place.limit : Place → List Char → Nat
  | .escaped _, rest => 2 * rest.length + 2
  | _, rest => 2 * rest.length + 1

theorem stops_end (n : Nat) (found : List (List Char)) : Stops n ⟨.between, [], found⟩ found := .now rfl

/-- **A reader gets to the end from every place**, and finds what is to be read. -/
theorem stops_stringsFrom (place : Place) (rest : List Char) : ∀ found : List (List Char),
    Stops (place.limit rest) ⟨place, rest, found⟩ (found ++ stringsFrom place rest) := by
  have hadd : ∀ (text rest : List Char) (found : List (List Char)),
      found ++ [text] ++ stringsFrom .between rest = found ++ text :: stringsFrom .between rest :=
    fun text rest found => by rw [List.append_assoc, List.singleton_append]
  fun_induction stringsFrom place rest <;> intro found
  -- at the end of the data
  case case1 =>
    rw [List.append_nil]
    exact stops_end _ found
  case case2 text => exact .step rfl (stops_end _ _)
  case case3 text => exact .step rfl (stops_end _ _)
  case case4 text => exact .step rfl (.step rfl (stops_end _ _))
  -- between two strings, where a bare one needs a step before its first character is taken
  case case5 c rest hc ih => exact .step (if_pos hc) ((ih found).mono (Nat.le_succ _))
  case case6 rest _ ih => exact .step rfl ((ih found).mono (Nat.le_succ _))
  case case7 c rest hc hquote ih =>
    exact .step ((if_neg hc).trans (if_neg hquote)) (.step (if_neg hc) (ih found))
  -- in a bare string, which a blank ends before it is taken
  case case8 text c rest hc ih =>
    rw [← hadd]
    exact .step (if_pos hc) (.step (if_pos hc) (ih _))
  case case9 text c rest hc ih => exact .step (if_neg hc) ((ih found).mono (Nat.le_succ _))
  -- in a quoted string, before a backslash, a quote or another character, and behind a backslash
  case case10 text rest ih => exact .step rfl (ih found)
  case case11 text rest _ ih =>
    rw [← hadd]
    exact .step rfl ((ih _).mono (Nat.le_succ _))
  case case12 text c rest hback hquote ih =>
    exact .step ((if_neg hback).trans (if_neg hquote)) ((ih found).mono (Nat.le_succ _))
  case case13 text c rest ih => exact .step rfl ((ih found).mono (Nat.le_add_right _ 2))

/-- **Strings come back from the data in which they are written, and all data is read to its end.** -/
theorem strings_of_data :
    (∀ data items, Writes data items → characterStrings data = items.map Item.text) ∧
    ∀ data, Stops (2 * data.length + 1) ⟨.between, data, []⟩ (characterStrings data) ∧
      ∀ strings, characterStrings data = strings ↔ Holds data strings := by
  refine ⟨fun data items h => characterStrings_of_holds h.holds, fun data => ⟨?_, fun strings => characterStrings_eq_iff⟩⟩
  exact stops_stringsFrom .between data []

theorem isBare_odd : IsBare ['a', '"', '\\'] := ⟨by decide, by simp⟩

/-- An empty string, one with a quote, a backslash and a blank in it, and right behind it a bare one. -/
def oddItems : List Item := [.quoted [], .quoted ['"', '\\', ' '], .bare ['a', '"', '\\'] isBare_odd]

theorem strings_of_data_odd : Writes "\t\"\"\"\\\"\\\\ \"a\"\\\n".toList oddItems ∧
    characterStrings "\t\"\"\"\\\"\\\\ \"a\"\\\n".toList = [[], ['"', '\\', ' '], ['a', '"', '\\']] := by
  have hnone : ∀ c ∈ ([] : List Char), isBlank c = true := fun _ hc => absurd hc List.not_mem_nil
  have htab : ∀ c ∈ ['\t'], isBlank c = true := forall_mem_of_all (by decide)
  have hline : ∀ c ∈ ['\n'], isBlank c = true := forall_mem_of_all (by decide)
  have hlast : Writes ['a', '"', '\\', '\n'] [.bare ['a', '"', '\\'] isBare_odd] :=
    @Writes.bare [] ['a', '"', '\\'] ['\n'] [] isBare_odd hnone (fun _ hc => Option.some.inj hc ▸ rfl) (.gap hline)
  have hwrites : Writes "\t\"\"\"\\\"\\\\ \"a\"\\\n".toList oddItems :=
    @Writes.quoted ['\t'] [] _ _ htab (@Writes.quoted [] ['"', '\\', ' '] _ _ hnone hlast)
  exact ⟨hwrites, strings_of_data.1 _ _ hwrites⟩

/-- A backslash at the end of a string that is not closed. -/
example : characterStrings "a \"b\\".toList = [['a'], ['b']] := by decide

end NameService
end Http
end AddressBinder
