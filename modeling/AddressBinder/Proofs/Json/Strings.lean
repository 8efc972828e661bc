import AddressBinder.Json.Printer
import AddressBinder.Json.Reader
import AddressBinder.Proofs.Text.Numeral
/-!
# Strings in JSON texts

What a string literal may hold for a text, character by character: a character itself, a one-letter escape, the number
of a code unit in either case of its digits, or the numbers of a surrogate pair.  Whichever forms are chosen, the text
is read back (`stringBody_of_spellsText`).
-/
namespace AddressBinder
namespace Json

/-- The letters of the short escapes, with the characters they stand for. -/
def shortEscapes : List (Char × Char) :=
  [('"', '"'), ('\\', '\\'), ('/', '/'), ('b', '\x08'), ('f', '\x0c'), ('n', '\n'), ('r', '\r'), ('t', '\t')]

/-- Four base-sixteen digits name a code unit. -/
def NamesUnit (digits : List Char) (n : Nat) : Prop :=
  digits.length = 4 ∧ (∀ c ∈ digits, (Text.hexDigit? c).isSome) ∧ Text.hexValue 0 digits = n

instance (digits : List Char) (n : Nat) : Decidable (NamesUnit digits n) :=
  decidable_of_iff
    (digits.length = 4 ∧ digits.all (fun c => (Text.hexDigit? c).isSome) = true ∧ Text.hexValue 0 digits = n)
    (by simp [NamesUnit])

/-- The forms of a character in a string literal. -/
inductive SpellsChar : Char → List Char → Prop where
  | itself {c : Char} (hcontrol : 0x20 ≤ c.toNat) (hquote : c ≠ '"') (hbackslash : c ≠ '\\') : SpellsChar c [c]
  | short {letter c : Char} (h : (letter, c) ∈ shortEscapes) : SpellsChar c ['\\', letter]
  | unit {c : Char} {digits : List Char} (h : NamesUnit digits c.toNat) : SpellsChar c ('\\' :: 'u' :: digits)
  | pair {c : Char} {high low : List Char} {m n : Nat} (hhigh : NamesUnit high m) (hlow : NamesUnit low n)
      (hm : 0xd800 ≤ m ∧ m < 0xdc00) (hn : 0xdc00 ≤ n ∧ n < 0xe000)
      (hc : c.toNat = 0x10000 + (m - 0xd800) * 0x400 + (n - 0xdc00)) :
      SpellsChar c ('\\' :: 'u' :: high ++ '\\' :: 'u' :: low)

/-- The forms of a text in a string literal, between its quotes. -/
inductive SpellsText : List Char → List Char → Prop where
  | nil : SpellsText [] []
  | cons {c : Char} {cs form rest : List Char} (hc : SpellsChar c form) (h : SpellsText cs rest) :
      SpellsText (c :: cs) (form ++ rest)

/-! ## Reading units -/

/-- Reading a form prepends its code points and units to what the rest of the literal holds. -/
def ReadsAs (form : List Char) (units : List Nat) : Prop :=
  ∀ rest, stringUnits (form ++ rest) = (stringUnits rest).map fun r => (units ++ r.1, r.2)

theorem codeUnit?_of_namesUnit {a b c d : Char} {n : Nat} (h : NamesUnit [a, b, c, d] n) : codeUnit? a b c d = some n := by
  obtain ⟨-, hdigits, hvalue⟩ := h
  simp only [List.forall_mem_cons, Option.isSome_iff_exists] at hdigits
  obtain ⟨⟨a', ha⟩, ⟨b', hb⟩, ⟨c', hc⟩, ⟨d', hd⟩, -⟩ := hdigits
  simp only [Text.hexValue, List.foldl, ha, hb, hc, hd, Option.getD_some] at hvalue
  simp only [codeUnit?, ha, hb, hc, hd, Option.pure_def, Option.bind_eq_bind, Option.bind_some, Option.some.injEq]
  omega

theorem readsAs_unit {digits : List Char} {n : Nat} (h : NamesUnit digits n) : ReadsAs ('\\' :: 'u' :: digits) [n] := by
  intro rest
  match digits, h with
  | [a, b, c, d], h =>
    simp only [List.cons_append, List.nil_append, stringUnits, codeUnit?_of_namesUnit h]
    cases stringUnits rest <;> rfl

theorem ReadsAs.append {form form' : List Char} {units units' : List Nat} (h : ReadsAs form units)
    (h' : ReadsAs form' units') : ReadsAs (form ++ form') (units ++ units') := by
  intro rest
  rw [List.append_assoc, h, h', Option.map_map]
  simp [Function.comp_def]

theorem readsAs_short {letter c : Char} (h : (letter, c) ∈ shortEscapes) : ReadsAs ['\\', letter] [c.toNat] := by
  intro rest
  simp only [shortEscapes, List.mem_cons, Prod.mk.injEq, List.not_mem_nil, or_false] at h
  rcases h with ⟨rfl, rfl⟩ | ⟨rfl, rfl⟩ | ⟨rfl, rfl⟩ | ⟨rfl, rfl⟩ | ⟨rfl, rfl⟩ | ⟨rfl, rfl⟩ | ⟨rfl, rfl⟩ | ⟨rfl, rfl⟩ <;>
    simp [stringUnits, simpleEscape?] <;> cases stringUnits rest <;> rfl

theorem readsAs_itself {c : Char} (hcontrol : 0x20 ≤ c.toNat) (hquote : c ≠ '"') (hbackslash : c ≠ '\\') :
    ReadsAs [c] [c.toNat] := by
  intro rest
  have hplain : (c.toNat < 0x20 || c = '\\') = false := by simp [hbackslash]; omega
  rw [List.singleton_append, stringUnits]
  · simp only [hplain]
    cases stringUnits rest <;> rfl
  · exact hquote
  · rintro a b d e cs heq -
    exact hbackslash heq
  · rintro e cs heq -
    exact hbackslash heq

/-! ## Joining units -/

theorem joinUnits_toNat (c : Char) (ns : List Nat) : joinUnits (c.toNat :: ns) = (joinUnits ns).map (c :: ·) := by
  have hvalid : c.toNat < 0xd800 ∨ 0xdfff < c.toNat ∧ c.toNat < 0x110000 := c.valid
  have hhigh : isHighHalf c.toNat = false := by simp [isHighHalf]; omega
  have hlow : isLowHalf c.toNat = false := by simp [isLowHalf]; omega
  cases ns <;> simp [joinUnits, hhigh, hlow, Char.ofNat_toNat]

theorem joinUnits_pair {c : Char} {m n : Nat} (hm : 0xd800 ≤ m ∧ m < 0xdc00) (hn : 0xdc00 ≤ n ∧ n < 0xe000)
    (hc : c.toNat = 0x10000 + (m - 0xd800) * 0x400 + (n - 0xdc00)) (ns : List Nat) :
    joinUnits (m :: n :: ns) = (joinUnits ns).map (c :: ·) := by
  simp [joinUnits, isHighHalf, isLowHalf, hm, hn, ← hc, Char.ofNat_toNat]

/-- A form is read as units that join to its character. -/
theorem SpellsChar.reads {c : Char} {form : List Char} (h : SpellsChar c form) :
    ∃ units, ReadsAs form units ∧ ∀ ns, joinUnits (units ++ ns) = (joinUnits ns).map (c :: ·) := by
  cases h with
  | itself hcontrol hquote hbackslash => exact ⟨[c.toNat], readsAs_itself hcontrol hquote hbackslash, joinUnits_toNat c⟩
  | short h => exact ⟨[c.toNat], readsAs_short h, joinUnits_toNat c⟩
  | unit h => exact ⟨[c.toNat], readsAs_unit h, joinUnits_toNat c⟩
  | pair hhigh hlow hm hn hc =>
    exact ⟨[_] ++ [_], (readsAs_unit hhigh).append (readsAs_unit hlow), joinUnits_pair hm hn hc⟩

theorem SpellsText.reads {cs form : List Char} (h : SpellsText cs form) :
    ∃ units, ReadsAs form units ∧ joinUnits units = some cs := by
  induction h with
  | nil => exact ⟨[], fun rest => by simp, rfl⟩
  | cons hc _ ih =>
    obtain ⟨units, hunits, hjoin⟩ := hc.reads
    obtain ⟨units', hunits', hjoin'⟩ := ih
    exact ⟨units ++ units', hunits.append hunits', by rw [hjoin, hjoin']; rfl⟩

/-- **Every form of a text is read back as the text.** -/
theorem stringBody_of_spellsText {cs form : List Char} (h : SpellsText cs form) (rest : List Char) :
    stringBody (form ++ '"' :: rest) = some (some (String.ofList cs), rest) := by
  obtain ⟨units, hunits, hjoin⟩ := h.reads
  simp [stringBody, hunits ('"' :: rest), stringUnits, hjoin]

/-! ## The printed form -/

theorem namesUnit_hexPadded : ∀ n < 0x20, NamesUnit (Text.hexPadded 4 n) n := by decide

theorem spellsChar_stringChar (c : Char) : SpellsChar c (stringChar c) := by
  unfold stringChar
  split
  · rename_i h
    subst h
    exact .short (by decide)
  · split
    · rename_i h
      subst h
      exact .short (by decide)
    · split
      · rename_i h
        exact .unit (namesUnit_hexPadded c.toNat h)
      · rename_i hquote hbackslash hcontrol
        exact .itself (by omega) hquote hbackslash

theorem spellsText_flatMap_stringChar : ∀ cs : List Char, SpellsText cs (cs.flatMap stringChar)
  | [] => .nil
  | c :: cs => .cons (spellsChar_stringChar c) (spellsText_flatMap_stringChar cs)

end Json
end AddressBinder
