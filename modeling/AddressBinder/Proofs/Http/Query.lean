import Mathlib.Data.List.Infix
import Mathlib.Data.List.TakeWhile
import AddressBinder.Discovery.Records
import AddressBinder.Http.NameService
import AddressBinder.Proofs.Text.Split
/-!
# What a query asks for

A name service reads the parameters of a query from the URL: it takes the text between the question mark and the fragment
apart at the ampersands and at the first equals sign of each piece, and decodes the percent escapes.  A lookup writes the
name as it is, so the service is asked for that name exactly when nothing in it means something to this reader
(`asks_for_name_iff`).
-/
namespace AddressBinder
namespace Http
namespace NameService

open Text

/-! ## Reading a query -/

/-- The query of a URL. -/
def query? (url : List Char) : Option (List Char) := (cut '?' (url.takeWhile (· != '#'))).map Prod.snd

def utf8 (cs : List Char) : List UInt8 := cs.flatMap String.utf8EncodeChar

/-- The bytes that a text with percent escapes stands for.  A percent sign without two base-sixteen digits behind it stands
for itself. -/
def percentDecode : List Char → List UInt8
  | [] => []
  | '%' :: a :: b :: rest =>
    match hexDigit? a, hexDigit? b with
    | some high, some low => UInt8.ofNat (16 * high + low) :: percentDecode rest
    | _, _ => String.utf8EncodeChar '%' ++ percentDecode (a :: b :: rest)
  | c :: rest => String.utf8EncodeChar c ++ percentDecode rest

/-- The name and the value of a parameter; the value is empty when there is no equals sign. -/
def parameter (piece : List Char) : List UInt8 × List UInt8 :=
  match cut '=' piece with
  | some (name, value) => (percentDecode name, percentDecode value)
  | none => (percentDecode piece, [])

def parameters (query : List Char) : List (List UInt8 × List UInt8) := (splitAt '&' query).map parameter

/-- What a service is asked for by a URL, if the URL has a query. -/
def asked? (url : List Char) : Option (List (List UInt8 × List UInt8)) := (query? url).map parameters

/-! ## Escapes -/

/-- A percent escape stands somewhere in a text. -/
def HasEscape (cs : List Char) : Prop :=
  ∃ a b, (hexDigit? a).isSome ∧ (hexDigit? b).isSome ∧ ['%', a, b] <:+: cs

theorem HasEscape.cons {cs : List Char} (c : Char) (h : HasEscape cs) : HasEscape (c :: cs) := by
  obtain ⟨a, b, ha, hb, hin⟩ := h
  exact ⟨a, b, ha, hb, List.infix_cons_iff.2 (.inr hin)⟩

theorem hasEscape_cons_iff {c : Char} {cs : List Char} : HasEscape (c :: cs) ↔
    (c = '%' ∧ ∃ a b rest, cs = a :: b :: rest ∧ (hexDigit? a).isSome ∧ (hexDigit? b).isSome) ∨ HasEscape cs := by
  constructor
  · rintro ⟨a, b, ha, hb, hin⟩
    rcases List.infix_cons_iff.1 hin with ⟨rest, hfirst⟩ | hin
    · obtain ⟨rfl, hrest⟩ := List.cons.inj hfirst
      exact .inl ⟨rfl, a, b, rest, hrest.symm, ha, hb⟩
    · exact .inr ⟨a, b, ha, hb, hin⟩
  · rintro (⟨rfl, a, b, rest, rfl, ha, hb⟩ | h)
    · exact ⟨a, b, ha, hb, List.infix_cons_iff.2 (.inl ⟨rest, rfl⟩)⟩
    · exact h.cons c

@[simp] theorem utf8_cons (c : Char) (cs : List Char) : utf8 (c :: cs) = String.utf8EncodeChar c ++ utf8 cs := rfl

@[simp] theorem utf8_append (cs ds : List Char) : utf8 (cs ++ ds) = utf8 cs ++ utf8 ds := List.flatMap_append

theorem length_utf8_lt_append (cs : List Char) {ds : List Char} (h : ds ≠ []) :
    (utf8 cs).length < (utf8 (cs ++ ds)).length := by
  obtain ⟨d, ds, rfl⟩ := List.exists_cons_of_ne_nil h
  have hsize := d.utf8Size_pos
  simp
  omega

theorem length_percentDecode_le (cs : List Char) : (percentDecode cs).length ≤ (utf8 cs).length := by
  fun_induction percentDecode cs with
  | case1 => exact Nat.le_refl _
  | case2 a b rest high low _ _ ih =>
    have hsize := a.utf8Size_pos
    simp
    omega
  | case3 a b rest _ ih =>
    simp at ih ⊢
    omega
  | case4 c rest _ ih =>
    simp
    omega

theorem length_percentDecode_lt {cs : List Char} (h : HasEscape cs) : (percentDecode cs).length < (utf8 cs).length := by
  fun_induction percentDecode cs with
  | case1 =>
    obtain ⟨a, b, -, -, hin⟩ := h
    exact absurd (List.infix_nil.1 hin) (List.cons_ne_nil _ _)
  | case2 a b rest high low _ _ ih =>
    -- three characters are read as one byte
    have hle := length_percentDecode_le rest
    have hsize := a.utf8Size_pos
    have hsize' := b.utf8Size_pos
    simp
    omega
  | case3 a b rest hno ih =>
    rcases hasEscape_cons_iff.1 h with ⟨-, a', b', rest', heq, ha, hb⟩ | h
    · obtain ⟨rfl, rfl, rfl⟩ := by simpa using heq
      obtain ⟨high, hhigh⟩ := Option.isSome_iff_exists.1 ha
      obtain ⟨low, hlow⟩ := Option.isSome_iff_exists.1 hb
      exact absurd hlow (hno high low hhigh)
    · have hlt := ih h
      simp at hlt ⊢
      omega
  | case4 c rest hno ih =>
    rcases hasEscape_cons_iff.1 h with ⟨rfl, a, b, rest', rfl, -, -⟩ | h
    · exact absurd rfl (hno a b rest' rfl)
    · have hlt := ih h
      simp
      omega

theorem percentDecode_of_not {cs : List Char} (h : ¬ HasEscape cs) : percentDecode cs = utf8 cs := by
  fun_induction percentDecode cs with
  | case1 => rfl
  | case2 a b rest high low hb ha ih =>
    have hhere : HasEscape ('%' :: a :: b :: rest) :=
      hasEscape_cons_iff.2 (.inl ⟨rfl, a, b, rest, rfl, Option.isSome_of_eq_some ha, Option.isSome_of_eq_some hb⟩)
    exact absurd hhere h
  | case3 a b rest _ ih =>
    rw [ih fun hrest => h (hrest.cons '%')]
    rfl
  | case4 c rest _ ih =>
    rw [ih fun hrest => h (hrest.cons c)]
    rfl

/-- **A text is decoded as it is exactly when there is no escape in it.** -/
theorem percentDecode_eq_iff {cs : List Char} : percentDecode cs = utf8 cs ↔ ¬ HasEscape cs := by
  refine ⟨fun heq h => ?_, percentDecode_of_not⟩
  have hlt := length_percentDecode_lt h
  rw [heq] at hlt
  exact Nat.lt_irrefl _ hlt

instance (cs : List Char) : Decidable (HasEscape cs) :=
  decidable_of_iff (percentDecode cs ≠ utf8 cs) (by rw [Ne, percentDecode_eq_iff, Classical.not_not])

/-! ## What a lookup asks for -/

/-- Whether a character ends a parameter or the query that it stands in. -/
def endsParameter (c : Char) : Bool := c = '&' || c = '#'

/-- What a lookup of a name is to ask for. -/
def meant (stem : List Char) : List (List UInt8 × List UInt8) :=
  [(utf8 "name".toList, utf8 stem), (utf8 "type".toList, utf8 "TXT".toList)]

theorem parameter_name (value : List Char) :
    parameter ("name=".toList ++ value) = (utf8 "name".toList, percentDecode value) := by
  have hmark : "name=".toList = "name".toList ++ ['='] := rfl
  have hcut : cut '=' ("name".toList ++ '=' :: value) = some ("name".toList, value) := cut_append (by decide) value
  unfold parameter
  rw [hmark, List.append_assoc, List.singleton_append, hcut]
  rfl

section Lookup

variable {endpoint name : String} {stem before after : List Char} {c : Char}

theorem query?_queryUrl (hquery : '?' ∉ endpoint.toList) (hfragment : '#' ∉ endpoint.toList)
    (hstem : IsStem (· == '.') name.toList stem) : query? (queryUrl endpoint name).toList =
      some ("name=".toList ++ (stem ++ "&type=TXT".toList).takeWhile (· != '#')) := by
  have hurl : (queryUrl endpoint name).toList =
      endpoint.toList ++ "?name=".toList ++ (stem ++ "&type=TXT".toList) := by
    unfold queryUrl
    rw [dropTrailing_eq_iff.2 hstem]
    simp
  have hbefore : ∀ c ∈ endpoint.toList ++ "?name=".toList, (c != '#') = true := by
    intro c hc
    rw [bne_iff_ne]
    rintro rfl
    rcases List.mem_append.1 hc with hc | hc
    · exact hfragment hc
    · exact absurd hc (by decide)
  have hmark : "?name=".toList = '?' :: "name=".toList := rfl
  unfold query?
  rw [hurl, List.takeWhile_append_of_pos hbefore, hmark, List.append_assoc, List.cons_append, cut_append hquery]
  rfl

theorem asked?_of_plain (hquery : '?' ∉ endpoint.toList) (hfragment : '#' ∉ endpoint.toList)
    (hstem : IsStem (· == '.') name.toList stem) (hplain : ∀ c ∈ stem, endsParameter c = false) :
    asked? (queryUrl endpoint name).toList =
      some [(utf8 "name".toList, percentDecode stem), (utf8 "type".toList, utf8 "TXT".toList)] := by
  have hall : ∀ c ∈ stem ++ "&type=TXT".toList, (c != '#') = true := by
    intro c hc
    rw [bne_iff_ne]
    rintro rfl
    rcases List.mem_append.1 hc with hc | hc
    · exact absurd (hplain _ hc) (by decide)
    · exact absurd hc (by decide)
  have hamp : '&' ∉ "name=".toList ++ stem := by
    intro hmem
    rcases List.mem_append.1 hmem with hmem | hmem
    · exact absurd hmem (by decide)
    · exact absurd (hplain _ hmem) (by decide)
  have htype : splitAt '&' ("name=".toList ++ (stem ++ "&type=TXT".toList)) = ["name=".toList ++ stem, "type=TXT".toList] := by
    rw [← List.append_assoc]
    exact splitAt_append hamp "type=TXT".toList
  unfold asked?
  rw [query?_queryUrl hquery hfragment hstem, List.takeWhile_eq_self_iff.2 hall]
  simp only [Option.map_some, parameters, htype, List.map_cons, List.map_nil, parameter_name]
  rfl

/-- The first parameter ends at the first ampersand or hash in the name. -/
theorem asked?_of_ends (hquery : '?' ∉ endpoint.toList) (hfragment : '#' ∉ endpoint.toList)
    (hstem : IsStem (· == '.') name.toList (before ++ c :: after)) (hplain : ∀ c ∈ before, endsParameter c = false)
    (hends : endsParameter c = true) :
    ∃ more, asked? (queryUrl endpoint name).toList = some ((utf8 "name".toList, percentDecode before) :: more) := by
  have hall : ∀ c ∈ before, (c != '#') = true := by
    intro c hc
    rw [bne_iff_ne]
    rintro rfl
    exact absurd (hplain _ hc) (by decide)
  have hamp : '&' ∉ "name=".toList ++ before := by
    intro hmem
    rcases List.mem_append.1 hmem with hmem | hmem
    · exact absurd hmem (by decide)
    · exact absurd (hplain _ hmem) (by decide)
  unfold asked?
  rw [query?_queryUrl hquery hfragment hstem, List.append_assoc, List.takeWhile_append_of_pos hall, List.cons_append,
    ← List.append_assoc]
  rcases Bool.or_eq_true_iff.1 hends with hc | hc
  · obtain rfl := of_decide_eq_true hc
    rw [List.takeWhile_cons_of_pos (by decide)]
    refine ⟨parameters ((after ++ "&type=TXT".toList).takeWhile (· != '#')), ?_⟩
    simp only [Option.map_some, parameters, splitAt_append hamp, List.map_cons, parameter_name]
  · obtain rfl := of_decide_eq_true hc
    rw [List.takeWhile_cons_of_neg (by decide), List.append_nil]
    refine ⟨[], ?_⟩
    simp only [Option.map_some, parameters, splitAt_of_notMem hamp, List.map_cons, List.map_nil, parameter_name]

/-- **A lookup asks for its name, and for TXT records, exactly when no character of the name ends a parameter and no escape
stands in it.** The dots at the end of the name do not count. -/
theorem asks_for_name_iff (hquery : '?' ∉ endpoint.toList) (hfragment : '#' ∉ endpoint.toList)
    (hstem : IsStem (· == '.') name.toList stem) :
    asked? (queryUrl endpoint name).toList = some (meant stem) ↔ '&' ∉ stem ∧ '#' ∉ stem ∧ ¬ HasEscape stem := by
  cases hfirst : stem.find? endsParameter with
  | none =>
    have hplain : ∀ c ∈ stem, endsParameter c = false := by simpa using List.find?_eq_none.1 hfirst
    have hamp : '&' ∉ stem := fun hmem => absurd (hplain _ hmem) (by decide)
    have hhash : '#' ∉ stem := fun hmem => absurd (hplain _ hmem) (by decide)
    rw [asked?_of_plain hquery hfragment hstem hplain]
    simp [meant, hamp, hhash, percentDecode_eq_iff]
  | some c =>
    obtain ⟨hends, before, after, rfl, hplain⟩ := List.find?_eq_some_iff_append.1 hfirst
    constructor
    · intro hasks
      -- what is asked for is shorter than the name, because decoding makes nothing longer
      obtain ⟨more, hmore⟩ := asked?_of_ends hquery hfragment hstem (by simpa using hplain) hends
      rw [hmore] at hasks
      have hvalue : percentDecode before = utf8 (before ++ c :: after) :=
        congrArg Prod.snd (List.cons.inj (Option.some.inj hasks)).1
      have hle := length_percentDecode_le before
      have hlt := length_utf8_lt_append before (List.cons_ne_nil c after)
      rw [hvalue] at hle
      omega
    · rintro ⟨hamp, hhash, -⟩
      rcases Bool.or_eq_true_iff.1 hends with hc | hc
      · obtain rfl := of_decide_eq_true hc
        exact absurd (by simp) hamp
      · obtain rfl := of_decide_eq_true hc
        exact absurd (by simp) hhash

/-- A name with an equals sign, a question mark, a percent sign that begins no escape, and two dots at its end. -/
theorem asks_for_name_with_marks :
    '?' ∉ "https://dns.example.net/q".toList ∧ '#' ∉ "https://dns.example.net/q".toList ∧
      IsStem (· == '.') "txt.ü=1?a%4g..".toList "txt.ü=1?a%4g".toList ∧
      asked? (queryUrl "https://dns.example.net/q" "txt.ü=1?a%4g..").toList = some (meant "txt.ü=1?a%4g".toList) := by
  have hquery : '?' ∉ "https://dns.example.net/q".toList := by decide
  have hfragment : '#' ∉ "https://dns.example.net/q".toList := by decide
  have hstem : IsStem (· == '.') "txt.ü=1?a%4g..".toList "txt.ü=1?a%4g".toList := dropTrailing_eq_iff.1 (by decide)
  exact ⟨hquery, hfragment, hstem, (asks_for_name_iff hquery hfragment hstem).2 (by decide)⟩

/-- **A token of a TXT record puts a parameter of its own into the query**: the chain goes on to the name that it read in
the record of the region, and the service is asked for another name and another type. -/
theorem asks_for_another_name :
    (Discovery.Records.run [("txt.us-east-1.e.net", .ok ["us-east-1a.e.net&type=A"])]
      ((Discovery.Source.records (.forDomain "e.net") none).urls "us-east-1a")).2 =
        ["txt.us-east-1.e.net", "txt.us-east-1a.e.net&type=A"] ∧
    asked? (queryUrl "https://dns.example.net/q" "txt.us-east-1a.e.net&type=A").toList =
      some [(utf8 "name".toList, utf8 "txt.us-east-1a.e.net".toList), (utf8 "type".toList, utf8 "A".toList),
        (utf8 "type".toList, utf8 "TXT".toList)] ∧
    asked? (queryUrl "https://dns.example.net/q" "txt.us-east-1a.e.net&type=A").toList ≠
      some (meant "txt.us-east-1a.e.net&type=A".toList) := by
  refine ⟨rfl, ?_, ?_⟩ <;> decide

end Lookup

end NameService
end Http
end AddressBinder
