import AddressBinder.Daemon.Wiring
import AddressBinder.Proofs.Discovery.Tokens
import AddressBinder.Proofs.Http.Strings
import AddressBinder.Proofs.Program.Serving
import AddressBinder.Proofs.Text.Split
/-!
# How records are packed

Whoever keeps a zone may spread its tokens over answers, over quoted strings with one or more of them in each, and over
bare data.  None of it shows in the tokens that are read (`tokens_of_packs`), so two name services whose answers differ in
nothing else lead to the same service URLs (`packaging_is_irrelevant`).
-/
namespace AddressBinder
namespace Http
namespace NameService

open Text Discovery

/-! ## Packed tokens -/

/-- A token that can be written with quotes around it and without. -/
structure IsToken (t : List Char) : Prop where
  isWord : IsWord t
  unquoted : '"' ∉ t
  unescaped : '\\' ∉ t

/-- Data in which tokens are packed, in their order: some in each quoted string, with blanks between them, and one in each
bare word, which ends at a blank or with the data. -/
inductive Packs : List Char → List (List Char) → Prop where
  | gap {gap : List Char} (hgap : ∀ c ∈ gap, isBlank c = true) : Packs gap []
  | quoted {gap text rest : List Char} {tokens more : List (List Char)} (hgap : ∀ c ∈ gap, isBlank c = true)
      (htext : HasWords text tokens) (h : Packs rest more) : Packs (gap ++ '"' :: (text ++ '"' :: rest)) (tokens ++ more)
  | bare {gap token rest : List Char} {more : List (List Char)} (hgap : ∀ c ∈ gap, isBlank c = true)
      (hrest : ∀ c ∈ rest.head?, isBlank c = true) (h : Packs rest more) : Packs (gap ++ (token ++ rest)) (token :: more)

/-- The TXT records among the entries of an answer carry tokens; entries of other types stand anywhere between them. -/
inductive Carries : List Entry → List (List Char) → Prop where
  | nil : Carries [] []
  | other {e : Entry} {es : List Entry} {tokens : List (List Char)} (htype : e.type ≠ txtType) (h : Carries es tokens) :
      Carries (e :: es) tokens
  | txt {e : Entry} {es : List Entry} {tokens more : List (List Char)} (htype : e.type = txtType)
      (hdata : Packs e.data.toList tokens) (h : Carries es more) : Carries (e :: es) (tokens ++ more)

/-- The body of an answer without an error that carries tokens. -/
structure Packaged (body : String) (tokens : List (List Char)) : Prop where
  areTokens : ∀ t ∈ tokens, IsToken t
  reply : ∃ r, (Json.ofText? body).bind Reply.ofJson? = some r ∧ r.status = 0 ∧ Carries r.entries tokens

variable {text data name body : String} {tokens : List (List Char)} {entries : List Entry}

theorem IsToken.isBare {t : List Char} (h : IsToken t) : IsBare t where
  isWord := h.isWord
  unquoted := by
    rintro c hc rfl
    exact h.unquoted (List.mem_of_head? hc)

theorem spells_of_plain : ∀ {text : List Char}, '"' ∉ text → '\\' ∉ text → Spells text text
  | [], _, _ => .nil
  | c :: text, hquote, hback => by
    obtain ⟨hc, htext⟩ := List.ne_and_not_mem_of_not_mem_cons hquote
    obtain ⟨hc', htext'⟩ := List.ne_and_not_mem_of_not_mem_cons hback
    exact .plain (Ne.symm hc) (Ne.symm hc') (spells_of_plain htext htext')

theorem notMem_of_hasWords {text : List Char} {tokens : List (List Char)} {c : Char} (h : HasWords text tokens)
    (hblank : isBlank c = false) (htokens : ∀ t ∈ tokens, c ∉ t) : c ∉ text := by
  intro hc
  rcases h.mem hc with hc | ⟨t, ht, hc⟩
  · rw [hblank] at hc
    cases hc
  · exact htokens t ht hc

/-- The strings of packed data, and the tokens that are the words of each. -/
theorem exists_holds_of_packs {data : List Char} {tokens : List (List Char)} (h : Packs data tokens)
    (htokens : ∀ t ∈ tokens, IsToken t) :
    ∃ strings lines, Holds data strings ∧ List.Forall₂ HasWords strings lines ∧ lines.flatten = tokens := by
  induction h with
  | gap hgap => exact ⟨[], [], .gap hgap, .nil, rfl⟩
  | @quoted gap text rest tokens more hgap htext _ ih =>
    obtain ⟨hfirst, hmore⟩ := List.forall_mem_append.1 htokens
    obtain ⟨strings, lines, hholds, hlines, rfl⟩ := ih hmore
    have hquote : '"' ∉ text := notMem_of_hasWords htext (by decide) fun t ht => (hfirst t ht).unquoted
    have hback : '\\' ∉ text := notMem_of_hasWords htext (by decide) fun t ht => (hfirst t ht).unescaped
    exact ⟨text :: strings, tokens :: lines, .quoted hgap (spells_of_plain hquote hback) hholds, .cons htext hlines, rfl⟩
  | @bare gap token rest more hgap hrest _ ih =>
    obtain ⟨hfirst, hmore⟩ := List.forall_mem_cons.1 htokens
    obtain ⟨strings, lines, hholds, hlines, rfl⟩ := ih hmore
    exact ⟨token :: strings, [token] :: lines, .bare hfirst.isBare hgap hrest hholds, .cons (.last hfirst.isWord) hlines, rfl⟩

/-- **The words of a record are the tokens that are packed in its data.** -/
theorem hasWords_recordText (h : Packs data.toList tokens) (htokens : ∀ t ∈ tokens, IsToken t) :
    HasWords (recordText data).toList tokens := by
  obtain ⟨strings, lines, hholds, hlines, rfl⟩ := exists_holds_of_packs h htokens
  unfold recordText
  rw [characterStrings_of_holds hholds, String.toList_ofList]
  exact hasWords_join (by decide) hlines

theorem standFor_of_isToken : ∀ {tokens : List (List Char)}, (∀ t ∈ tokens, IsToken t) → StandFor tokens tokens
  | [], _ => .nil
  | t :: tokens, h => by
    obtain ⟨ht, htokens⟩ := List.forall_mem_cons.1 h
    have hnone : ∀ c ∈ ([] : List Char), (c == '"') = true := fun _ hc => absurd hc List.not_mem_nil
    have htrimmed : IsTrimmed (· == '"') t := by
      refine isTrimmed_of_forall fun c hc => ?_
      rw [beq_eq_false_iff_ne]
      rintro rfl
      exact ht.unquoted hc
    have hstand := StandFor.name ht.isWord.1 htrimmed hnone hnone (standFor_of_isToken htokens)
    rwa [List.nil_append, List.append_nil] at hstand

/-- The records in an answer and the lines of tokens in them. -/
theorem exists_lines_of_carries (h : Carries entries tokens) (htokens : ∀ t ∈ tokens, IsToken t) :
    ∃ lines, List.Forall₂ (fun (record : String) line => HasWords record.toList line)
      ((entries.filter fun e => e.type == txtType).map fun e => recordText e.data) lines ∧ lines.flatten = tokens := by
  induction h with
  | nil => exact ⟨[], .nil, rfl⟩
  | other htype _ ih =>
    rw [List.filter_cons_of_neg (by simpa using htype)]
    exact ih htokens
  | @txt e es tokens more htype hdata _ ih =>
    obtain ⟨hfirst, hmore⟩ := List.forall_mem_append.1 htokens
    obtain ⟨lines, hlines, rfl⟩ := ih hmore
    rw [List.filter_cons_of_pos (by simpa using htype), List.map_cons]
    exact ⟨tokens :: lines, .cons (hasWords_recordText hdata hfirst) hlines, rfl⟩

/-- **What is read of an answer is the tokens that it carries**, however they are packed. -/
theorem tokens_of_packaged (name : String) (h : Packaged body tokens) :
    ∃ texts, records name body = .ok texts ∧ Discovery.tokens texts = tokens := by
  obtain ⟨r, hread, hstatus, hcarries⟩ := h.reply
  obtain ⟨lines, hlines, rfl⟩ := exists_lines_of_carries hcarries h.areTokens
  refine ⟨_, ?_, tokens_eq_iff.2 ⟨lines, hlines, standFor_of_isToken h.areTokens⟩⟩
  simp only [records, hread, recordsOf, hstatus, if_true]

/-! ## Lookups -/

/-- Two answers to one request that differ at most in how the tokens in them are packed. -/
inductive Repackaged : Except String Response → Except String Response → Prop where
  | same (r : Except String Response) : Repackaged r r
  | packed {r r' : Response} {tokens : List (List Char)} (hr : isSuccess r.status = true) (hr' : isSuccess r'.status = true)
      (h : Packaged r.body tokens) (h' : Packaged r'.body tokens) : Repackaged (.ok r) (.ok r')

theorem tokens_of_repackaged (name : String) {r r' : Except String Response} (h : Repackaged r r') :
    (recordsIn name r).map Discovery.tokens = (recordsIn name r').map Discovery.tokens := by
  cases h with
  | same r => rfl
  | packed hr hr' h h' =>
    obtain ⟨texts, hread, htokens⟩ := tokens_of_packaged name h
    obtain ⟨texts', hread', htokens'⟩ := tokens_of_packaged name h'
    simp only [recordsIn, hr, hr', if_true, hread, hread', Except.map, htokens, htokens']

end NameService
end Http

namespace Discovery

section Lookups

variable {S β : Type} {settings : DnsSettings} {serve serve' : (r : lookup.Request) → S → lookup.Reply r × S}

/-- Two ways to answer lookups that list the same tokens, or fail alike, and go on alike. -/
def SameTokens (serve serve' : (r : lookup.Request) → S → lookup.Reply r × S) : Prop :=
  ∀ name s, Except.map tokens (serve name s).1 = Except.map tokens (serve' name s).1 ∧ (serve name s).2 = (serve' name s).2

theorem run_lookup_congr (h : SameTokens serve serve') {f : List String → Program lookup (Except Error β)}
    (hf : ∀ records records' s, tokens records = tokens records' →
      (f records).run serve s = (f records').run serve' s) (name : lookup.Request) (s : S) :
    ((Program.request (σ := lookup) name).andThen f).run serve s =
      ((Program.request (σ := lookup) name).andThen f).run serve' s := by
  obtain ⟨htokens, hstate⟩ := h name s
  refine (Program.run_andThen serve _ f s).trans (Eq.trans ?_ (Program.run_andThen serve' _ f s).symm)
  simp only [Program.request, Program.run]
  cases hserve : serve name s with
  | mk r t =>
    cases hserve' : serve' name s with
    | mk r' t' =>
      rw [hserve, hserve'] at htokens hstate
      obtain rfl : t = t' := hstate
      cases r with
      | error e =>
        cases r' with
        | error e' =>
          obtain rfl : e = e' := by simpa [Except.map] using htokens
          rfl
        | ok records' => cases htokens
      | ok records =>
        cases r' with
        | error e' => cases htokens
        | ok records' => exact hf records records' t (by simpa [Except.map] using htokens)

theorem run_zoneUrls_congr (h : SameTokens serve serve') : ∀ (names : List (List Char)) (s : S),
    (zoneUrls settings names).run serve s = (zoneUrls settings names).run serve' s
  | [], _ => rfl
  | name :: names, s => by
    rw [zoneUrls]
    refine run_lookup_congr h (fun records records' t htokens => ?_) (zoneRecord name) s
    rw [Program.run_andThen, Program.run_andThen, run_zoneUrls_congr h names t, htokens]
    rcases (zoneUrls settings names).run serve' t with ⟨_ | urls, u⟩ <;> rfl

/-- **A source lists the same URLs when its lookups list the same tokens.** -/
theorem run_urls_congr (h : SameTokens serve serve') (source : Source) (zone : String) (s : S) :
    (source.urls zone).run serve s = (source.urls zone).run serve' s := by
  cases source with
  | static urls => rfl
  | records settings region =>
    refine run_lookup_congr h (fun records records' t htokens => ?_) _ s
    rw [htokens]
    exact run_zoneUrls_congr h _ t

end Lookups

end Discovery

namespace Daemon

open Http Http.NameService Text

section Sites

variable {S : Type} {serve serve' : (r : Daemon.Request) → S → r.Reply × S}

/-- Two ways to answer the daemon's requests that differ at most in how tokens are packed, and go on alike. -/
def SameAnswers (serve serve' : (r : Daemon.Request) → S → r.Reply × S) : Prop :=
  ∀ request s, Repackaged (serve (.http request) s).1 (serve' (.http request) s).1 ∧
    (serve (.http request) s).2 = (serve' (.http request) s).2

theorem sameTokens_lookupRecords (h : SameAnswers serve serve') (w : Wiring) : Discovery.SameTokens
    (fun name s => (lookupRecords w name).run serve s) (fun name s => (lookupRecords w name).run serve' s) := by
  intro name s
  unfold lookupRecords
  cases w.resolver with
  | none => exact ⟨rfl, rfl⟩
  | some endpoint =>
    obtain ⟨hreply, hstate⟩ := h ⟨.get, queryUrl endpoint name, [(.accept, "application/dns-json")]⟩ s
    exact ⟨tokens_of_repackaged name hreply, hstate⟩

/-- **How tokens are packed is irrelevant.** The tokens of an answer are those that it carries, and so name services whose
answers differ in their packaging only give the same service URLs for every zone, with the same requests on the way. -/
theorem packaging_is_irrelevant :
    (∀ name body tokens, Packaged body tokens →
      ∃ texts, records name body = .ok texts ∧ Discovery.tokens texts = tokens) ∧
    ∀ {S : Type} (serve serve' : (r : Daemon.Request) → S → r.Reply × S), SameAnswers serve serve' →
      ∀ (w : Wiring) (zone : String) (s : S), (listUrls w zone).run serve s = (listUrls w zone).run serve' s := by
  refine ⟨fun name _ _ h => tokens_of_packaged name h, fun serve serve' h w zone s => ?_⟩
  have hrun := Program.run_translate (σ := lookup) (τ := daemon) serve (lookupRecords w) (w.source.urls zone) s
  have hrun' := Program.run_translate (σ := lookup) (τ := daemon) serve' (lookupRecords w) (w.source.urls zone) s
  exact hrun.trans ((Discovery.run_urls_congr (sameTokens_lookupRecords h w) w.source zone s).trans hrun'.symm)

/-- Two tokens in one quoted string. -/
def together : String := "\x7b\"Status\":0,\"Answer\":[\x7b\"type\":16,\"data\":\"\\\"us-east-1a  h\\\"\"\x7d]\x7d"

/-- The same tokens in two records, one of them bare and one behind an empty string, with an alias between them. -/
def apart : String :=
  "\x7b\"Answer\":[\x7b\"data\":\" us-east-1a\",\"type\":16\x7d,\x7b\"data\":\"e.net.\",\"type\":5\x7d," ++
    "\x7b\"data\":\"\\\"\\\"\\\"h \\\"\",\"type\":16\x7d],\"Status\":0\x7d"

def hostAndZone : List (List Char) := ["us-east-1a".toList, "h".toList]

theorem isToken_of_mem_hostAndZone : ∀ t ∈ hostAndZone, IsToken t := by
  have hzone : IsToken "us-east-1a".toList := ⟨by decide, by decide, by decide⟩
  have hhost : IsToken "h".toList := ⟨by decide, by decide, by decide⟩
  simp only [hostAndZone, List.forall_mem_cons]
  exact ⟨hzone, hhost, nofun⟩

theorem packaged_together : Packaged together hostAndZone where
  areTokens := isToken_of_mem_hostAndZone
  reply := by
    have hnone : ∀ c ∈ ([] : List Char), isBlank c = true := fun _ hc => absurd hc List.not_mem_nil
    have hwords : HasWords "us-east-1a  h".toList hostAndZone := words_eq_iff.1 (by decide)
    have hdata : Packs "\"us-east-1a  h\"".toList hostAndZone := @Packs.quoted [] _ _ _ _ hnone hwords (.gap hnone)
    exact ⟨⟨0, [⟨16, "\"us-east-1a  h\""⟩]⟩, by decide +kernel, rfl, .txt (e := ⟨16, _⟩) rfl hdata .nil⟩

theorem packaged_apart : Packaged apart hostAndZone where
  areTokens := isToken_of_mem_hostAndZone
  reply := by
    have hnone : ∀ c ∈ ([] : List Char), isBlank c = true := fun _ hc => absurd hc List.not_mem_nil
    have hblank : ∀ c ∈ [' '], isBlank c = true := forall_mem_of_all (by decide)
    have hhost : HasWords "h ".toList ["h".toList] := words_eq_iff.1 (by decide)
    have hdata : Packs " us-east-1a".toList ["us-east-1a".toList] :=
      @Packs.bare [' '] "us-east-1a".toList [] [] hblank nofun (.gap hnone)
    have hdata' : Packs "\"\"\"h \"".toList ["h".toList] :=
      @Packs.quoted [] [] _ [] _ hnone .nil (@Packs.quoted [] _ [] _ [] hnone hhost (.gap hnone))
    have halias : Carries [⟨5, "e.net."⟩, ⟨16, "\"\"\"h \""⟩] ["h".toList] :=
      .other (e := ⟨5, _⟩) (by decide) (.txt (e := ⟨16, _⟩) rfl hdata' .nil)
    exact ⟨⟨0, [⟨16, " us-east-1a"⟩, ⟨5, "e.net."⟩, ⟨16, "\"\"\"h \""⟩]⟩, by decide +kernel, rfl,
      .txt (e := ⟨16, _⟩) rfl hdata halias⟩

/-- A name service that answers every lookup with the same body. -/
def answering (body : String) : (r : Daemon.Request) → Unit → r.Reply × Unit
  | .provider call, () => ((Cloud.serve call Cloud.empty).1, ())
  | .http _, () => (.ok ⟨200, body⟩, ())

theorem packaging_is_irrelevant_to_alias : Packaged together hostAndZone ∧ Packaged apart hostAndZone ∧
    SameAnswers (answering together) (answering apart) ∧
    (listUrls ⟨.fixed ⟨"i-1", "us-east-1a"⟩, .records (.forDomain "e.net") none, some "https://dns.example.net/q"⟩
        "us-east-1a").run (answering together) () =
      (listUrls ⟨.fixed ⟨"i-1", "us-east-1a"⟩, .records (.forDomain "e.net") none, some "https://dns.example.net/q"⟩
        "us-east-1a").run (answering apart) () := by
  have hrepackaged : Repackaged (.ok ⟨200, together⟩) (.ok ⟨200, apart⟩) :=
    .packed rfl rfl packaged_together packaged_apart
  have hsame : SameAnswers (answering together) (answering apart) := fun _ _ => ⟨hrepackaged, rfl⟩
  exact ⟨packaged_together, packaged_apart, hsame, packaging_is_irrelevant.2 _ _ hsame _ _ ()⟩

end Sites

end Daemon
end AddressBinder
