import AddressBinder.Proofs.Candidate.Host
import AddressBinder.Proofs.Net.Ipv6
/-!
# The entries that name an address

A host names an address in two spellings (`Names`): as the text of the address, or with the octets between hyphens in its
first label.  An entry decodes to an address exactly when its host names it; any other entry is malformed, an IPv6
address among them, and the failure carries the entry as it was (`decode_grammar`).
-/
namespace AddressBinder
namespace Candidate

open Text

/-- The octets of an address with hyphens between them. -/
def hyphened (ip : Ipv4) : List Char := join ['-'] ip.numerals

/-- A host names an address: it is its text, or the first label spells the octets after a first part, with nothing or a
hyphen and anything behind them. -/
inductive Names : List Char → Ipv4 → Prop where
  | literal (ip : Ipv4) : Names ip.chars ip
  | internal {host first more : List Char} {ip : Ipv4} (hfirst : '-' ∉ first) (hmore : ∀ c ∈ more.head?, c = '-')
      (hlabel : host.takeWhile (· != '.') = first ++ '-' :: hyphened ip ++ more) : Names host ip

/-- The cloud-internal name of an address. -/
def internalName (ip : Ipv4) : String := String.ofList ("ip-".toList ++ hyphened ip)

variable {host : List Char} {entry : String} {ip : Ipv4}

/-! ## Internal names -/

theorem join_cons_hyphened (first : List Char) (ip : Ipv4) :
    join ['-'] (first :: ip.numerals) = first ++ '-' :: hyphened ip := by
  rw [join_cons first ip.numerals_ne_nil, List.append_assoc, List.singleton_append]
  rfl

theorem ofInternalName_eq_ok : ofInternalName host = .ok ip ↔
    ∃ first others, splitAt '-' (host.takeWhile (· != '.')) = (first :: ip.numerals) ++ others := by
  constructor
  · intro h
    unfold ofInternalName at h
    split at h
    · rename_i first a b c d others hsplit
      split at h
      · rename_i ip' hoctets
        obtain rfl := Except.ok.inj h
        refine ⟨first, others, ?_⟩
        rw [hsplit, ← Ipv4.ofOctets?_eq_some.1 hoctets]
        rfl
      · cases h
    · cases h
  · rintro ⟨first, others, hsplit⟩
    have hoctets : Ipv4.ofOctets? ip.numerals = some ip := Ipv4.ofOctets?_eq_some.2 rfl
    unfold ofInternalName
    rw [hsplit]
    simp only [Ipv4.numerals, Ipv4.octets, List.map_cons, List.map_nil, List.cons_append, List.nil_append] at hoctets ⊢
    rw [hoctets]

theorem names_of_ofInternalName (h : ofInternalName host = .ok ip) : Names host ip := by
  obtain ⟨first, others, hsplit⟩ := ofInternalName_eq_ok.1 h
  have hpieces : ∀ piece ∈ first :: ip.numerals, '-' ∉ piece := by
    intro piece hpiece
    refine splitAt_no_sep '-' (host.takeWhile (· != '.')) piece ?_
    rw [hsplit]
    exact List.mem_append_left _ hpiece
  obtain ⟨more, hlabel, hmore⟩ := (exists_splitAt_eq_append (List.cons_ne_nil _ _) hpieces).1 ⟨others, hsplit⟩
  refine .internal (hpieces first List.mem_cons_self) hmore ?_
  rw [hlabel, join_cons_hyphened]

theorem ofInternalName_of_label {first more : List Char} (hfirst : '-' ∉ first) (hmore : ∀ c ∈ more.head?, c = '-')
    (hlabel : host.takeWhile (· != '.') = first ++ '-' :: hyphened ip ++ more) : ofInternalName host = .ok ip := by
  have hpieces : ∀ piece ∈ first :: ip.numerals, '-' ∉ piece :=
    List.forall_mem_cons.2 ⟨hfirst, Ipv4.notMem_of_mem_numerals (by decide)⟩
  have hjoin : join ['-'] (first :: ip.numerals) = first ++ '-' :: hyphened ip := join_cons_hyphened first ip
  obtain ⟨others, hsplit⟩ := (exists_splitAt_eq_append (List.cons_ne_nil _ _) hpieces).2 ⟨more, hjoin ▸ hlabel, hmore⟩
  exact ofInternalName_eq_ok.2 ⟨first, others, hsplit⟩

/-! ## Hosts -/

theorem notMem_chars {c : Char} (hdot : c ≠ '.') (hdigit : c.isDigit = false) : c ∉ ip.chars := by
  intro hmem
  rcases mem_join hmem with hc | ⟨piece, hpiece, hc⟩
  · exact hdot (List.mem_singleton.1 hc)
  · exact Ipv4.notMem_of_mem_numerals hdigit piece hpiece hc

theorem parse?_eq_none {c : Char} (hdot : c ≠ '.') (hdigit : c.isDigit = false) (hc : c ∈ host) :
    Ipv4.parse? host = none := by
  refine Option.eq_none_iff_forall_ne_some.2 fun ip h => ?_
  obtain rfl := Ipv4.parse?_eq_some.1 h
  exact notMem_chars hdot hdigit hc

theorem ofHost_of_isLiteral (h : Ipv6.IsLiteral host) : ofHost host = .error .ipv6Host := by
  unfold ofHost
  rw [parse?_eq_none (by decide) (by decide) h.colon_mem]
  simp only [Ipv6.isText_iff.2 h, if_true]

/-- **A host decodes to the address that it names.** -/
theorem ofHost_eq_ok : ofHost host = .ok ip ↔ Names host ip := by
  constructor
  · intro h
    unfold ofHost at h
    split at h
    · rename_i ip' hparse
      obtain rfl := Except.ok.inj h
      rw [Ipv4.parse?_eq_some.1 hparse]
      exact .literal ip'
    · split at h
      · cases h
      · exact names_of_ofInternalName h
  · intro h
    cases h with
    | literal =>
      unfold ofHost
      rw [Ipv4.parse?_chars]
    | @internal _ first more _ hfirst hmore hlabel =>
      have hhyphen : '-' ∈ host := by
        have hmem : '-' ∈ host.takeWhile (· != '.') := by
          rw [hlabel]
          simp
        exact (List.takeWhile_prefix _).subset hmem
      have hnot : ¬ Ipv6.isText host = true := fun htext => (Ipv6.isText_iff.1 htext).hyphen_notMem hhyphen
      unfold ofHost
      rw [parse?_eq_none (by decide) (by decide) hhyphen]
      simp only [if_neg hnot]
      exact ofInternalName_of_label hfirst hmore hlabel

/-! ## Entries -/

theorem decode_eq_ok : decode entry = .ok ip ↔ ∃ host, Host.ofEntry entry.toList = some host ∧ Names host ip := by
  unfold decode ofEntry
  cases hhost : Host.ofEntry entry.toList with
  | none => simp
  | some host =>
    simp only [Option.some.injEq, exists_eq_left', ← ofHost_eq_ok]
    cases ofHost host <;> simp

theorem decode_eq_error (hnot : ∀ ip, decode entry ≠ .ok ip) :
    ∃ fault, decode entry = .error (.malformedCandidate entry (Fault.reason fault)) := by
  unfold decode at hnot ⊢
  cases h : ofEntry entry.toList with
  | ok ip => exact absurd (by rw [h]) (hnot ip)
  | error fault => exact ⟨fault, rfl⟩

theorem isName_of_forall (hne : host ≠ []) (h : ∀ c ∈ host, c.isDigit = true ∨ c ∈ ['.', '-', 'i', 'p']) :
    Host.IsName host := by
  have hdigits : ∀ d < 10, isBlank d.digitChar = false ∧ d.digitChar ∉ Host.reserved := by decide
  have hmarks : ∀ c ∈ ['.', '-', 'i', 'p'], isBlank c = false ∧ c ∉ Host.reserved :=
    forall_mem_of_all (by decide)
  have hall : ∀ c ∈ host, isBlank c = false ∧ c ∉ Host.reserved := by
    intro c hc
    rcases h c hc with hdigit | hmark
    · obtain ⟨d, hd, rfl⟩ := exists_digitChar_of_isDigit hdigit
      exact hdigits d hd
    · exact hmarks c hmark
  exact ⟨⟨hne, fun c hc => (hall c hc).1⟩, fun c hc => (hall c hc).2⟩

theorem isDigit_or_of_mem_join {sep c : Char} (h : c ∈ join [sep] ip.numerals) : c.isDigit = true ∨ c = sep := by
  rcases mem_join h with hc | ⟨piece, hpiece, hc⟩
  · exact .inr (List.mem_singleton.1 hc)
  · exact .inl (Ipv4.isDigit_of_mem_numerals hpiece hc)

theorem ofEntry_chars (ip : Ipv4) : Host.ofEntry ip.chars = some ip.chars := by
  refine (isName_of_forall (List.ne_nil_of_mem ip.dot_mem_chars) fun c hc => ?_).ofEntry_self
  rcases isDigit_or_of_mem_join hc with hdigit | rfl
  · exact .inl hdigit
  · exact .inr (by decide)

theorem ofEntry_internalName (ip : Ipv4) :
    Host.ofEntry ("ip-".toList ++ hyphened ip) = some ("ip-".toList ++ hyphened ip) := by
  refine (isName_of_forall (List.append_ne_nil_of_left_ne_nil (by decide) _) fun c hc => ?_).ofEntry_self
  rcases List.mem_append.1 hc with hc | hc
  · have hletters : "ip-".toList ⊆ ['.', '-', 'i', 'p'] := by decide
    exact .inr (hletters hc)
  · rcases isDigit_or_of_mem_join hc with hdigit | rfl
    · exact .inl hdigit
    · exact .inr (by decide)

theorem names_internalName (ip : Ipv4) : Names ("ip-".toList ++ hyphened ip) ip := by
  have hdots : ∀ c ∈ "ip-".toList ++ hyphened ip, (c != '.') = true := by
    have hletters : ∀ c ∈ "ip-".toList, (c != '.') = true := forall_mem_of_all (by decide)
    refine List.forall_mem_append.2 ⟨hletters, fun c hc => ?_⟩
    rcases isDigit_or_of_mem_join hc with hdigit | rfl
    · have hne : c ≠ '.' := by
        rintro rfl
        cases hdigit
      simpa using hne
    · decide
  have hwhole : ("ip-".toList ++ hyphened ip).takeWhile (· != '.') = "ip-".toList ++ hyphened ip := by
    rw [← List.append_nil ("ip-".toList ++ hyphened ip), List.takeWhile_append_of_pos hdots, List.takeWhile_nil]
  have hlabel : ("ip-".toList ++ hyphened ip).takeWhile (· != '.') = "ip".toList ++ '-' :: hyphened ip ++ [] := by
    rw [hwhole, List.append_nil]
    rfl
  exact .internal (by decide) (fun c hc => by cases hc) hlabel

theorem decode_toString (ip : Ipv4) : decode (toString ip) = .ok ip := by
  have hchars : (toString ip).toList = ip.chars := String.toList_ofList
  refine decode_eq_ok.2 ⟨ip.chars, ?_, .literal ip⟩
  rw [hchars]
  exact ofEntry_chars ip

theorem decode_internalName (ip : Ipv4) : decode (internalName ip) = .ok ip := by
  have hchars : (internalName ip).toList = "ip-".toList ++ hyphened ip := String.toList_ofList
  refine decode_eq_ok.2 ⟨"ip-".toList ++ hyphened ip, ?_, names_internalName ip⟩
  rw [hchars]
  exact ofEntry_internalName ip

/-- **An entry decodes to the address that its host names**, and any other is malformed, an IPv6 address too, and is
named as it was; both spellings of every address are read. -/
theorem decode_grammar :
    (∀ entry ip, decode entry = .ok ip ↔ ∃ host, Host.ofEntry entry.toList = some host ∧ Names host ip) ∧
    (∀ entry, (∃ ip, decode entry = .ok ip) ∨ ∃ fault, decode entry = .error (.malformedCandidate entry (Fault.reason fault))) ∧
    (∀ entry host, Host.ofEntry entry.toList = some host → Ipv6.IsLiteral host →
      decode entry = .error (.malformedCandidate entry Fault.ipv6Host.reason)) ∧
    ∀ ip, decode (toString ip) = .ok ip ∧ decode (internalName ip) = .ok ip := by
  refine ⟨fun _ _ => decode_eq_ok, fun entry => ?_, fun entry host hhost hliteral => ?_, fun ip => ⟨?_, ?_⟩⟩
  · by_cases hread : ∃ ip, decode entry = .ok ip
    · exact .inl hread
    · exact .inr (decode_eq_error fun ip h => hread ⟨ip, h⟩)
  · unfold decode ofEntry
    rw [hhost]
    dsimp only
    rw [ofHost_of_isLiteral hliteral]
  · exact decode_toString ip
  · exact decode_internalName ip

/-- An address of the pool that is written as an IPv6 address. -/
theorem decode_grammar_mapped :
    Host.ofEntry "https://[::ffff:10.0.1.4]:443/".toList = some "::ffff:10.0.1.4".toList ∧
    Ipv6.IsLiteral "::ffff:10.0.1.4".toList ∧
    decode "https://[::ffff:10.0.1.4]:443/" =
      .error (.malformedCandidate "https://[::ffff:10.0.1.4]:443/" "IPv6 hosts are not valid interface addresses") := by
  have hhost : Host.ofEntry "https://[::ffff:10.0.1.4]:443/".toList = some "::ffff:10.0.1.4".toList := by decide
  have hliteral : Ipv6.IsLiteral "::ffff:10.0.1.4".toList := Ipv6.isText_iff.1 (by decide)
  exact ⟨hhost, hliteral, decode_grammar.2.2.1 _ _ hhost hliteral⟩

end Candidate
end AddressBinder
