import AddressBinder.Proofs.Candidate.Bare
/-!
# Hosts that stand in entries

A host name written by itself, and the same name in a URL with a port and any path: the entries have the same host, so
they name the same candidate address or fail for the same reason (`ofEntry_url`).
-/
namespace AddressBinder
namespace Host

open Text

/-- The characters that mean something beside a host: quotes and commas in a list, and those that part a URL. -/
def reserved : List Char := ['"', ',', '/', '?', '#', '@', ':', '[']

/-- Whether a text is a host name: not empty, without blanks and reserved characters. -/
def IsName (host : List Char) : Prop := IsWord host ∧ ∀ c ∈ host, c ∉ reserved

instance (host : List Char) : Decidable (IsName host) :=
  decidable_of_iff (IsWord host ∧ host.all (fun c => c ∉ reserved) = true) (by simp [IsName])

variable {host : List Char}

theorem IsName.notMem (h : IsName host) {c : Char} (hc : c ∈ reserved) : c ∉ host := fun hmem => h.2 c hmem hc

theorem IsName.avoids (h : IsName host) {marks : List Char} (hmarks : marks ⊆ reserved) : Avoids marks host :=
  fun _ hc => h.notMem (hmarks hc)

theorem IsName.head?_ne (h : IsName host) : host.head? ≠ some '[' :=
  fun hopen => h.notMem (by decide) (List.mem_of_head? hopen)

theorem IsName.allowed (h : IsName host) : Form.plain.Allows host := ⟨h.1, h.avoids (by decide), fun _ => h.head?_ne⟩

/-- **A host name is an entry with itself for a host.** -/
theorem IsName.ofEntry_self (h : IsName host) : ofEntry host = some host := by
  have htext : (BareEntry.alone h.allowed).text = host := by
    show host ++ [] ++ [] = host
    rw [List.append_nil, List.append_nil]
  have hhost : ofEntry (BareEntry.alone h.allowed).text = some host :=
    (BareEntry.alone h.allowed).ofEntry_of_unmarked (by simp [BareEntry.alone])
  rwa [htext] at hhost

/-- The URL of a host with a port and what follows the slash after it. -/
def url (host : List Char) (port : Nat) (path : List Char) : List Char :=
  "http://".toList ++ host ++ ':' :: numeral port ++ '/' :: path

theorem numeral_avoids (port : Nat) : Avoids ('@' :: delimiters) (numeral port) := fun c hc =>
  avoids_of_isDigit (fun _ hmem => isDigit_of_mem_numeral hmem) c
    (List.cons_subset_cons '@' (List.subset_cons_self ':' delimiters) hc)

/-- The URL by its parts. -/
def IsName.fullUrl (h : IsName host) (port : Nat) (path : List Char) : FullUrl where
  scheme := "http".toList
  userinfo := none
  form := .plain
  host := host
  port := some (numeral port)
  tail := '/' :: path
  scheme_avoids := by decide
  userinfo_avoids := fun _ hinfo => by cases hinfo
  host_allowed := h.allowed
  port_avoids := fun _ htext => Option.some.inj htext ▸ numeral_avoids port
  tail_begins := fun _ hc => Option.some.inj hc ▸ List.mem_cons_self

theorem IsName.fullUrl_text (h : IsName host) (port : Nat) (path : List Char) :
    (h.fullUrl port path).text = url host port path := by
  have hscheme : "http".toList ++ "://".toList = "http://".toList := by decide
  unfold url
  rw [← hscheme]
  show "http".toList ++ "://".toList ++ [] ++ host ++ ':' :: numeral port ++ '/' :: path = _
  rw [List.append_nil]

/-- **The host of a URL is the name in it**, whatever the path is. -/
theorem IsName.ofEntry_url (h : IsName host) (port : Nat) (path : List Char) : ofEntry (url host port path) = some host := by
  have hblank : ∀ c ∈ ([] : List Char), isBlank c = true := fun _ hc => absurd hc List.not_mem_nil
  obtain ⟨scheme, rest, hscheme, hrest, htrim⟩ := (h.fullUrl port path).exists_trim_eq hblank hblank
  rw [List.nil_append, List.append_nil, h.fullUrl_text] at htrim
  exact (h.fullUrl port path).ofEntry_of_trim hscheme hrest htrim

end Host
end AddressBinder
