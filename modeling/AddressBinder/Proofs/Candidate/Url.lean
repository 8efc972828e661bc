import AddressBinder.Net.Host
import AddressBinder.Proofs.Text.Split
/-!
# The host of a URL

A URL has a scheme, and then a host with whatever may stand around it: who asks, a port, a path, a query, a fragment.
The host of the entry is the one of the URL (`ofEntry_text`), because each search is made in the part where it can find
nothing else: the authority ends before the tail, so an '@', a ':' or a bracket in the tail does not count, and what is
searched last is behind the last '@' of the authority.
-/
namespace AddressBinder
namespace Host

open Text

/-- The characters that end the authority of a URL. -/
def delimiters : List Char := ['/', '?', '#']

/-- None of some characters stands in a text. -/
def Avoids (marks cs : List Char) : Prop := ∀ c ∈ marks, c ∉ cs

instance (marks cs : List Char) : Decidable (Avoids marks cs) :=
  decidable_of_iff (marks.all (fun c => !cs.contains c) = true) (by simp [Avoids])

/-! ## URLs -/

/-- The ways to write a host in a URL: as it is, or as a literal in brackets. -/
inductive Form where
  | plain
  | bracketed
deriving DecidableEq

/-- The characters that a host of the form may not hold. -/
def Form.excluded : Form → List Char
  | .plain => '@' :: ':' :: delimiters
  | .bracketed => '@' :: ']' :: delimiters

/-- Whether a host can be written in the form.  One that is written as it is does not begin with a bracket. -/
def Form.Allows (form : Form) (host : List Char) : Prop :=
  IsWord host ∧ Avoids form.excluded host ∧ (form = .plain → host.head? ≠ some '[')

instance (form : Form) (host : List Char) : Decidable (form.Allows host) :=
  inferInstanceAs (Decidable (_ ∧ _ ∧ (_ → _)))

def Form.write : Form → List Char → List Char
  | .plain, host => host
  | .bracketed, host => '[' :: host ++ [']']

/-- A URL by its parts. -/
structure FullUrl where
  scheme : List Char
  /-- What stands before an '@', if one does. -/
  userinfo : Option (List Char)
  form : Form
  host : List Char
  /-- What stands after a ':', if one does. -/
  port : Option (List Char)
  tail : List Char
  scheme_avoids : ':' ∉ scheme
  userinfo_avoids : ∀ info ∈ userinfo, Avoids delimiters info
  host_allowed : form.Allows host
  port_avoids : ∀ text ∈ port, Avoids ('@' :: delimiters) text
  tail_begins : ∀ c ∈ tail.head?, c ∈ delimiters

namespace FullUrl

def userText (u : FullUrl) : List Char :=
  match u.userinfo with
  | some info => info ++ ['@']
  | none => []

def portText (u : FullUrl) : List Char :=
  match u.port with
  | some text => ':' :: text
  | none => []

/-- The URL as it is written. -/
def text (u : FullUrl) : List Char :=
  u.scheme ++ "://".toList ++ u.userText ++ u.form.write u.host ++ u.portText ++ u.tail

end FullUrl

/-! ## Each search -/

variable {cs host rest : List Char} {form : Form}

theorem endsAuthority_iff {c : Char} : endsAuthority c = true ↔ c ∈ delimiters := by
  simp [endsAuthority, delimiters, or_assoc]

theorem afterScheme_eq (entry : List Char) : afterScheme entry = (after "://".toList entry).getD entry := by
  unfold afterScheme
  show _ = (after [':', '/', '/'] entry).getD entry
  cases after [':', '/', '/'] entry <;> rfl

theorem authority_append (h : Avoids delimiters cs) (rest : List Char) : authority (cs ++ rest) = cs ++ authority rest := by
  unfold authority
  refine List.takeWhile_append_of_pos fun c hc => ?_
  have hends : endsAuthority c ≠ true := fun hends => h c (endsAuthority_iff.1 hends) hc
  simpa using hends

theorem authority_of_begins (h : ∀ c ∈ cs.head?, c ∈ delimiters) : authority cs = [] := by
  cases cs with
  | nil => rfl
  | cons c cs =>
    have hends : endsAuthority c = true := endsAuthority_iff.2 (h c rfl)
    exact List.takeWhile_cons_of_neg (by simp [hends])

theorem mem_authority_append {c : Char} (h : c ∈ authority cs) : c ∈ authority (cs ++ rest) := by
  unfold authority at h ⊢
  rw [List.takeWhile_append]
  split
  · exact List.mem_append_left _ ((List.takeWhile_prefix _).subset h)
  · exact h

/-- The host before a port is what it is, unless it begins with a bracket. -/
theorem ofHostPort_append (hcolon : ':' ∉ host) (hbracket : host.head? ≠ some '[') (hrest : ∀ c ∈ rest.head?, c = ':') :
    ofHostPort (host ++ rest) = some host := by
  have hport : (host ++ rest).takeWhile (· != ':') = host := by
    refine takeWhile_append_of_head (fun c hc => ?_) fun c hc => ?_
    · have hne : c ≠ ':' := fun he => hcolon (he ▸ hc)
      simpa using hne
    · simpa using hrest c hc
  have hhead : (host ++ rest).head? ≠ some '[' := by
    cases host with
    | nil =>
      intro hopen
      exact absurd (hrest '[' hopen) (by decide)
    | cons c cs => exact hbracket
  unfold ofHostPort
  split
  · rename_i heq
    rw [heq] at hhead
    exact absurd rfl hhead
  · rw [hport]

/-- A host in brackets ends at the first closing one. -/
theorem ofHostPort_bracketed (h : ']' ∉ host) (rest : List Char) : ofHostPort ('[' :: host ++ ']' :: rest) = some host := by
  have hcut : cut ']' (host ++ ']' :: rest) = some (host, rest) := cut_append h rest
  rw [List.cons_append, ofHostPort, hcut]
  rfl

theorem Form.Allows.ofHostPort_write (h : form.Allows host) (hrest : ∀ c ∈ rest.head?, c = ':') :
    ofHostPort (form.write host ++ rest) = some host := by
  cases form with
  | plain => exact ofHostPort_append (h.2.1 ':' (by decide)) (h.2.2 rfl) hrest
  | bracketed =>
    unfold Form.write
    rw [List.append_assoc, List.singleton_append]
    exact ofHostPort_bracketed (h.2.1 ']' (by decide)) rest

/-! ## The searches one after the other -/

/-- What may follow the host of a URL: a port, or a tail, or nothing, and no '@' before the authority ends. -/
def Follows (rest : List Char) : Prop := (∀ c ∈ rest.head?, c = ':' ∨ c ∈ delimiters) ∧ '@' ∉ authority rest

theorem Follows.head?_authority (h : Follows rest) : ∀ c ∈ (authority rest).head?, c = ':' := by
  intro c hc
  cases rest with
  | nil => cases hc
  | cons d ds =>
    rcases h.1 d rfl with rfl | hd
    · exact (Option.some.inj hc).symm
    · have hnone : authority (d :: ds) = [] := authority_of_begins fun e he => Option.some.inj he ▸ hd
      rw [hnone] at hc
      cases hc

/-- What is left of it when its end is cut off may follow the host as well. -/
theorem Follows.of_append (h : Follows (cs ++ rest)) : Follows cs := by
  refine ⟨fun c hc => h.1 c ?_, fun hat => h.2 (mem_authority_append hat)⟩
  rw [List.head?_append, Option.mem_def.1 hc]
  rfl

theorem Form.Allows.avoids_write {mark : Char} (h : form.Allows host) (hmark : mark ∈ '@' :: delimiters) :
    mark ∉ form.write host := by
  have hmarks : ∀ mark ∈ '@' :: delimiters, mark ∈ form.excluded ∧ mark ∉ ['[', ']'] := by
    cases form <;> exact forall_mem_of_all (by decide)
  obtain ⟨hexcluded, hbrackets⟩ := hmarks mark hmark
  have hhost : mark ∉ host := h.2.1 mark hexcluded
  cases form with
  | plain => exact hhost
  | bracketed =>
    have hopen : mark ≠ '[' := fun he => hbrackets (he ▸ List.mem_cons_self)
    have hclose : mark ≠ ']' := fun he => hbrackets (he ▸ List.mem_cons_of_mem _ List.mem_cons_self)
    simp [Form.write, hopen, hhost, hclose]

namespace FullUrl

variable (u : FullUrl)

theorem avoids_userText : Avoids delimiters u.userText := by
  unfold userText
  cases hinfo : u.userinfo with
  | none => exact fun _ _ => List.not_mem_nil
  | some info =>
    intro c hc hmem
    rcases List.mem_append.1 hmem with hmem | hmem
    · exact u.userinfo_avoids info hinfo c hc hmem
    · obtain rfl := List.mem_singleton.1 hmem
      exact absurd hc (by decide)

/-- What stands before the last '@' is dropped. -/
theorem afterLast_userText (hrest : '@' ∉ rest) : afterLast '@' (u.userText ++ rest) = rest := by
  unfold userText
  cases u.userinfo with
  | none => exact afterLast_of_notMem hrest
  | some info =>
    rw [List.append_assoc, List.singleton_append]
    exact afterLast_append hrest info

theorem follows_end : Follows (u.portText ++ u.tail) := by
  have htail : authority u.tail = [] := authority_of_begins u.tail_begins
  unfold portText
  cases hport : u.port with
  | none => exact ⟨fun c hc => .inr (u.tail_begins c hc), by rw [List.nil_append, htail]; exact List.not_mem_nil⟩
  | some text =>
    have havoids := u.port_avoids text hport
    have hauthority : authority (':' :: text ++ u.tail) = ':' :: text := by
      rw [authority_append, htail, List.append_nil]
      intro c hc hmem
      rcases List.mem_cons.1 hmem with rfl | hmem
      · exact absurd hc (by decide)
      · exact havoids c (List.mem_cons_of_mem _ hc) hmem
    refine ⟨fun c hc => .inl (Option.some.inj hc).symm, ?_⟩
    rw [hauthority]
    intro hat
    rcases List.mem_cons.1 hat with hat | hat
    · exact absurd hat (by decide)
    · exact havoids '@' List.mem_cons_self hat

/-- **The host is found once the scheme is off**, before any end. -/
theorem ofEntry_of_afterScheme {entry : List Char} (hrest : Follows rest)
    (hafter : afterScheme (trim entry) = u.userText ++ u.form.write u.host ++ rest) : ofEntry entry = some u.host := by
  have hwrite : Avoids delimiters (u.form.write u.host) := fun c hc =>
    u.host_allowed.avoids_write (List.mem_cons_of_mem _ hc)
  have hauthority : authority (u.userText ++ u.form.write u.host ++ rest) =
      u.userText ++ (u.form.write u.host ++ authority rest) := by
    rw [List.append_assoc, authority_append u.avoids_userText, authority_append hwrite]
  have hat : '@' ∉ u.form.write u.host ++ authority rest := by
    intro hmem
    rcases List.mem_append.1 hmem with hmem | hmem
    · exact u.host_allowed.avoids_write List.mem_cons_self hmem
    · exact hrest.2 hmem
  have hhost : ofHostPort (u.form.write u.host ++ authority rest) = some u.host :=
    u.host_allowed.ofHostPort_write hrest.head?_authority
  unfold ofEntry
  rw [hafter, hauthority, u.afterLast_userText hat, hhost]
  simp [u.host_allowed.1.1]

/-- The host is found behind any scheme. -/
theorem ofEntry_of_trim {entry scheme : List Char} (hscheme : ':' ∉ scheme) (hrest : Follows rest)
    (htrim : trim entry = scheme ++ "://".toList ++ u.userText ++ u.form.write u.host ++ rest) :
    ofEntry entry = some u.host := by
  refine u.ofEntry_of_afterScheme hrest ?_
  have hfound : after "://".toList (scheme ++ "://".toList ++ (u.userText ++ u.form.write u.host ++ rest)) =
      some (u.userText ++ u.form.write u.host ++ rest) := after_append hscheme _
  rw [htrim, afterScheme_eq]
  simp only [List.append_assoc] at hfound ⊢
  rw [hfound, Option.getD_some]

/-! ## Blanks around a URL -/

end FullUrl

theorem Form.Allows.getLast?_write (h : form.Allows host) : ∃ c, (form.write host).getLast? = some c ∧ isBlank c = false := by
  cases form with
  | plain =>
    have hlast : host.getLast? = some (host.getLast h.1.1) := List.getLast?_eq_some_getLast h.1.1
    exact ⟨_, hlast, h.1.2 _ (List.getLast_mem h.1.1)⟩
  | bracketed => exact ⟨']', List.getLast?_concat, by decide⟩

namespace FullUrl

variable (u : FullUrl)

/-- The blanks at the ends of a URL are taken from its scheme and from what follows its host. -/
theorem exists_trim_eq {lead trail : List Char} (hlead : ∀ c ∈ lead, isBlank c = true)
    (htrail : ∀ c ∈ trail, isBlank c = true) : ∃ scheme rest, ':' ∉ scheme ∧ Follows rest ∧
      trim (lead ++ u.text ++ trail) = scheme ++ "://".toList ++ u.userText ++ u.form.write u.host ++ rest := by
  obtain ⟨blanks, hend, hblanks⟩ := eq_dropTrailing_append isBlank (u.portText ++ u.tail)
  have hlast := getLast?_dropTrailing (p := isBlank) (u.portText ++ u.tail)
  generalize dropTrailing isBlank (u.portText ++ u.tail) = rest at hend hlast
  have hfollows : Follows (rest ++ blanks) := hend ▸ u.follows_end
  refine ⟨u.scheme.dropWhile isBlank, rest, fun hc => u.scheme_avoids ?_, hfollows.of_append, ?_⟩
  · exact (List.dropWhile_suffix _).subset hc
  have htext : u.text = u.scheme.takeWhile isBlank ++
      (u.scheme.dropWhile isBlank ++ "://".toList ++ u.userText ++ u.form.write u.host ++ (rest ++ blanks)) := by
    rw [← hend]
    simp only [← List.append_assoc, List.takeWhile_append_dropWhile, text]
  have hsplit : lead ++ u.text ++ trail = (lead ++ u.scheme.takeWhile isBlank) ++
      (u.scheme.dropWhile isBlank ++ "://".toList ++ u.userText ++ u.form.write u.host ++ rest) ++ (blanks ++ trail) := by
    rw [htext]
    simp only [List.append_assoc]
  rw [hsplit]
  refine IsTrimmed.dropEnds_between ⟨fun c hc => ?_, fun c hc => ?_⟩ (fun c hc => ?_) fun c hc => ?_
  · -- the first character is one of the scheme, or the colon after it
    have hfirst := List.head?_dropWhile_not isBlank u.scheme
    cases hs : u.scheme.dropWhile isBlank with
    | nil =>
      rw [hs] at hc
      obtain rfl : ':' = c := Option.some.inj hc
      decide
    | cons d ds =>
      rw [hs] at hc hfirst
      obtain rfl : d = c := Option.some.inj hc
      simpa using hfirst
  · -- the last character is one of what follows the host, or the last one of the host
    rw [Option.mem_def, List.getLast?_append] at hc
    cases hr : rest.getLast? with
    | some d =>
      rw [hr] at hc
      obtain rfl : d = c := Option.some.inj hc
      exact hlast d hr
    | none =>
      obtain ⟨d, hd, hblank⟩ := u.host_allowed.getLast?_write
      rw [hr, Option.none_or, List.getLast?_append, hd] at hc
      obtain rfl : d = c := Option.some.inj hc
      exact hblank
  · rcases List.mem_append.1 hc with hc | hc
    · exact hlead c hc
    · exact List.all_eq_true.1 List.all_takeWhile c hc
  · rcases List.mem_append.1 hc with hc | hc
    · exact hblanks c hc
    · exact htrail c hc

/-- **The host of a URL is its host**, whoever asks, whatever the port is, whatever the tail holds, and with any blanks
around it; a literal comes without its brackets. -/
theorem ofEntry_text {lead trail : List Char} (hlead : ∀ c ∈ lead, isBlank c = true)
    (htrail : ∀ c ∈ trail, isBlank c = true) : ofEntry (lead ++ u.text ++ trail) = some u.host := by
  obtain ⟨scheme, rest, hscheme, hrest, htrim⟩ := u.exists_trim_eq hlead htrail
  exact u.ofEntry_of_trim hscheme hrest htrim

/-- A literal with a user whose name holds an '@', an empty port, and a tail that looks like a URL. -/
def crowded : FullUrl where
  scheme := "https".toList
  userinfo := some "a@b:[c".toList
  form := .bracketed
  host := "fd00::1".toList
  port := some []
  tail := "?q=http://x@10.0.1.4:1/".toList
  scheme_avoids := by decide
  userinfo_avoids := by rintro _ ⟨⟩; decide
  host_allowed := by decide
  port_avoids := by rintro _ ⟨⟩; decide
  tail_begins := by rintro _ ⟨⟩; decide

theorem ofEntry_text_crowded :
    (∀ c ∈ [' ', '\t'], isBlank c = true) ∧ (∀ c ∈ ['\u00a0'], isBlank c = true) ∧
    [' ', '\t'] ++ crowded.text ++ ['\u00a0'] = " \thttps://a@b:[c@[fd00::1]:?q=http://x@10.0.1.4:1/\u00a0".toList ∧
    ofEntry ([' ', '\t'] ++ crowded.text ++ ['\u00a0']) = some "fd00::1".toList := by
  have hlead : ∀ c ∈ [' ', '\t'], isBlank c = true := forall_mem_of_all (by decide)
  have htrail : ∀ c ∈ ['\u00a0'], isBlank c = true := forall_mem_of_all (by decide)
  exact ⟨hlead, htrail, by decide, crowded.ofEntry_text hlead htrail⟩

end FullUrl

end Host
end AddressBinder
