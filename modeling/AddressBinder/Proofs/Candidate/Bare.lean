import AddressBinder.Candidate.Decode
import AddressBinder.Proofs.Candidate.Url
import AddressBinder.Proofs.Text.Numeral
/-!
# The host of an entry without a scheme

A host may be written without a scheme, with a port and a tail or without.  A scheme is looked for in all of the entry
before anything is cut off, so the entry has the host it begins with when its tail holds no "://"; with one the host is
looked for behind it, whatever the entry begins with (`ofEntry_bare`).
-/
namespace AddressBinder
namespace Host

open Text

/-- An entry without a scheme by its parts. -/
structure BareEntry where
  host : List Char
  /-- What stands after a ':', if one does. -/
  port : Option (List Char)
  tail : List Char
  host_allowed : Form.plain.Allows host
  port_digits : ∀ text ∈ port, text ≠ [] ∧ ∀ c ∈ text, c.isDigit = true
  tail_begins : ∀ c ∈ tail.head?, c ∈ delimiters

theorem avoids_of_isDigit {cs : List Char} (h : ∀ c ∈ cs, c.isDigit = true) : Avoids ('@' :: ':' :: delimiters) cs := by
  intro c hc hmem
  have hmarks : ∀ c ∈ '@' :: ':' :: delimiters, c.isDigit = false := forall_mem_of_all (by decide)
  have hno := hmarks c hc
  rw [h c hmem] at hno
  cases hno

theorem isBlank_of_isDigit {c : Char} (h : c.isDigit = true) : isBlank c = false := by
  have hdigits : ∀ d < 10, isBlank d.digitChar = false := by decide
  obtain ⟨d, hd, rfl⟩ := exists_digitChar_of_isDigit h
  exact hdigits d hd

theorem colon_notMem_http : ':' ∉ "http".toList := by decide

theorem avoids_of_mem_none : ∀ info ∈ (none : Option (List Char)), Avoids delimiters info := fun _ hinfo => by cases hinfo

namespace BareEntry

/-- A host alone. -/
def alone {host : List Char} (h : Form.plain.Allows host) : BareEntry where
  host := host
  port := none
  tail := []
  host_allowed := h
  port_digits := fun _ htext => by cases htext
  tail_begins := fun _ hc => by cases hc

variable (b : BareEntry)

/-- The URL of the same host, port and tail. -/
def url : FullUrl where
  scheme := "http".toList
  userinfo := none
  form := .plain
  host := b.host
  port := b.port
  tail := b.tail
  scheme_avoids := colon_notMem_http
  userinfo_avoids := avoids_of_mem_none
  host_allowed := b.host_allowed
  port_avoids := fun text htext c hc => avoids_of_isDigit (b.port_digits text htext).2 c
    (List.cons_subset_cons '@' (List.subset_cons_self ':' delimiters) hc)
  tail_begins := b.tail_begins

/-- What the entry begins with: the host and the port. -/
def start : List Char := b.host ++ b.url.portText

/-- The entry as it is written. -/
def text : List Char := b.start ++ b.tail

theorem isTrimmed_start : IsTrimmed isBlank b.start := by
  refine (isTrimmed_of_forall b.host_allowed.1.2).append b.host_allowed.1.1 fun c hc => ?_
  cases hp : b.port with
  | none =>
    rw [show b.url.portText = [] by simp [FullUrl.portText, url, hp]] at hc
    cases hc
  | some text =>
    obtain ⟨hne, hdigits⟩ := b.port_digits text hp
    rw [show b.url.portText = ':' :: text by simp [FullUrl.portText, url, hp], List.getLast?_cons_of_ne_nil hne] at hc
    exact isBlank_of_isDigit (hdigits c (List.mem_of_getLast? hc))

/-- Only blanks at the end of the tail are dropped. -/
theorem trim_text : trim b.text = b.start ++ dropTrailing isBlank b.tail := by
  obtain ⟨blanks, hend, hblanks⟩ := eq_dropTrailing_append isBlank b.tail
  have hne : b.start ≠ [] := List.append_ne_nil_of_left_ne_nil b.host_allowed.1.1 _
  have htrimmed : IsTrimmed isBlank (b.start ++ dropTrailing isBlank b.tail) :=
    b.isTrimmed_start.append hne (getLast?_dropTrailing b.tail)
  have hbetween : trim ([] ++ (b.start ++ dropTrailing isBlank b.tail) ++ blanks) = b.start ++ dropTrailing isBlank b.tail :=
    htrimmed.dropEnds_between (fun _ hc => absurd hc List.not_mem_nil) hblanks
  rw [List.nil_append, List.append_assoc, ← hend] at hbetween
  exact hbetween

/-- A tail begins with no blank. -/
theorem trim_tail : trim b.tail = dropTrailing isBlank b.tail := by
  have hdelimiters : ∀ c ∈ delimiters, isBlank c = false := forall_mem_of_all (by decide)
  have hlead : dropLeading isBlank b.tail = b.tail := by
    unfold dropLeading
    cases htail : b.tail with
    | nil => rfl
    | cons c rest =>
      have hc : isBlank c = false := hdelimiters c (b.tail_begins c (by rw [htail]; rfl))
      rw [List.dropWhile_cons_of_neg (by simp [hc])]
  unfold trim dropEnds
  rw [hlead]

/-- The mark of a scheme does not begin in a host or in a port with digits. -/
theorem after_start (rest : List Char) : after "://".toList (b.start ++ rest) = after "://".toList rest := by
  have hhost : ':' ∉ b.host := b.host_allowed.2.1 ':' (by decide)
  have hskip : after "://".toList (b.host ++ (b.url.portText ++ rest)) = after "://".toList (b.url.portText ++ rest) :=
    after_append_of_notMem hhost _
  unfold start
  rw [List.append_assoc, hskip]
  unfold FullUrl.portText
  cases hp : b.url.port with
  | none => rfl
  | some text =>
    obtain ⟨hne, hdigits⟩ := b.port_digits text hp
    have hcolon : ':' ∉ text := avoids_of_isDigit hdigits ':' (by decide)
    have hno : "://".toList.isPrefixOf (':' :: text ++ rest) = false := by
      cases text with
      | nil => exact absurd rfl hne
      | cons d ds =>
        have hd : d ≠ '/' := by
          rintro rfl
          exact absurd (hdigits '/' List.mem_cons_self) (by decide)
        simp [List.isPrefixOf, Ne.symm hd]
    have hdigitsSkip : after "://".toList (text ++ rest) = after "://".toList rest := after_append_of_notMem hcolon rest
    rw [← hdigitsSkip]
    show after "://".toList (':' :: (text ++ rest)) = _
    rw [after, ← List.cons_append, hno]
    rfl

/-- What follows the host may do so without the blanks at its end as well. -/
theorem follows_end : Follows (b.url.portText ++ dropTrailing isBlank b.tail) := by
  obtain ⟨blanks, hend, -⟩ := eq_dropTrailing_append isBlank b.tail
  have hwhole : Follows (b.url.portText ++ dropTrailing isBlank b.tail ++ blanks) := by
    rw [List.append_assoc, ← hend]
    exact b.url.follows_end
  exact hwhole.of_append

/-- Whether the mark of a scheme is found in the entry depends on its tail. -/
theorem after_trim_isSome_iff : (after "://".toList (trim b.text)).isSome = true ↔ "://".toList <:+: b.tail := by
  have hmark : ∀ c ∈ "://".toList, isBlank c = false := forall_mem_of_all (by decide)
  rw [trim_text, after_start, after_isSome_iff, infix_dropTrailing_iff (by decide) hmark]

theorem ofEntry_of_unmarked (h : ¬ "://".toList <:+: b.tail) : ofEntry b.text = some b.host := by
  have hnone : after "://".toList (trim b.text) = none := by
    rw [← Option.not_isSome_iff_eq_none, after_trim_isSome_iff]
    exact h
  refine b.url.ofEntry_of_afterScheme b.follows_end ?_
  rw [afterScheme_eq, hnone, Option.getD_none, trim_text, start, List.append_assoc]
  rfl

theorem ofEntry_of_marked (h : "://".toList <:+: b.tail) : ofEntry b.text = ofEntry b.tail := by
  obtain ⟨rest, hrest⟩ := Option.isSome_iff_exists.1 (b.after_trim_isSome_iff.2 h)
  have hsearch : after "://".toList (trim b.text) = after "://".toList (trim b.tail) := by
    rw [trim_text, after_start, trim_tail]
  have hsame : afterScheme (trim b.text) = afterScheme (trim b.tail) := by
    rw [afterScheme_eq, afterScheme_eq, ← hsearch, hrest, Option.getD_some, Option.getD_some]
  unfold ofEntry
  rw [hsame]

/-- **An entry without a scheme has the host that it begins with, and names the address of that host, unless "://"
stands in its tail**: then its host is the one that the tail has by itself. -/
theorem ofEntry_bare :
    (¬ "://".toList <:+: b.tail →
      ofEntry b.text = some b.host ∧ Candidate.ofEntry b.text = Candidate.ofHost b.host) ∧
    ("://".toList <:+: b.tail →
      ofEntry b.text = ofEntry b.tail ∧ Candidate.ofEntry b.text = Candidate.ofEntry b.tail) := by
  refine ⟨fun hno => ⟨b.ofEntry_of_unmarked hno, ?_⟩, fun hyes => ⟨b.ofEntry_of_marked hyes, ?_⟩⟩
  · unfold Candidate.ofEntry
    rw [b.ofEntry_of_unmarked hno]
  · unfold Candidate.ofEntry
    rw [b.ofEntry_of_marked hyes]

/-- An address with a tail in which all but the mark of a scheme stands. -/
def crowded : BareEntry where
  host := "10.0.1.4".toList
  port := some "8080".toList
  tail := "//user@10.0.9.9:80?[:/ ".toList
  host_allowed := by decide
  port_digits := by rintro _ ⟨⟩; exact ⟨by decide, forall_mem_of_all (by decide)⟩
  tail_begins := by rintro _ ⟨⟩; decide

/-- An address with a query that holds a URL. -/
def redirecting : BareEntry where
  host := "10.0.1.4".toList
  port := none
  tail := "/?next=http://10.0.9.9/".toList
  host_allowed := by decide
  port_digits := fun _ htext => by cases htext
  tail_begins := by rintro _ ⟨⟩; decide

theorem ofEntry_bare_crowded :
    crowded.text = "10.0.1.4:8080//user@10.0.9.9:80?[:/ ".toList ∧ ¬ "://".toList <:+: crowded.tail ∧
    Candidate.ofEntry crowded.text = .ok ⟨10, 0, 1, 4⟩ ∧
    "://".toList <:+: redirecting.tail ∧ ofEntry redirecting.text = ofEntry redirecting.tail := by
  have hno : ¬ "://".toList <:+: crowded.tail := fun h => absurd (after_isSome_iff.2 h) (by decide)
  have hyes : "://".toList <:+: redirecting.tail := after_isSome_iff.1 (by decide)
  refine ⟨by decide, hno, ?_, hyes, (redirecting.ofEntry_bare.2 hyes).1⟩
  rw [(crowded.ofEntry_bare.1 hno).2]
  rfl

/-- **A URL in the query of an entry without a scheme brings its own host**: another address is named than the one that
the entry begins with. -/
theorem host_of_redirecting :
    redirecting.text = "10.0.1.4/?next=http://10.0.9.9/".toList ∧ redirecting.host = "10.0.1.4".toList ∧
    ofEntry redirecting.text = some "10.0.9.9".toList ∧ Candidate.ofEntry redirecting.text = .ok ⟨10, 0, 9, 9⟩ :=
  ⟨by decide, rfl, by decide, rfl⟩

end BareEntry
end Host
end AddressBinder
