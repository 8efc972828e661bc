import Mathlib.Data.List.Infix
import Mathlib.Data.List.TakeWhile
import AddressBinder.Candidate.Decode
import AddressBinder.Config.Region
import AddressBinder.Proofs.Discovery.Chain
import AddressBinder.Proofs.Text.Items
import AddressBinder.Proofs.Text.Offsets
/-!
# Hosts and regions cut out of bytes

The host of an entry is found by cutting, and so is the region of a zone: where the texts are held in UTF-8, each cut is
made at an offset that an earlier search or the length of a part yields.  The same readers are given here by such offsets,
with every cut checked.  No cut is refused, so they read what the readers of characters read, and what they read is a part
of the text they were given (`cuts_lie_between_characters`).
-/
namespace AddressBinder

open String (utf8Len)
open Text

/-! ## Hosts -/

namespace Host

/-- The entry after its scheme, cut three bytes behind the place where `://` is found. -/
def sliceScheme (entry : List Char) : Except Slip (List Char) :=
  match offset? [':', '/', '/'] entry with
  | some n => sliceFrom entry (n + 3)
  | none => .ok entry

def sliceAuthority (rest : List Char) : Except Slip (List Char) :=
  sliceTo rest ((offsetOf? endsAuthority rest).getD (utf8Len rest))

/-- The authority without the user, cut one byte behind the last `@`. -/
def sliceUser (authority : List Char) : Except Slip (List Char) :=
  match lastOffsetOf? (· == '@') authority with
  | some n => sliceFrom authority (n + 1)
  | none => .ok authority

/-- The host in a bracket, which may not be closed. -/
def sliceBracket (inner : List Char) : Except Slip (Option (List Char)) :=
  match offsetOf? (· == ']') inner with
  | some n => (sliceTo inner n).map some
  | none => .ok none

def slicePort (hostPort : List Char) : Except Slip (List Char) :=
  match offsetOf? (· == ':') hostPort with
  | some n => sliceTo hostPort n
  | none => .ok hostPort

def sliceHostPort : List Char → Except Slip (Option (List Char))
  | '[' :: inner => sliceBracket inner
  | hostPort => (slicePort hostPort).map some

/-- The host of an entry, by offsets. -/
def slice (entry : List Char) : Except Slip (Option (List Char)) := do
  let rest ← sliceScheme (trim entry)
  let authority ← sliceAuthority rest
  let hostPort ← sliceUser authority
  match ← sliceHostPort hostPort with
  | none => return none
  | some host => return if host.isEmpty then none else some host

theorem sliceScheme_eq (entry : List Char) : sliceScheme entry = .ok (afterScheme entry) := by
  unfold sliceScheme afterScheme
  rcases offset?_cases [':', '/', '/'] entry with ⟨hnone, hafter⟩ | ⟨before, rest, rfl, hsome, hafter⟩
  · rw [hnone, hafter]
  · rw [hsome, hafter]
    exact sliceFrom_behind before [':', '/', '/'] rest

theorem sliceAuthority_eq (rest : List Char) : sliceAuthority rest = .ok (authority rest) := by
  unfold sliceAuthority authority
  rcases offsetOf?_cases endsAuthority rest with ⟨hnone, hall⟩ | ⟨before, c, tail, rfl, hbefore, hc, hsome⟩
  · have hwhole := sliceTo_append rest []
    rw [List.append_nil] at hwhole
    rw [hnone, List.takeWhile_eq_self_iff.2 fun c hc => by simp [hall c hc]]
    exact hwhole
  · rw [hsome, takeWhile_of_first hbefore hc]
    exact sliceTo_append before (c :: tail)

theorem sliceUser_eq (authority : List Char) : sliceUser authority = .ok (afterLast '@' authority) := by
  unfold sliceUser
  rcases lastOffsetOf?_cases '@' authority with ⟨hnone, hnot⟩ | ⟨before, hauthority, hsome⟩
  · rw [hnone, afterLast_of_notMem hnot]
  · have hlast := sliceFrom_behind before ['@'] (afterLast '@' authority)
    rw [List.append_assoc, List.singleton_append, ← hauthority] at hlast
    rw [hsome]
    exact hlast

theorem sliceBracket_eq (inner : List Char) : sliceBracket inner = .ok ((cut ']' inner).map Prod.fst) := by
  unfold sliceBracket
  rcases offsetOf?_cases (· == ']') inner with ⟨hnone, hall⟩ | ⟨before, c, tail, rfl, hbefore, hc, hsome⟩
  · have hnot : ']' ∉ inner := fun hmem => by simpa using hall ']' hmem
    rw [hnone, cut_of_notMem hnot]
    rfl
  · obtain rfl : c = ']' := by simpa using hc
    have hnot : ']' ∉ before := fun hmem => by simpa using hbefore ']' hmem
    rw [hsome, cut_append hnot]
    dsimp only
    rw [sliceTo_append]
    rfl

theorem slicePort_eq (hostPort : List Char) : slicePort hostPort = .ok (hostPort.takeWhile (· != ':')) := by
  unfold slicePort
  rcases offsetOf?_cases (· == ':') hostPort with ⟨hnone, hall⟩ | ⟨before, c, tail, rfl, hbefore, hc, hsome⟩
  · rw [hnone, List.takeWhile_eq_self_iff.2 fun c hc => by simpa using hall c hc]
  · have hfirst : (before ++ c :: tail).takeWhile (· != ':') = before := takeWhile_of_first hbefore hc
    rw [hsome, hfirst]
    exact sliceTo_append before (c :: tail)

theorem sliceHostPort_eq (hostPort : List Char) : sliceHostPort hostPort = .ok (ofHostPort hostPort) := by
  fun_cases ofHostPort hostPort with
  | case1 inner => exact sliceBracket_eq inner
  | case2 hostPort hopen =>
    rw [sliceHostPort, slicePort_eq]
    · rfl
    · exact hopen

/-- **No cut of an entry is refused**, and the host is the one that is read among the characters. -/
theorem slice_eq (entry : List Char) : slice entry = .ok (ofEntry entry) := by
  unfold slice ofEntry
  simp only [sliceScheme_eq, sliceAuthority_eq, sliceUser_eq, sliceHostPort_eq, bind, Except.bind, pure, Except.pure]
  cases ofHostPort (afterLast '@' (authority (afterScheme (trim entry)))) <;> rfl

/-! ### Hosts as parts of entries -/

theorem afterScheme_suffix (entry : List Char) : afterScheme entry <:+ entry := by
  unfold afterScheme
  rcases offset?_cases [':', '/', '/'] entry with ⟨-, hafter⟩ | ⟨before, rest, rfl, -, hafter⟩
  · rw [hafter]
  · rw [hafter]
    exact List.suffix_append _ rest

theorem afterLast_suffix (mark : Char) (cs : List Char) : afterLast mark cs <:+ cs := by
  rcases lastOffsetOf?_cases mark cs with ⟨-, hnot⟩ | ⟨before, hcs, -⟩
  · rw [afterLast_of_notMem hnot]
  · exact ⟨before ++ [mark], by rw [List.append_assoc, List.singleton_append, ← hcs]⟩

theorem infix_of_ofHostPort {hostPort host : List Char} (h : ofHostPort hostPort = some host) : host <:+: hostPort := by
  unfold ofHostPort at h
  split at h
  next inner =>
    obtain ⟨⟨before, rest⟩, hcut, rfl⟩ := Option.map_eq_some_iff.1 h
    obtain ⟨rfl, -⟩ := cut_eq hcut
    exact (List.prefix_append before _).isInfix.trans (List.suffix_cons '[' _).isInfix
  next hostPort _ =>
    obtain rfl := Option.some.inj h
    exact (List.takeWhile_prefix _).isInfix

/-- **The host of an entry is a part of it.** -/
theorem infix_of_ofEntry {entry host : List Char} (h : ofEntry entry = some host) : host <:+: entry := by
  unfold ofEntry at h
  split at h
  · cases h
  rename_i host' hhost
  have hpart : host' <:+: entry :=
    calc host' <:+: afterLast '@' (authority (afterScheme (trim entry))) := infix_of_ofHostPort hhost
      _ <:+: authority (afterScheme (trim entry)) := (afterLast_suffix '@' _).isInfix
      _ <:+: afterScheme (trim entry) := (List.takeWhile_prefix _).isInfix
      _ <:+: trim entry := (afterScheme_suffix (trim entry)).isInfix
      _ <:+: entry := infix_dropEnds isBlank entry
  split at h
  · cases h
  · exact Option.some.inj h ▸ hpart

end Host

/-! ## Candidates -/

namespace Candidate

/-- The members of a list from one place up to another. -/
def sliceList {α : Type} (first stop : Nat) (xs : List α) : Except Slip (List α) :=
  if first ≤ stop ∧ stop ≤ xs.length then .ok ((xs.take stop).drop first) else .error (.list xs.length stop)

def sliceInternalName (host : List Char) : Except Slip (Except Fault Ipv4) := do
  let parts := splitAt '-' (host.takeWhile (· != '.'))
  if parts.length < 5 then return .error (.notInternal host)
  let octets ← sliceList 1 5 parts
  let dotted := join ['.'] octets
  match Ipv4.parse? dotted with
  | some ip => return .ok ip
  | none => return .error (.notOctets host dotted)

def sliceHost (host : List Char) : Except Slip (Except Fault Ipv4) :=
  match Ipv4.parse? host with
  | some ip => .ok (.ok ip)
  | none => if Ipv6.isText host then .ok (.error .ipv6Host) else sliceInternalName host

/-- The candidate that an entry names, by offsets. -/
def slice (entry : String) : Except Slip (Except Error Ipv4) := do
  match ← Host.slice entry.toList with
  | none => return .error (.malformedCandidate entry Fault.noHost.reason)
  | some host =>
    match ← sliceHost host with
    | .ok ip => return .ok ip
    | .error fault => return .error (.malformedCandidate entry fault.reason)

/-- The parts of the first label hold no dot. -/
theorem dot_notMem_parts {host piece : List Char} (h : piece ∈ splitAt '-' (host.takeWhile (· != '.'))) : '.' ∉ piece := by
  intro hdot
  have hlabel : '.' ∈ host.takeWhile (· != '.') := by
    rw [← join_splitAt '-' (host.takeWhile (· != '.'))]
    exact mem_join_of_mem h hdot
  simpa using List.all_eq_true.1 List.all_takeWhile '.' hlabel

theorem sliceList_octets (first a b c d : List Char) (others : List (List Char)) :
    sliceList 1 5 (first :: a :: b :: c :: d :: others) = .ok [a, b, c, d] := by
  have hstop : 5 ≤ (first :: a :: b :: c :: d :: others).length := by simp
  rw [sliceList, if_pos ⟨by decide, hstop⟩]
  rfl

/-- **Five parts are counted before the octets are cut out of them**, and the octets read as they do with dots between. -/
theorem sliceInternalName_eq (host : List Char) : sliceInternalName host = .ok (ofInternalName host) := by
  have hdot : ∀ piece ∈ splitAt '-' (host.takeWhile (· != '.')), '.' ∉ piece := fun _ => dot_notMem_parts
  unfold sliceInternalName ofInternalName
  generalize splitAt '-' (host.takeWhile (· != '.')) = parts at hdot ⊢
  rcases parts with _ | ⟨first, _ | ⟨a, _ | ⟨b, _ | ⟨c, _ | ⟨d, others⟩⟩⟩⟩⟩
  rotate_left 5
  · have hoctets : ∀ piece ∈ [a, b, c, d], '.' ∉ piece := by
      intro piece hpiece
      exact hdot piece (List.mem_cons_of_mem first (List.mem_append_left others hpiece))
    have hparse : Ipv4.parse? (join ['.'] [a, b, c, d]) = Ipv4.ofOctets? [a, b, c, d] := by
      rw [Ipv4.parse?, splitAt_join (List.cons_ne_nil _ _) hoctets]
    have hmany : ¬ (first :: a :: b :: c :: d :: others).length < 5 := by simp
    dsimp only
    rw [if_neg hmany, sliceList_octets]
    simp only [bind, Except.bind, pure, Except.pure, hparse]
    cases Ipv4.ofOctets? [a, b, c, d] <;> rfl
  -- with fewer parts nothing is cut
  all_goals rfl

theorem sliceHost_eq (host : List Char) : sliceHost host = .ok (ofHost host) := by
  unfold sliceHost ofHost
  cases Ipv4.parse? host with
  | some ip => rfl
  | none =>
    dsimp only
    rw [sliceInternalName_eq]
    split <;> rfl

theorem slice_eq_decode (entry : String) : slice entry = .ok (decode entry) := by
  unfold slice decode ofEntry
  rw [Host.slice_eq]
  cases Host.ofEntry entry.toList with
  | none => rfl
  | some host =>
    simp only [sliceHost_eq, bind, Except.bind, pure, Except.pure]
    cases ofHost host <;> rfl

end Candidate

/-! ## Regions -/

namespace Region

/-- The region in the name of a zone, cut one byte before the end. -/
def sliceZone (zone : List Char) : Except Slip (List Char) :=
  match (trim zone).getLast? with
  | none => .ok (trim zone)
  | some c =>
    if isAsciiLetter c then
      match utf8Len (trim zone) with
      | 0 => .error (.text (trim zone) 0)
      | n + 1 => sliceTo (trim zone) n
    else .ok (trim zone)

/-- The region for a zone, by offsets. -/
def slice (configured : Option (List Char)) (zone : List Char) : Except Slip (List Char) :=
  match configured with
  | none => sliceZone zone
  | some region => if (trim region).isEmpty then sliceZone zone else .ok (lower (trim region))

/-- An ASCII letter is one byte long. -/
theorem utf8Size_of_isAsciiLetter {c : Char} (h : isAsciiLetter c = true) : c.utf8Size = 1 := by
  have hlast : c ≤ 'z' := by
    unfold isAsciiLetter at h
    rcases Bool.or_eq_true_iff.1 h with h | h
    · simpa using (Bool.and_eq_true_iff.1 h).2
    · have hcapital : c ≤ 'Z' := by simpa using (Bool.and_eq_true_iff.1 h).2
      exact hcapital.trans (by decide)
  exact Char.utf8Size_eq_one_iff.2 (UInt32.le_trans hlast (by decide))

/-- The region that a zone names is its trimmed name, or that name without the ASCII letter at its end. -/
theorem ofZone_cases (zone : List Char) :
    (ofZone zone = trim zone ∧ ∀ c ∈ (trim zone).getLast?, isAsciiLetter c = false) ∨
      ∃ c, isAsciiLetter c = true ∧ trim zone = ofZone zone ++ [c] := by
  rcases Discovery.ofZone_eq_iff.1 (Eq.refl (ofZone zone)) with ⟨c, hcore, hc⟩ | ⟨hcore, hlast⟩
  · exact .inr ⟨c, hc, dropEnds_eq_iff.2 hcore⟩
  · have hwhole : trim zone = ofZone zone := dropEnds_eq_iff.2 hcore
    rw [hwhole]
    exact .inl ⟨rfl, hlast⟩

/-- **The one cut in a zone is not refused**: the letter in front of which it is made is one byte long. -/
theorem sliceZone_eq (zone : List Char) : sliceZone zone = .ok (ofZone zone) := by
  unfold sliceZone
  rcases ofZone_cases zone with ⟨hwhole, hlast⟩ | ⟨c, hc, hname⟩
  · rw [hwhole]
    cases hend : (trim zone).getLast? with
    | none => rfl
    | some c =>
      dsimp only
      rw [hlast c hend]
      rfl
  · have hlen : utf8Len (ofZone zone ++ [c]) = utf8Len (ofZone zone) + 1 := by
      rw [String.utf8Len_append, String.utf8Len_cons, utf8Size_of_isAsciiLetter hc]
      rfl
    rw [hname, List.getLast?_concat]
    dsimp only
    rw [if_pos hc, hlen]
    exact sliceTo_append (ofZone zone) [c]

theorem slice_eq_forZone (configured : Option (List Char)) (zone : List Char) :
    slice configured zone = .ok (forZone configured zone) := by
  unfold slice forZone
  cases configured with
  | none => exact sliceZone_eq zone
  | some region =>
    dsimp only
    rw [sliceZone_eq]
    split <;> rfl

/-! ### Regions as parts of zones -/

theorem ofZone_infix (zone : List Char) : ofZone zone <:+: zone := by
  refine List.IsInfix.trans ?_ (infix_dropEnds isBlank zone)
  rcases ofZone_cases zone with ⟨hwhole, -⟩ | ⟨c, -, hname⟩
  · exact hwhole ▸ List.infix_rfl
  · change ofZone zone <:+: trim zone
    rw [hname]
    exact (List.prefix_append _ _).isInfix

theorem forZone_cases (configured : Option (List Char)) (zone : List Char) :
    forZone configured zone = ofZone zone ∨
      ∃ region, configured = some region ∧ trim region ≠ [] ∧ forZone configured zone = lower (trim region) := by
  cases configured with
  | none => exact .inl rfl
  | some region =>
    unfold forZone
    dsimp only
    by_cases hblank : trim region = []
    · rw [hblank]
      exact .inl rfl
    · rw [if_neg (by simpa using hblank)]
      exact .inr ⟨region, rfl, hblank, rfl⟩

end Region

namespace Text

/-- **Texts are cut between characters only.**  A cut at an offset can be made exactly where a character of the text
begins in UTF-8, or at the end.  No cut of the readers by offsets is refused, whatever they are given, and they read what
the readers of characters read.  The host of an entry is a part of the entry.  A region that is not given is a part of the
zone: the trimmed zone, without the ASCII letter at its end if there is one. -/
theorem cuts_lie_between_characters :
    (∀ cs n, (∃ parts, partsAt cs n = .ok parts) ↔ (⟨n⟩ : String.Pos.Raw).IsValid (String.ofList cs)) ∧
    (∀ entry, Host.slice entry = .ok (Host.ofEntry entry) ∧ ∀ host ∈ Host.ofEntry entry, host <:+: entry) ∧
    (∀ entry, Candidate.slice entry = .ok (Candidate.decode entry)) ∧
    (∀ configured zone, Region.slice configured zone = .ok (Region.forZone configured zone) ∧
      (Region.forZone configured zone = Region.ofZone zone ∨ ∃ region, configured = some region ∧ trim region ≠ [] ∧
        Region.forZone configured zone = lower (trim region))) ∧
    ∀ zone, Region.ofZone zone <:+: zone ∧
      ((Region.ofZone zone = trim zone ∧ ∀ c ∈ (trim zone).getLast?, isAsciiLetter c = false) ∨
        ∃ c, isAsciiLetter c = true ∧ trim zone = Region.ofZone zone ++ [c]) := by
  refine ⟨fun cs n => exists_partsAt_iff, fun entry => ⟨Host.slice_eq entry, fun host => Host.infix_of_ofEntry⟩,
    Candidate.slice_eq_decode, fun configured zone => ⟨?_, ?_⟩, fun zone => ⟨Region.ofZone_infix zone, ?_⟩⟩
  · exact Region.slice_eq_forZone configured zone
  · exact Region.forZone_cases configured zone
  · exact Region.ofZone_cases zone

/-- A host among characters of several bytes, and a zone that ends with one. -/
theorem cuts_between_wide_characters :
    Host.ofEntry "é://ö€@ip-10-0-1-4.東京:80/".toList = some "ip-10-0-1-4.東京".toList ∧
    "ip-10-0-1-4.東京".toList <:+: "é://ö€@ip-10-0-1-4.東京:80/".toList ∧
    Host.slice "é://ö€@ip-10-0-1-4.東京:80/".toList = .ok (some "ip-10-0-1-4.東京".toList) ∧
    'é' ∈ (trim "zone-1é".toList).getLast? ∧ isAsciiLetter 'é' = false ∧
    Region.slice none "zone-1é".toList = .ok "zone-1é".toList := by
  have hhost : Host.ofEntry "é://ö€@ip-10-0-1-4.東京:80/".toList = some "ip-10-0-1-4.東京".toList := by decide
  have hzone : Region.ofZone "zone-1é".toList = "zone-1é".toList := by decide
  have hlast : 'é' ∈ (trim "zone-1é".toList).getLast? := by decide
  obtain ⟨-, hentry, -, hregion, hname⟩ := cuts_lie_between_characters
  refine ⟨hhost, (hentry _).2 _ hhost, ?_, hlast, ?_, ?_⟩
  · rw [(hentry _).1, hhost]
  · rcases (hname "zone-1é".toList).2 with ⟨-, hletter⟩ | ⟨c, -, hcut⟩
    · exact hletter 'é' hlast
    · -- the name is whole, so nothing is cut off it
      have htrim : trim "zone-1é".toList = "zone-1é".toList := by decide
      rw [hzone, htrim] at hcut
      exact absurd (List.self_eq_append_right.1 hcut) (List.cons_ne_nil c [])
  · rw [(hregion _ _).1]
    exact congrArg _ hzone

end Text
end AddressBinder
