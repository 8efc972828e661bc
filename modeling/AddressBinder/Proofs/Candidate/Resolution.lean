import Mathlib.Data.List.Forall2
import AddressBinder.Binder.Pass
import AddressBinder.Discovery.Source
import AddressBinder.Proofs.Candidate.Grammar
import AddressBinder.Proofs.Program.Serving
/-!
# Resolution is all or nothing

The entries of a zone are decoded one by one, and the first that does not decode is all that is reported; otherwise there
is an address for each, in their order, so the place of an address is that of the first entry that names it
(`resolves_ofEntries`).  Whoever lists the entries, what fails the listing fails the resolution (`run_resolve`), and of
lists that are put together each resolves as it does alone (`ofEntries_append_eq_ok`).
-/
namespace AddressBinder
namespace Candidate

variable {zone entry : String} {entries xs ys : List String} {ips : List Ipv4} {candidates : Candidates}

/-! ## Decoding a list -/

theorem decodeAll_cons_eq_ok : decodeAll (entry :: entries) = .ok ips ↔
    ∃ ip rest, decode entry = .ok ip ∧ decodeAll entries = .ok rest ∧ ips = ip :: rest := by
  rw [decodeAll]
  cases decode entry with
  | error e => simp
  | ok ip =>
    cases decodeAll entries with
    | error e => simp
    | ok rest => simp [eq_comm]

theorem decodeAll_cons {ip : Ipv4} (h : decode entry = .ok ip) (hrest : decodeAll entries = .ok ips) :
    decodeAll (entry :: entries) = .ok (ip :: ips) := decodeAll_cons_eq_ok.2 ⟨ip, ips, h, hrest, rfl⟩

/-- **The addresses of a list are what its entries decode to**, one for each. -/
theorem decodeAll_eq_ok : ∀ {entries : List String} {ips : List Ipv4},
    decodeAll entries = .ok ips ↔ List.Forall₂ (fun entry ip => decode entry = .ok ip) entries ips
  | [], ips => by simp [decodeAll, eq_comm]
  | entry :: entries, ips => by
    have ih : ∀ rest, decodeAll entries = .ok rest ↔ List.Forall₂ (fun entry ip => decode entry = .ok ip) entries rest :=
      fun _ => decodeAll_eq_ok
    simp only [decodeAll_cons_eq_ok, List.forall₂_cons_left_iff, ih, exists_and_left]

/-- **A list fails at its first entry that does not decode.** -/
theorem decodeAll_cases : ∀ entries : List String, (∃ ips, decodeAll entries = .ok ips) ∨
    ∃ before entry after reason, entries = before ++ entry :: after ∧ (∀ u ∈ before, ∃ ip, decode u = .ok ip) ∧
      decode entry = .error (.malformedCandidate entry reason) ∧
      decodeAll entries = .error (.malformedCandidate entry reason)
  | [] => .inl ⟨[], rfl⟩
  | entry :: entries => by
    by_cases hread : ∃ ip, decode entry = .ok ip
    · obtain ⟨ip, hip⟩ := hread
      rcases decodeAll_cases entries with ⟨ips, hips⟩ | ⟨before, bad, after, reason, rfl, hbefore, hbad, hall⟩
      · exact .inl ⟨ip :: ips, decodeAll_cons hip hips⟩
      · refine .inr ⟨entry :: before, bad, after, reason, rfl, List.forall_mem_cons.2 ⟨⟨ip, hip⟩, hbefore⟩, hbad, ?_⟩
        rw [decodeAll, hip, hall]
    · obtain ⟨fault, hbad⟩ := decode_eq_error fun ip h => hread ⟨ip, h⟩
      have hall : decodeAll (entry :: entries) = .error (.malformedCandidate entry fault.reason) := by
        rw [decodeAll, hbad]
      exact .inr ⟨[], entry, entries, fault.reason, rfl, fun _ hu => absurd hu List.not_mem_nil, hbad, hall⟩

theorem decodeAll_of_forall (h : ∀ u ∈ entries, ∃ ip, decode u = .ok ip) : ∃ ips, decodeAll entries = .ok ips := by
  rcases decodeAll_cases entries with hall | ⟨before, bad, after, reason, rfl, -, hbad, -⟩
  · exact hall
  · obtain ⟨ip, hip⟩ := h bad (List.mem_append_right before List.mem_cons_self)
    rw [hbad] at hip
    cases hip

/-- The place of an address is that of the first entry that decodes to it. -/
theorem idxOf?_of_decoded {entries : List String} {ips : List Ipv4}
    (h : List.Forall₂ (fun entry ip => decode entry = .ok ip) entries ips) (ip : Ipv4) :
    ips.idxOf? ip = entries.findIdx? fun entry => (decode entry).toOption == some ip := by
  induction h with
  | nil => rfl
  | cons hentry _ ih =>
    rw [List.idxOf?_cons, List.findIdx?_cons, ih, hentry]
    rfl

/-! ## Resolving the entries of a zone -/

/-- Candidates are resolved from entries: an address for each, in their order, and every address in its first place. -/
structure Resolved (entries : List String) (candidates : Candidates) : Prop where
  nonempty : candidates.isEmpty = false
  size : candidates.size = entries.length
  decoded : List.Forall₂ (fun entry ip => decode entry = .ok ip) entries candidates.addresses
  position : ∀ ip, candidates.position ip = entries.findIdx? fun entry => (decode entry).toOption == some ip

/-- What the listing of a zone's entries resolves to: its failure, or the want of entries, or the first that does not
decode, or candidates. -/
inductive Resolves (zone : String) : Except Error (List String) → Except Error Candidates → Prop where
  | failed (e : Error) : Resolves zone (.error e) (.error e)
  | none : Resolves zone (.ok []) (.error (.noCandidates zone))
  | malformed {before after : List String} {entry reason : String} (hbefore : ∀ u ∈ before, ∃ ip, decode u = .ok ip)
      (hentry : decode entry = .error (.malformedCandidate entry reason)) :
      Resolves zone (.ok (before ++ entry :: after)) (.error (.malformedCandidate entry reason))
  | resolved {entries : List String} {candidates : Candidates} (h : Resolved entries candidates) :
      Resolves zone (.ok entries) (.ok candidates)

theorem ofEntries_eq_ok : Candidates.ofEntries zone entries = .ok candidates ↔
    entries ≠ [] ∧ decodeAll entries = .ok candidates.addresses := by
  cases entries with
  | nil => simp [Candidates.ofEntries]
  | cons entry entries =>
    have hmk : ∀ ips, Candidates.mk ips = candidates ↔ ips = candidates.addresses := fun ips =>
      ⟨fun h => h ▸ rfl, fun h => h ▸ rfl⟩
    unfold Candidates.ofEntries
    cases decodeAll (entry :: entries) with
    | error e => simp
    | ok ips => simp [hmk]

theorem ofEntries_of_decodeAll {ip : Ipv4} (h : decodeAll entries = .ok (ip :: ips)) :
    Candidates.ofEntries zone entries = .ok ⟨ip :: ips⟩ := by
  refine ofEntries_eq_ok.2 ⟨?_, h⟩
  rintro rfl
  cases h

theorem resolved_of_decoded (hne : entries ≠ [])
    (h : List.Forall₂ (fun entry ip => decode entry = .ok ip) entries candidates.addresses) :
    Resolved entries candidates where
  nonempty := by
    have hlength := h.length_eq
    have hpos := List.length_pos_iff.2 hne
    unfold Candidates.isEmpty
    rw [List.isEmpty_eq_false_iff, ← List.length_pos_iff]
    omega
  size := h.length_eq.symm
  decoded := h
  position := idxOf?_of_decoded h

/-- **A list of entries resolves to candidates for all of them, or to nothing but its first fault.** -/
theorem resolves_ofEntries (zone : String) (entries : List String) :
    Resolves zone (.ok entries) (Candidates.ofEntries zone entries) := by
  by_cases hne : entries = []
  · subst hne
    exact .none
  · rcases decodeAll_cases entries with ⟨ips, hips⟩ | ⟨before, bad, after, reason, hentries, hbefore, hbad, hall⟩
    · have hok : Candidates.ofEntries zone entries = .ok ⟨ips⟩ := ofEntries_eq_ok.2 ⟨hne, hips⟩
      rw [hok]
      exact .resolved (resolved_of_decoded hne (decodeAll_eq_ok.1 hips))
    · have herror : Candidates.ofEntries zone entries = .error (.malformedCandidate bad reason) := by
        unfold Candidates.ofEntries
        rw [if_neg (by simpa using hne), hall]
      rw [herror, hentries]
      exact .malformed hbefore hbad

/-- **Lists put together resolve when each of them does**, to the candidates of the one before those of the other. -/
theorem ofEntries_append_eq_ok (hxs : xs ≠ []) (hys : ys ≠ []) :
    Candidates.ofEntries zone (xs ++ ys) = .ok candidates ↔ ∃ first second,
      Candidates.ofEntries zone xs = .ok first ∧ Candidates.ofEntries zone ys = .ok second ∧
      candidates.addresses = first.addresses ++ second.addresses := by
  simp only [ofEntries_eq_ok, decodeAll_eq_ok, ne_eq, List.append_eq_nil_iff, hxs, hys, not_false_eq_true, true_and,
    and_self]
  constructor
  · intro h
    have hfirst := List.forall₂_take xs.length h
    have hsecond := List.forall₂_drop xs.length h
    rw [List.take_left] at hfirst
    rw [List.drop_left] at hsecond
    exact ⟨⟨_⟩, ⟨_⟩, hfirst, hsecond, (List.take_append_drop xs.length candidates.addresses).symm⟩
  · rintro ⟨first, second, hfirst, hsecond, heq⟩
    rw [heq]
    exact List.rel_append hfirst hsecond

/-! ## Resolving what a source lists -/

/-- Lists the entries of a zone in some way and resolves them. -/
def resolve {σ : Signature} (zone : String) (listing : Program σ (Except Error (List String))) :
    Program σ (Except Error Candidates) :=
  listing.andThen fun entries => .done (Candidates.ofEntries zone entries)

theorem run_resolve {σ : Signature} {S : Type} (serve : (r : σ.Request) → S → σ.Reply r × S) (zone : String)
    (listing : Program σ (Except Error (List String))) (s : S) : (resolve zone listing).run serve s =
      ((listing.run serve s).1.bind (Candidates.ofEntries zone), (listing.run serve s).2) := by
  unfold resolve
  rw [Program.run_andThen]
  rcases listing.run serve s with ⟨_ | entries, t⟩ <;> rfl

/-- A pass resolves what its source answers. -/
theorem context_eq_resolve (b : Binder) : Pass.context b =
    (Pass.call .metadata).andThen fun (metadata : InstanceMetadata) =>
      (resolve metadata.availabilityZone (Pass.call (.serviceUrls metadata.availabilityZone))).andThen fun candidates =>
        (Pass.ofProvider (Inventory.describeSelf b.backend metadata)).andThen fun me => .done (.ok ⟨me, candidates⟩) := by
  unfold Pass.context resolve
  simp only [Program.andThen_assoc]

/-- **Resolution is all or nothing.**  Whatever lists the entries of a zone and in whatever state, a failure to list them
is passed on, no entries are no candidates, the first entry that does not decode is named as it was, and otherwise there
is an address for each; so does the source of a binder resolve, and lists put together resolve as each of them does. -/
theorem resolution_all_or_nothing {σ : Signature} {S : Type} (serve : (r : σ.Request) → S → σ.Reply r × S) (s : S)
    (zone : String) (listing : Program σ (Except Error (List String))) :
    Resolves zone (listing.run serve s).1 ((resolve zone listing).run serve s).1 ∧
    (∀ source : Discovery.Source, source.candidates zone = resolve zone (source.urls zone)) ∧
    ∀ xs ys candidates, xs ≠ [] → ys ≠ [] →
      (Candidates.ofEntries zone (xs ++ ys) = .ok candidates ↔ ∃ first second,
        Candidates.ofEntries zone xs = .ok first ∧ Candidates.ofEntries zone ys = .ok second ∧
        candidates.addresses = first.addresses ++ second.addresses) := by
  refine ⟨?_, fun source => rfl, fun xs ys candidates hxs hys => ofEntries_append_eq_ok hxs hys⟩
  rw [run_resolve]
  cases (listing.run serve s).1 with
  | error e => exact .failed e
  | ok entries => exact resolves_ofEntries zone entries

/-- Two lists that name one address both. -/
theorem resolution_of_repeated : ["http://ip-10-0-0-7.ec2.internal/", "10.0.0.5:80"] ≠ [] ∧ [" 10.0.0.7/v2"] ≠ [] ∧
    Candidates.ofEntries "us-east-1a" (["http://ip-10-0-0-7.ec2.internal/", "10.0.0.5:80"] ++ [" 10.0.0.7/v2"]) =
      .ok ⟨[⟨10, 0, 0, 7⟩, ⟨10, 0, 0, 5⟩, ⟨10, 0, 0, 7⟩]⟩ := by
  have hfirst : Candidates.ofEntries "us-east-1a" ["http://ip-10-0-0-7.ec2.internal/", "10.0.0.5:80"] =
      .ok ⟨[⟨10, 0, 0, 7⟩, ⟨10, 0, 0, 5⟩]⟩ := by decide +kernel
  have hsecond : Candidates.ofEntries "us-east-1a" [" 10.0.0.7/v2"] = .ok ⟨[⟨10, 0, 0, 7⟩]⟩ := by decide +kernel
  refine ⟨List.cons_ne_nil _ _, List.cons_ne_nil _ _, ?_⟩
  exact ((resolution_all_or_nothing (σ := lookup) (fun _ s => (.ok [], s)) () "us-east-1a" (.done (.ok []))).2.2 _ _ _
    (List.cons_ne_nil _ _) (List.cons_ne_nil _ _)).2 ⟨_, _, hfirst, hsecond, rfl⟩

end Candidate
end AddressBinder
