import Mathlib.Data.List.Basic
import AddressBinder.Proofs.Text.Split
/-!
# Lists written by hand

The items of a text are those that it lists, however they are laid out: blanks around them and pieces of blanks alone do
not count (`items_eq_iff`).  A separator between two texts puts the items of the one before those of the other,
whatever the texts are (`items_append`).
-/
namespace AddressBinder
namespace Text

variable {sep c : Char} {cs it piece : List Char} {its : List (List Char)}

/-- Whether a text can be listed: there is something in it, no blank at its ends, and no separator. -/
structure IsItem (sep : Char) (it : List Char) : Prop where
  ne_nil : it ≠ []
  trimmed : IsTrimmed isBlank it
  sep_notMem : sep ∉ it

theorem IsWord.isItem (h : IsWord cs) (hsep : sep ∉ cs) : IsItem sep cs := ⟨h.1, isTrimmed_of_forall h.2, hsep⟩

theorem items_append (cs ds : List Char) : items sep (cs ++ sep :: ds) = items sep cs ++ items sep ds := by
  unfold items
  rw [splitAt_append_sep, List.map_append, List.filter_append]

/-! ## What items are -/

theorem mem_join_of_mem {sep : List Char} : ∀ {pieces : List (List Char)}, piece ∈ pieces → c ∈ piece → c ∈ join sep pieces
  | [only], hpiece, hc => by
    obtain rfl := List.mem_singleton.1 hpiece
    exact hc
  | first :: next :: pieces, hpiece, hc => by
    rw [join_cons first (List.cons_ne_nil next pieces)]
    rcases List.mem_cons.1 hpiece with rfl | hpiece
    · exact List.mem_append_left _ (List.mem_append_left _ hc)
    · exact List.mem_append_right _ (mem_join_of_mem hpiece hc)

theorem join_ne_nil {sep : List Char} {pieces : List (List Char)} (h : piece ≠ []) : join sep (piece :: pieces) ≠ [] := by
  cases pieces with
  | nil => exact h
  | cons next pieces =>
    rw [join_cons piece (List.cons_ne_nil next pieces), List.append_assoc]
    exact List.append_ne_nil_of_left_ne_nil h _

theorem infix_dropEnds (p : Char → Bool) (cs : List Char) : dropEnds p cs <:+: cs := by
  obtain ⟨-, lead, tail, hcs, -, -⟩ := exists_eq_dropEnds p cs
  exact ⟨lead, tail, hcs.symm⟩

theorem mem_of_mem_items (hit : it ∈ items sep cs) (hc : c ∈ it) : c ∈ cs := by
  obtain ⟨piece, hpiece, rfl⟩ := List.mem_map.1 (List.mem_filter.1 hit).1
  have hjoin : c ∈ join [sep] (splitAt sep cs) := mem_join_of_mem hpiece ((infix_dropEnds isBlank piece).subset hc)
  rwa [join_splitAt] at hjoin

theorem isItem_of_mem_items (h : it ∈ items sep cs) : IsItem sep it := by
  obtain ⟨hmem, hne⟩ := List.mem_filter.1 h
  obtain ⟨piece, hpiece, rfl⟩ := List.mem_map.1 hmem
  refine ⟨by simpa using hne, (exists_eq_dropEnds isBlank piece).1, fun hsep => ?_⟩
  exact splitAt_no_sep sep cs piece hpiece ((infix_dropEnds isBlank piece).subset hsep)

/-! ## How items are laid out -/

/-- A text lists items: each stands between blanks, a separator after each but the last, and what stands between two
separators may be blank. -/
inductive HasItems (sep : Char) : List Char → List (List Char) → Prop where
  | blank {gap : List Char} (hgap : ∀ c ∈ gap, isBlank c = true) : HasItems sep gap []
  | last {lead it tail : List Char} (hit : IsItem sep it) (hlead : ∀ c ∈ lead, isBlank c = true)
      (htail : ∀ c ∈ tail, isBlank c = true) : HasItems sep (lead ++ it ++ tail) [it]
  | skip {gap rest : List Char} {its : List (List Char)} (hgap : ∀ c ∈ gap, isBlank c = true)
      (h : HasItems sep rest its) : HasItems sep (gap ++ sep :: rest) its
  | item {lead it tail rest : List Char} {its : List (List Char)} (hit : IsItem sep it)
      (hlead : ∀ c ∈ lead, isBlank c = true) (htail : ∀ c ∈ tail, isBlank c = true) (h : HasItems sep rest its) :
      HasItems sep (lead ++ it ++ tail ++ sep :: rest) (it :: its)

theorem notMem_of_forall_isBlank (hsep : isBlank sep = false) (h : ∀ c ∈ cs, isBlank c = true) : sep ∉ cs := by
  intro hmem
  rw [h sep hmem] at hsep
  cases hsep

theorem items_of_forall_isBlank (hsep : isBlank sep = false) (h : ∀ c ∈ cs, isBlank c = true) : items sep cs = [] := by
  unfold items
  rw [splitAt_of_notMem (notMem_of_forall_isBlank hsep h), List.map_singleton, trim_eq_nil_iff.2 h]
  rfl

theorem items_of_isItem {lead tail : List Char} (hsep : isBlank sep = false) (hit : IsItem sep it)
    (hlead : ∀ c ∈ lead, isBlank c = true) (htail : ∀ c ∈ tail, isBlank c = true) :
    items sep (lead ++ it ++ tail) = [it] := by
  have hnot : sep ∉ lead ++ it ++ tail := by
    simp only [List.mem_append, not_or]
    exact ⟨⟨notMem_of_forall_isBlank hsep hlead, hit.sep_notMem⟩, notMem_of_forall_isBlank hsep htail⟩
  have htrim : trim (lead ++ it ++ tail) = it := hit.trimmed.dropEnds_between hlead htail
  unfold items
  rw [splitAt_of_notMem hnot, List.map_singleton, htrim, List.filter_cons_of_pos (by simpa using hit.ne_nil), List.filter_nil]

/-- What a joined text lists are its pieces, trimmed, without those of blanks alone. -/
theorem hasItems_join_trim : ∀ {pieces : List (List Char)}, pieces ≠ [] → (∀ piece ∈ pieces, sep ∉ piece) →
    HasItems sep (join [sep] pieces) ((pieces.map trim).filter (fun piece => !piece.isEmpty))
  | [], h, _ => absurd rfl h
  | piece :: pieces, _, h => by
    obtain ⟨hpiece, hrest⟩ := List.forall_mem_cons.1 h
    obtain ⟨htrimmed, lead, tail, hcs, hlead, htail⟩ := exists_eq_dropEnds isBlank piece
    have hnot : sep ∉ trim piece := fun hmem => hpiece ((infix_dropEnds isBlank piece).subset hmem)
    rw [List.map_cons]
    unfold trim at hnot ⊢
    generalize dropEnds isBlank piece = it at htrimmed hcs hnot ⊢
    subst hcs
    by_cases hne : it = []
    · subst hne
      have hgap : ∀ c ∈ lead ++ [] ++ tail, isBlank c = true := by
        rw [List.append_nil]
        exact List.forall_mem_append.2 ⟨hlead, htail⟩
      rw [List.filter_cons_of_neg (by simp)]
      cases pieces with
      | nil => exact .blank hgap
      | cons next pieces =>
        rw [join_cons _ (List.cons_ne_nil next pieces), List.append_assoc _ [sep], List.singleton_append]
        exact .skip hgap (hasItems_join_trim (List.cons_ne_nil next pieces) hrest)
    · have hit : IsItem sep it := ⟨hne, htrimmed, hnot⟩
      rw [List.filter_cons_of_pos (by simpa using hne)]
      cases pieces with
      | nil => exact .last hit hlead htail
      | cons next pieces =>
        rw [join_cons _ (List.cons_ne_nil next pieces), List.append_assoc _ [sep], List.singleton_append]
        exact .item hit hlead htail (hasItems_join_trim (List.cons_ne_nil next pieces) hrest)

/-- **The items of a text are those that it lists.** -/
theorem items_eq_iff (hsep : isBlank sep = false) : items sep cs = its ↔ HasItems sep cs its := by
  constructor
  · rintro rfl
    have hlists := hasItems_join_trim (splitAt_ne_nil sep cs) (splitAt_no_sep sep cs)
    rwa [join_splitAt] at hlists
  · intro h
    induction h with
    | blank hgap => exact items_of_forall_isBlank hsep hgap
    | last hit hlead htail => exact items_of_isItem hsep hit hlead htail
    | skip hgap _ ih => rw [items_append, items_of_forall_isBlank hsep hgap, ih, List.nil_append]
    | item hit hlead htail _ ih => rw [items_append, items_of_isItem hsep hit hlead htail, ih, List.singleton_append]

theorem items_eq_nil_iff (hsep : isBlank sep = false) : items sep cs = [] ↔ ∀ c ∈ cs, isBlank c = true ∨ c = sep := by
  constructor
  · rw [items_eq_iff hsep]
    intro hlists
    generalize hnone : ([] : List (List Char)) = its at hlists
    induction hlists with
    | blank hgap => exact fun c hc => .inl (hgap c hc)
    | skip hgap _ ih =>
      intro c hc
      rcases List.mem_append.1 hc with hc | hc
      · exact .inl (hgap c hc)
      · rcases List.mem_cons.1 hc with rfl | hc
        · exact .inr rfl
        · exact ih hnone c hc
    | last => cases hnone
    | item => cases hnone
  · intro h
    refine List.eq_nil_iff_forall_not_mem.2 fun it hit => ?_
    obtain ⟨hne, htrimmed, hnot⟩ := isItem_of_mem_items hit
    -- the first character of an item is neither
    obtain ⟨c, rest, rfl⟩ := List.exists_cons_of_ne_nil hne
    rcases h c (mem_of_mem_items hit List.mem_cons_self) with hblank | rfl
    · rw [htrimmed.1 c rfl] at hblank
      cases hblank
    · exact hnot List.mem_cons_self

/-- Items with one separator between them are a list of them. -/
theorem hasItems_join (h : ∀ it ∈ its, IsItem sep it) : HasItems sep (join [sep] its) its := by
  cases its with
  | nil => exact .blank fun _ hc => absurd hc List.not_mem_nil
  | cons it rest =>
    have htrim : (it :: rest).map trim = it :: rest :=
      (List.map_congr_left fun it hit => (h it hit).trimmed.dropEnds_eq).trans (List.map_id _)
    have hall : (it :: rest).filter (fun piece => !piece.isEmpty) = it :: rest :=
      List.filter_eq_self.2 fun it hit => by simpa using (h it hit).ne_nil
    have hlists := hasItems_join_trim (List.cons_ne_nil it rest) fun it hit => (h it hit).sep_notMem
    rwa [htrim, hall] at hlists

theorem isTrimmed_join : ∀ {its : List (List Char)}, (∀ it ∈ its, IsItem sep it) → IsTrimmed isBlank (join [sep] its)
  | [], _ => isTrimmed_nil
  | [it], h => (h it List.mem_cons_self).trimmed
  | it :: next :: its, h => by
    obtain ⟨hit, hrest⟩ := List.forall_mem_cons.1 h
    have ih : IsTrimmed isBlank (join [sep] (next :: its)) := isTrimmed_join hrest
    have hne : join [sep] (next :: its) ≠ [] := join_ne_nil (hrest next List.mem_cons_self).ne_nil
    rw [join_cons it (List.cons_ne_nil next its), List.append_assoc]
    refine hit.trimmed.append hit.ne_nil fun c hc => ?_
    rw [Option.mem_def, List.getLast?_append_of_ne_nil [sep] hne] at hc
    exact ih.2 c hc

/-- Before the first item of a list stand blanks and separators only. -/
theorem HasItems.exists_first (h : HasItems sep cs (it :: its)) :
    ∃ lead rest, cs = lead ++ it ++ rest ∧ ∀ c ∈ lead, isBlank c = true ∨ c = sep := by
  generalize hall : it :: its = all at h
  induction h with
  | blank => cases hall
  | @last lead only tail _ hlead _ =>
    obtain ⟨rfl, -⟩ := List.cons.inj hall
    exact ⟨lead, tail, rfl, fun c hc => .inl (hlead c hc)⟩
  | @skip gap rest _ hgap _ ih =>
    obtain ⟨lead, after, rfl, hlead⟩ := ih hall
    refine ⟨gap ++ sep :: lead, after, by simp, fun c hc => ?_⟩
    rcases List.mem_append.1 hc with hc | hc
    · exact .inl (hgap c hc)
    · rcases List.mem_cons.1 hc with rfl | hc
      · exact .inr rfl
      · exact hlead c hc
  | @item lead first tail rest _ _ hlead _ _ _ =>
    obtain ⟨rfl, -⟩ := List.cons.inj hall
    exact ⟨lead, tail ++ sep :: rest, by simp, fun c hc => .inl (hlead c hc)⟩

end Text
end AddressBinder
