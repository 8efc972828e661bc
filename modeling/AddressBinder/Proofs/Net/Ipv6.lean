import AddressBinder.Net.Ipv6
import AddressBinder.Proofs.Net.Ipv4
/-!
# The grammar of IPv6 addresses

What is recognised is what the grammar derives (`isText_iff`): eight groups with colons between them, or at most seven
with one gap, where an IPv4 address at the end stands for two.
-/
namespace AddressBinder
namespace Ipv6

open Text

/-- The pieces between the colons stand for a number of groups; the last may be an IPv4 address if `tail` says so. -/
inductive Counts (tail : Bool) : List (List Char) → Nat → Prop where
  | none : Counts tail [] 0
  | group {piece : List Char} {pieces : List (List Char)} {n : Nat} (h : isGroup piece = true)
      (hs : Counts tail pieces n) : Counts tail (piece :: pieces) (n + 1)
  | address (ip : Ipv4) (ht : tail = true) : Counts tail [ip.chars] 2

/-- The texts of IPv6 addresses. -/
inductive IsLiteral : List Char → Prop where
  | whole {pieces : List (List Char)} (h : Counts true pieces 8) : IsLiteral (join [':'] pieces)
  /-- The gap stands for at least one group. -/
  | gap {left right : List (List Char)} {m n : Nat} (hl : Counts false left m) (hr : Counts true right n)
      (h : m + n ≤ 7) : IsLiteral (join [':'] left ++ ':' :: ':' :: join [':'] right)

variable {tail : Bool} {cs piece left right : List Char} {pieces : List (List Char)} {n : Nat}

/-! ## Groups -/

/-- The characters of pieces: digits of base sixteen, and dots in an IPv4 address. -/
def IsPieceChar (c : Char) : Prop := c = '.' ∨ (hexDigit? c).isSome = true

theorem isPieceChar_of_isGroup (h : isGroup piece = true) : ∀ c ∈ piece, IsPieceChar c := by
  simp only [isGroup, Bool.and_eq_true, List.all_eq_true] at h
  exact fun c hc => .inr (h.2 c hc)

theorem isPieceChar_of_isDigit {c : Char} (h : c.isDigit = true) : IsPieceChar c := by
  obtain ⟨d, hd, rfl⟩ := exists_digitChar_of_isDigit h
  right
  rw [hexDigit?_digitChar d (by omega)]
  rfl

theorem isPieceChar_of_mem_chars {ip : Ipv4} {c : Char} (h : c ∈ ip.chars) : IsPieceChar c := by
  rcases mem_join h with hdot | ⟨piece, hpiece, hc⟩
  · exact .inl (List.mem_singleton.1 hdot)
  · exact isPieceChar_of_isDigit (Ipv4.isDigit_of_mem_numerals hpiece hc)

theorem not_isGroup_chars (ip : Ipv4) : isGroup ip.chars = false := by
  refine Bool.eq_false_iff.2 fun h => ?_
  simp only [isGroup, Bool.and_eq_true, List.all_eq_true] at h
  have hdot := h.2 '.' (ip.dot_mem_chars)
  exact absurd hdot (by decide)

theorem Counts.pieceChars (h : Counts tail pieces n) : ∀ piece ∈ pieces, piece ≠ [] ∧ ∀ c ∈ piece, IsPieceChar c := by
  induction h with
  | none => exact fun piece hpiece => absurd hpiece List.not_mem_nil
  | group hgroup _ ih =>
    refine List.forall_mem_cons.2 ⟨⟨?_, isPieceChar_of_isGroup hgroup⟩, ih⟩
    rintro rfl
    cases hgroup
  | address ip _ =>
    intro piece hpiece
    obtain rfl := List.mem_singleton.1 hpiece
    exact ⟨List.ne_nil_of_mem (ip.dot_mem_chars), fun c hc => isPieceChar_of_mem_chars hc⟩

theorem Counts.colon_notMem (h : Counts tail pieces n) : ∀ piece ∈ pieces, piece ≠ [] ∧ ':' ∉ piece := by
  intro piece hpiece
  obtain ⟨hne, hchars⟩ := h.pieceChars piece hpiece
  refine ⟨hne, fun hcolon => ?_⟩
  rcases hchars ':' hcolon with hdot | hdigit
  · exact absurd hdot (by decide)
  · exact absurd hdigit (by decide)

theorem groupCount_eq_some : ∀ {pieces : List (List Char)} {n : Nat},
    groupCount tail pieces = some n ↔ Counts tail pieces n := by
  intro pieces n
  constructor
  · intro h
    induction pieces generalizing n with
    | nil =>
      obtain rfl := Option.some.inj h
      exact .none
    | cons piece pieces ih =>
      by_cases hgroup : isGroup piece = true
      · cases pieces with
        | nil =>
          rw [groupCount, if_pos hgroup] at h
          obtain rfl := Option.some.inj h
          exact .group hgroup .none
        | cons next pieces =>
          rw [groupCount, if_pos hgroup] at h
          · obtain ⟨k, hk, rfl⟩ := Option.map_eq_some_iff.1 h
            exact .group hgroup (ih hk)
          · exact nofun
      · cases pieces with
        | nil =>
          rw [groupCount, if_neg hgroup] at h
          split at h
          · rename_i haddress
            obtain ⟨htail, hparse⟩ := Bool.and_eq_true_iff.1 haddress
            obtain ⟨ip, hip⟩ := Option.isSome_iff_exists.1 hparse
            obtain rfl := Option.some.inj h
            obtain rfl := Ipv4.parse?_eq_some.1 hip
            exact .address ip htail
          · cases h
        | cons next pieces =>
          rw [groupCount, if_neg hgroup] at h
          · cases h
          · exact nofun
  · intro h
    induction h with
    | none => rfl
    | @group piece pieces n hgroup _ ih =>
      cases pieces with
      | nil =>
        obtain rfl : 0 = n := Option.some.inj ih
        rw [groupCount, if_pos hgroup]
      | cons next pieces =>
        rw [groupCount, if_pos hgroup, ih]
        · rfl
        · exact nofun
    | address ip htail =>
      rw [groupCount, not_isGroup_chars, Ipv4.parse?_chars, htail]
      rfl

theorem exists_join_eq_cons (hne : pieces ≠ []) (h : ∀ piece ∈ pieces, piece ≠ [] ∧ ':' ∉ piece) :
    ∃ c more, join [':'] pieces = c :: more ∧ c ≠ ':' := by
  cases pieces with
  | nil => exact absurd rfl hne
  | cons piece pieces =>
    obtain ⟨hpiece, hcolon⟩ := h piece List.mem_cons_self
    cases piece with
    | nil => exact absurd rfl hpiece
    | cons c piece =>
      have hc : c ≠ ':' := fun he => hcolon (he ▸ List.mem_cons_self)
      cases pieces with
      | nil => exact ⟨c, piece, rfl, hc⟩
      | cons next pieces => exact ⟨c, _, rfl, hc⟩

theorem sideCount_eq_some : sideCount tail cs = some n ↔ ∃ pieces, Counts tail pieces n ∧ cs = join [':'] pieces := by
  unfold sideCount
  constructor
  · intro h
    split at h
    · rename_i hempty
      obtain rfl := Option.some.inj h
      exact ⟨[], .none, List.isEmpty_iff.1 hempty⟩
    · exact ⟨splitAt ':' cs, groupCount_eq_some.1 h, (join_splitAt ':' cs).symm⟩
  · rintro ⟨pieces, h, rfl⟩
    by_cases hne : pieces = []
    · subst hne
      cases h
      rfl
    · have hpieces := h.colon_notMem
      obtain ⟨c, more, hjoin, -⟩ := exists_join_eq_cons hne hpieces
      have hfull : (join [':'] pieces).isEmpty ≠ true := by simp [hjoin]
      rw [if_neg hfull, splitAt_join hne fun piece hpiece => (hpieces piece hpiece).2]
      exact groupCount_eq_some.2 h

/-! ## The gap -/

theorem cutGap_cons_of_ne {c : Char} (h : c ≠ ':') (cs : List Char) :
    cutGap (c :: cs) = (cutGap cs).map fun r => (c :: r.1, r.2) := by
  rw [cutGap]
  exact fun _ hc _ => h hc

theorem cutGap_colon_of_ne {c : Char} (h : c ≠ ':') (cs : List Char) :
    cutGap (':' :: c :: cs) = (cutGap (c :: cs)).map fun r => (':' :: r.1, r.2) := by
  rw [cutGap]
  exact fun _ _ hc => h (List.cons.inj hc).1

theorem cutGap_append : ∀ {piece : List Char}, ':' ∉ piece → ∀ rest : List Char,
    cutGap (piece ++ rest) = (cutGap rest).map fun r => (piece ++ r.1, r.2)
  | [], _, rest => by simp
  | c :: piece, h, rest => by
    obtain ⟨hc, hpiece⟩ := List.ne_and_not_mem_of_not_mem_cons h
    rw [List.cons_append, cutGap_cons_of_ne (Ne.symm hc), cutGap_append hpiece rest, Option.map_map]
    rfl

/-- **There is no gap in pieces with colons between them**, nor where they end. -/
theorem cutGap_join_append (rest : List Char) : ∀ {pieces : List (List Char)},
    (∀ piece ∈ pieces, piece ≠ [] ∧ ':' ∉ piece) →
      cutGap (join [':'] pieces ++ rest) = (cutGap rest).map fun r => (join [':'] pieces ++ r.1, r.2)
  | [], _ => by simp [join]
  | [piece], h => cutGap_append (h piece List.mem_cons_self).2 rest
  | piece :: next :: pieces, h => by
    obtain ⟨hpiece, hrest⟩ := List.forall_mem_cons.1 h
    have ih := cutGap_join_append rest hrest
    have hnext : next :: pieces ≠ [] := List.cons_ne_nil next pieces
    rw [join_cons piece hnext, List.append_assoc, List.append_assoc, List.singleton_append, cutGap_append hpiece.2]
    -- what follows the colon begins with a character of the next piece
    obtain ⟨c, more, hmore, hc⟩ := exists_join_eq_cons hnext hrest
    rw [hmore, List.cons_append] at ih ⊢
    rw [cutGap_colon_of_ne hc, ih, Option.map_map, Option.map_map]
    refine congrArg (fun f => (cutGap rest).map f) (funext fun r => ?_)
    simp

theorem eq_of_cutGap : ∀ {cs left right : List Char}, cutGap cs = some (left, right) →
    cs = left ++ ':' :: ':' :: right := by
  intro cs
  fun_induction cutGap cs with
  | case1 cs =>
    intro left right h
    obtain ⟨rfl, rfl⟩ := Prod.mk.inj (Option.some.inj h)
    rfl
  | case2 => exact nofun
  | case3 c cs _ ih =>
    intro left right h
    obtain ⟨⟨before, after⟩, hcut, heq⟩ := Option.map_eq_some_iff.1 h
    obtain ⟨rfl, rfl⟩ := Prod.mk.inj heq
    rw [ih hcut, List.cons_append]

/-- **What is recognised is what the grammar derives.** -/
theorem isText_iff : isText cs = true ↔ IsLiteral cs := by
  constructor
  · intro h
    unfold isText at h
    split at h
    · have hcount : Counts true (splitAt ':' cs) 8 := groupCount_eq_some.1 (eq_of_beq h)
      rw [← join_splitAt ':' cs]
      exact .whole hcount
    · rename_i left right hcut
      split at h
      · rename_i m n hm hn
        obtain ⟨ls, hls, rfl⟩ := sideCount_eq_some.1 hm
        obtain ⟨rs, hrs, rfl⟩ := sideCount_eq_some.1 hn
        rw [eq_of_cutGap hcut]
        exact .gap hls hrs (of_decide_eq_true h)
      · cases h
  · intro h
    cases h with
    | @whole pieces h =>
      have hpieces := h.colon_notMem
      have hne : pieces ≠ [] := by
        rintro rfl
        cases h
      have hcut : cutGap (join [':'] pieces) = none := by
        have hnone := cutGap_join_append [] hpieces
        rwa [List.append_nil] at hnone
      unfold isText
      rw [hcut]
      dsimp only
      rw [splitAt_join hne fun piece hpiece => (hpieces piece hpiece).2, groupCount_eq_some.2 h]
      rfl
    | @gap left right m n hl hr h =>
      have hcut : cutGap (join [':'] left ++ ':' :: ':' :: join [':'] right) = some (join [':'] left, join [':'] right) := by
        rw [cutGap_join_append _ hl.colon_notMem, cutGap, Option.map_some, List.append_nil]
      have hm : sideCount false (join [':'] left) = some m := sideCount_eq_some.2 ⟨left, hl, rfl⟩
      have hn : sideCount true (join [':'] right) = some n := sideCount_eq_some.2 ⟨right, hr, rfl⟩
      unfold isText
      rw [hcut]
      dsimp only
      rw [hm, hn]
      exact decide_eq_true h

/-! ## The characters of a literal -/

theorem Counts.le_length (h : Counts tail pieces n) : n ≤ pieces.length + 1 := by
  induction h with
  | none => exact Nat.zero_le _
  | group _ _ ih => exact Nat.succ_le_succ ih
  | address => exact Nat.le_refl _

theorem IsLiteral.colon_mem (h : IsLiteral cs) : ':' ∈ cs := by
  cases h with
  | @whole pieces h =>
    have hlength := h.le_length
    cases pieces with
    | nil => cases h
    | cons piece pieces =>
      have hne : pieces ≠ [] := by
        rintro rfl
        simp at hlength
      rw [join_cons piece hne]
      simp
  | gap => simp

theorem IsLiteral.chars (h : IsLiteral cs) : ∀ c ∈ cs, c = ':' ∨ IsPieceChar c := by
  have hjoin : ∀ {tail pieces n c}, Counts tail pieces n → c ∈ join [':'] pieces → c = ':' ∨ IsPieceChar c := by
    intro tail pieces n c hcounts hc
    rcases mem_join hc with hcolon | ⟨piece, hpiece, hmem⟩
    · exact .inl (List.mem_singleton.1 hcolon)
    · exact .inr ((hcounts.pieceChars piece hpiece).2 c hmem)
  intro c hc
  cases h with
  | whole h => exact hjoin h hc
  | gap hl hr _ =>
    rcases List.mem_append.1 hc with hc | hc
    · exact hjoin hl hc
    · rcases List.mem_cons.1 hc with rfl | hc
      · exact .inl rfl
      · rcases List.mem_cons.1 hc with rfl | hc
        · exact .inl rfl
        · exact hjoin hr hc

theorem IsLiteral.hyphen_notMem (h : IsLiteral cs) : '-' ∉ cs := by
  intro hc
  rcases h.chars '-' hc with hcolon | hdot | hdigit
  · exact absurd hcolon (by decide)
  · exact absurd hdot (by decide)
  · exact absurd hdigit (by decide)

end Ipv6
end AddressBinder
