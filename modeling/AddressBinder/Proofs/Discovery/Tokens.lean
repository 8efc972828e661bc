import Mathlib.Data.List.Forall2
import AddressBinder.Discovery.Source
import AddressBinder.Proofs.Text.Words
/-!
# The tokens of TXT records

What a name service's records list, said without reading them: their words one after the other, each a name between any
double quotes or nothing but such quotes.  However the names are spread over the records and quoted, they are the tokens
(`tokens_eq_iff`).
-/
namespace AddressBinder
namespace Discovery

open Text

/-- Words stand for names: each for one, with any double quotes around it, or for none when it is all quotes. -/
inductive StandFor : List (List Char) → List (List Char) → Prop where
  | nil : StandFor [] []
  | quotes {w : List Char} {ws names : List (List Char)} (hw : ∀ c ∈ w, (c == '"') = true) (h : StandFor ws names) :
      StandFor (w :: ws) names
  | name {lead name tail : List Char} {ws names : List (List Char)} (hne : name ≠ [])
      (hname : IsTrimmed (· == '"') name) (hlead : ∀ c ∈ lead, (c == '"') = true) (htail : ∀ c ∈ tail, (c == '"') = true)
      (h : StandFor ws names) : StandFor ((lead ++ name ++ tail) :: ws) (name :: names)

/-- The records list the names, in order, spread over them and quoted in any way. -/
def Lists (records : List String) (names : List (List Char)) : Prop :=
  ∃ lines, List.Forall₂ (fun record line => HasWords record.toList line) records lines ∧ StandFor lines.flatten names

/-- The names that words stand for. -/
def unquoted (ws : List (List Char)) : List (List Char) :=
  (ws.map (dropEnds (· == '"'))).filter fun t => !t.isEmpty

theorem unquoted_eq_of_standFor {ws names : List (List Char)} (h : StandFor ws names) : unquoted ws = names := by
  unfold unquoted
  induction h with
  | nil => rfl
  | @quotes w ws names hw _ ih =>
    have hnone : dropEnds (· == '"') (w ++ [] ++ []) = [] :=
      isTrimmed_nil.dropEnds_between hw fun _ hc => absurd hc List.not_mem_nil
    rw [List.append_nil, List.append_nil] at hnone
    rw [List.map_cons, hnone]
    exact ih
  | name hne hname hlead htail _ ih =>
    rw [List.map_cons, hname.dropEnds_between hlead htail, List.filter_cons_of_pos (by simpa using hne), ih]

theorem standFor_unquoted : ∀ ws : List (List Char), StandFor ws (unquoted ws)
  | [] => .nil
  | w :: ws => by
    have ih := standFor_unquoted ws
    obtain ⟨htrimmed, lead, tail, hw, hlead, htail⟩ := exists_eq_dropEnds (· == '"') w
    by_cases hne : dropEnds (· == '"') w = []
    · have hskip : unquoted (w :: ws) = unquoted ws := by simp [unquoted, hne]
      rw [hskip]
      refine .quotes (fun c hc => ?_) ih
      rw [hw, hne, List.append_nil] at hc
      exact (List.mem_append.1 hc).elim (hlead c) (htail c)
    · have hkeep : unquoted (w :: ws) = dropEnds (· == '"') w :: unquoted ws := by simp [unquoted, hne]
      have hstand := StandFor.name hne htrimmed hlead htail ih
      rw [hkeep]
      rwa [← hw] at hstand

theorem forall₂_hasWords {records : List String} {lines : List (List (List Char))} :
    List.Forall₂ (fun record line => HasWords record.toList line) records lines ↔
      lines = records.map fun record => words record.toList := by
  simp [← words_eq_iff, @eq_comm _ lines, ← List.forall₂_eq_eq_eq, List.forall₂_map_left_iff]

/-- **The tokens of records are the names they list**, however these are spread and quoted. -/
theorem tokens_eq_iff {records : List String} {names : List (List Char)} :
    tokens records = names ↔ Lists records names := by
  have htokens : tokens records = unquoted (records.map fun record => words record.toList).flatten := by
    unfold tokens unquoted
    rw [List.flatMap_def]
  rw [htokens]
  constructor
  · rintro rfl
    exact ⟨_, forall₂_hasWords.2 rfl, standFor_unquoted _⟩
  · rintro ⟨lines, hlines, hnames⟩
    rw [← forall₂_hasWords.1 hlines]
    exact unquoted_eq_of_standFor hnames

end Discovery
end AddressBinder
