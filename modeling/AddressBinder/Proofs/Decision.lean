import AddressBinder.Decision
/-!
# The decision picks the first of the best

What `Decision.best?` picks is the first interface of those whose address comes first in the pool, and it picks one
whenever there is an interface with a candidate address.
-/
namespace AddressBinder
namespace Decision

variable {candidates : Candidates} {l : List Interface} {i : Interface}

/-- Whether an interface has a candidate address. -/
def IsCandidate (candidates : Candidates) (i : Interface) : Prop := ∃ ip, i.privateIp = some ip ∧ ip ∈ candidates.addresses

/-- The interface stands in a list, its address comes before those of all earlier ones in the pool, and not after those
of all later ones. -/
def Chosen (candidates : Candidates) (l : List Interface) (i : Interface) : Prop :=
  ∃ before after k, l = before ++ i :: after ∧ rank? candidates i = some k ∧
    (∀ j ∈ before, ∀ n, rank? candidates j = some n → k < n) ∧ ∀ j ∈ after, ∀ n, rank? candidates j = some n → k ≤ n

theorem rank?_eq_none : rank? candidates i = none ↔ ¬ IsCandidate candidates i := by
  unfold rank? IsCandidate
  cases i.privateIp with
  | none => simp
  | some ip => simp [Candidates.position, List.idxOf?_eq_none_iff]

theorem isCandidate_of_rank? {k : Nat} (h : rank? candidates i = some k) : IsCandidate candidates i :=
  Classical.byContradiction fun hc => by
    rw [rank?_eq_none.2 hc] at h
    cases h

theorem best?_eq_none : ∀ {l : List Interface}, best? candidates l = none ↔ ∀ i ∈ l, ¬ IsCandidate candidates i
  | [] => by simp [best?]
  | i :: rest => by
    rw [List.forall_mem_cons, ← best?_eq_none, ← rank?_eq_none, best?]
    cases rank? candidates i with
    | none => simp
    | some m =>
      cases best? candidates rest with
      | none => simp
      | some j =>
        simp only [reduceCtorEq, false_and, iff_false]
        split
        · split <;> nofun
        · nofun

theorem Chosen.cons_of_none {i j : Interface} (h : Chosen candidates l j) (hi : rank? candidates i = none) :
    Chosen candidates (i :: l) j := by
  obtain ⟨before, after, k, rfl, hk, hb, ha⟩ := h
  refine ⟨i :: before, after, k, rfl, hk, List.forall_mem_cons.2 ⟨fun n hn => ?_, hb⟩, ha⟩
  rw [hi] at hn
  cases hn

/-- **What is picked is the first of the best.** -/
theorem chosen_of_best? : ∀ {l : List Interface} {i : Interface}, best? candidates l = some i → Chosen candidates l i
  | [], i, h => by cases h
  | i :: rest, j, h => by
    rw [best?] at h
    cases hi : rank? candidates i with
    | none =>
      rw [hi] at h
      exact (chosen_of_best? h).cons_of_none hi
    | some m =>
      rw [hi] at h
      cases hrest : best? candidates rest with
      | none =>
        rw [hrest] at h
        obtain rfl := Option.some.inj h
        refine ⟨[], rest, m, rfl, hi, nofun, fun j' hj n hn => ?_⟩
        exact absurd (isCandidate_of_rank? hn) (best?_eq_none.1 hrest j' hj)
      | some j' =>
        obtain ⟨before, after, k, rfl, hk, hb, ha⟩ := chosen_of_best? hrest
        rw [hrest] at h
        simp only [hk] at h
        split at h
        · rename_i hlt
          obtain rfl := Option.some.inj h
          refine ⟨i :: before, after, k, rfl, hk, List.forall_mem_cons.2 ⟨fun n hn => ?_, hb⟩, ha⟩
          rw [hi] at hn
          obtain rfl := Option.some.inj hn
          exact hlt
        · rename_i hge
          obtain rfl := Option.some.inj h
          have hle : m ≤ k := Nat.le_of_not_lt hge
          refine ⟨[], _, m, rfl, hi, nofun, fun a hmem n hn => ?_⟩
          rcases List.mem_append.1 hmem with hmem | hmem
          · exact Nat.le_of_lt (Nat.lt_of_le_of_lt hle (hb a hmem n hn))
          · rcases List.mem_cons.1 hmem with rfl | hmem
            · rw [hk] at hn
              obtain rfl := Option.some.inj hn
              exact hle
            · exact Nat.le_trans hle (ha a hmem n hn)

theorem Chosen.mem (h : Chosen candidates l i) : i ∈ l := by
  obtain ⟨before, after, -, rfl, -⟩ := h
  exact List.mem_append_right before List.mem_cons_self

theorem Chosen.rank_le (h : Chosen candidates l i) : ∃ k, rank? candidates i = some k ∧
    ∀ j ∈ l, ∀ n, rank? candidates j = some n → k ≤ n := by
  obtain ⟨before, after, k, rfl, hk, hb, ha⟩ := h
  refine ⟨k, hk, fun j hj n hn => ?_⟩
  rcases List.mem_append.1 hj with hj | hj
  · exact Nat.le_of_lt (hb j hj n hn)
  · rcases List.mem_cons.1 hj with rfl | hj
    · rw [hk] at hn
      exact Nat.le_of_eq (Option.some.inj hn)
    · exact ha j hj n hn

theorem Chosen.isCandidate (h : Chosen candidates l i) : IsCandidate candidates i := by
  obtain ⟨-, -, k, -, hk, -⟩ := h
  exact isCandidate_of_rank? hk

/-! ## Filters -/

theorem best?_cons_of_not {l : List Interface} (h : ¬ IsCandidate candidates i) :
    best? candidates (i :: l) = best? candidates l := by
  rw [best?, rank?_eq_none.2 h]

/-- **A filter that lets every candidate pass does not change what is picked.** -/
theorem best?_filter {p : Interface → Bool} (h : ∀ i, IsCandidate candidates i → p i = true) :
    ∀ l : List Interface, best? candidates (l.filter p) = best? candidates l
  | [] => rfl
  | i :: rest => by
    have ih : best? candidates (rest.filter p) = best? candidates rest := best?_filter h rest
    by_cases hp : p i = true
    · rw [List.filter_cons_of_pos hp, best?, best?, ih]
    · have hi : ¬ IsCandidate candidates i := fun hi => hp (h i hi)
      rw [List.filter_cons_of_neg hp, best?_cons_of_not hi, ih]

theorem admits_eq (ips : List Ipv4) (status : Option InterfaceStatus) (subnet : Option String) (i : Interface) :
    InterfaceFilter.admits ⟨ips, status, subnet⟩ i =
      (InterfaceFilter.admits ⟨ips, none, none⟩ i && InterfaceFilter.admits ⟨[], status, subnet⟩ i) := by
  simp [InterfaceFilter.admits, Bool.and_assoc]

theorem admits_of_isCandidate (h : IsCandidate candidates i) :
    InterfaceFilter.admits ⟨candidates.addresses, none, none⟩ i = true := by
  obtain ⟨ip, hip, hmem⟩ := h
  simp [InterfaceFilter.admits, hip, hmem]

/-- **The addresses may be left to the provider or not**: what is selected out of the interfaces that have a candidate
address as well is selected out of all that pass the rest of the filter.  For a pool without addresses the two filters
are the same, and nothing is selected. -/
theorem select?_filter (candidates : Candidates) (status : Option InterfaceStatus) (subnet : Option String)
    (l : List Interface) :
    select? (l.filter (InterfaceFilter.admits ⟨candidates.addresses, status, subnet⟩)) candidates =
      select? (l.filter (InterfaceFilter.admits ⟨[], status, subnet⟩)) candidates := by
  have hsplit : l.filter (InterfaceFilter.admits ⟨candidates.addresses, status, subnet⟩) =
      (l.filter (InterfaceFilter.admits ⟨[], status, subnet⟩)).filter
        (InterfaceFilter.admits ⟨candidates.addresses, none, none⟩) := by
    rw [List.filter_filter]
    exact List.filter_congr fun i _ => admits_eq candidates.addresses status subnet i
  rw [hsplit]
  exact best?_filter (fun i hi => admits_of_isCandidate hi) _

end Decision
end AddressBinder
