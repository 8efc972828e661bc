import AddressBinder.TextMap
/-!
# What a map holds

The entries of a map are its keys with their values (`mem_entries`), so what is said of the listed values is said of
the keys: a value is listed when some key has it, and the first key of a class of values has a value in the class.
-/
namespace AddressBinder
namespace TextMap

variable {α : Type}

theorem mem_iff_find?_of_sorted {key : String} {a : α} : ∀ {l : List (String × α)},
    l.Pairwise (fun x y => x.1 < y.1) → ((key, a) ∈ l ↔ (l.find? (fun e => e.1 == key)).map Prod.snd = some a)
  | [], _ => by simp
  | e :: rest, h => by
    obtain ⟨hlt, hrest⟩ := List.pairwise_cons.1 h
    have ih : (key, a) ∈ rest ↔ (rest.find? (fun e => e.1 == key)).map Prod.snd = some a := mem_iff_find?_of_sorted hrest
    by_cases he : e.1 = key
    · have hout : (key, a) ∉ rest := fun hmem => by
        have hke : e.1 < key := hlt (key, a) hmem
        exact String.lt_irrefl key (he ▸ hke)
      simp [he, hout, Prod.ext_iff, eq_comm]
    · have hne : (key, a) ≠ e := fun h => he (h ▸ rfl)
      simp [he, hne, ih]

theorem mem_entries {m : TextMap α} {key : String} {a : α} : (key, a) ∈ m.entries ↔ m.get? key = some a :=
  mem_iff_find?_of_sorted m.sorted

theorem mem_values {m : TextMap α} {a : α} : a ∈ m.values ↔ ∃ key, m.get? key = some a := by
  unfold values
  rw [List.mem_map]
  constructor
  · rintro ⟨⟨key, a⟩, hmem, rfl⟩
    exact ⟨key, mem_entries.1 hmem⟩
  · rintro ⟨key, hkey⟩
    exact ⟨(key, a), mem_entries.2 hkey, rfl⟩

theorem forall_get? {m : TextMap α} {P : String → α → Prop} :
    (∀ key a, m.get? key = some a → P key a) ↔ ∀ e ∈ m.entries, P e.1 e.2 := by
  constructor
  · rintro h ⟨key, a⟩ he
    exact h key a (mem_entries.1 he)
  · intro h key a ha
    exact h (key, a) (mem_entries.2 ha)

theorem get?_modify_of {m : TextMap α} {key : String} {a : α} (h : m.get? key = some a) (f : α → α) (key' : String) :
    (m.modify key f).get? key' = if key' = key then some (f a) else m.get? key' := by
  rw [get?_modify]
  by_cases hk : key' = key
  · subst hk
    simp [h]
  · simp [hk]

theorem contains_insert {m : TextMap α} {key key' : String} {a : α} (h : m.contains key' = true) :
    (m.insert key a).contains key' = true := by
  unfold contains at h ⊢
  rw [get?_insert]
  by_cases hk : key' = key
  · simp [hk]
  · simp [hk, h]

theorem get?_of_firstKey? {m : TextMap α} {p : α → Bool} {key : String} (h : m.firstKey? p = some key) :
    ∃ a, m.get? key = some a ∧ p a = true := by
  obtain ⟨⟨key', a⟩, hfind, rfl⟩ := Option.map_eq_some_iff.1 h
  have hp := List.find?_some hfind
  exact ⟨a, mem_entries.1 (List.mem_of_find?_eq_some hfind), hp⟩

theorem insertEntry_of_forall_lt {key : String} {a : α} : ∀ {l : List (String × α)}, (∀ e ∈ l, e.1 < key) →
    insertEntry key a l = l ++ [(key, a)]
  | [], _ => rfl
  | e :: rest, h => by
    obtain ⟨he, hrest⟩ := List.forall_mem_cons.1 h
    have hlt : ¬ key < e.1 := String.lt_asymm he
    have hne : key ≠ e.1 := fun heq => String.lt_irrefl key (heq ▸ he)
    rw [insertEntry, if_neg hlt, if_neg hne, insertEntry_of_forall_lt hrest, List.cons_append]

theorem entries_foldl_insert : ∀ {es : List (String × α)} {m : TextMap α},
    (m.entries ++ es).Pairwise (fun x y => x.1 < y.1) → (es.foldl (fun m e => m.insert e.1 e.2) m).entries = m.entries ++ es
  | [], m, _ => (List.append_nil m.entries).symm
  | e :: es, m, h => by
    have hlast : ∀ x ∈ m.entries, x.1 < e.1 := fun x hx => (List.pairwise_append.1 h).2.2 x hx e List.mem_cons_self
    have hput : (m.insert e.1 e.2).entries = m.entries ++ [e] := insertEntry_of_forall_lt hlast
    rw [List.foldl_cons, entries_foldl_insert (by rw [hput, List.append_assoc]; exact h), hput, List.append_assoc]
    rfl

theorem ext_entries {m n : TextMap α} (h : m.entries = n.entries) : m = n := by
  cases m
  cases n
  cases h
  rfl

theorem nodup_entries (m : TextMap α) : m.entries.Nodup := by
  refine m.sorted.imp fun {x y} hlt => ?_
  rintro rfl
  exact String.lt_irrefl x.1 hlt

/-- **A map is known by the values of its keys.** -/
theorem ext_get? {m n : TextMap α} (h : ∀ key, m.get? key = n.get? key) : m = n := by
  have hmem : ∀ e, e ∈ m.entries ↔ e ∈ n.entries := fun e => by rw [mem_entries, mem_entries, h e.1]
  have hperm : m.entries.Perm n.entries := (List.perm_ext_iff_of_nodup m.nodup_entries n.nodup_entries).2 hmem
  exact ext_entries (hperm.eq_of_pairwise (fun x y _ _ hxy hyx => absurd hyx (String.lt_asymm hxy)) m.sorted n.sorted)

/-- **A map is made anew from its entries.** -/
theorem ofList_entries (m : TextMap α) : ofList m.entries = m :=
  ext_entries (entries_foldl_insert (m := empty) m.sorted)

/-- **A change that another one takes back leaves the map as it was.** -/
theorem modify_modify_cancel {m : TextMap α} {key : String} {a : α} {f g : α → α} (h : m.get? key = some a)
    (hback : g (f a) = a) : (m.modify key f).modify key g = m := by
  refine ext_entries ?_
  unfold modify modifyEntry
  dsimp only
  rw [List.map_map, List.map_congr_left fun e he => ?_, List.map_id]
  by_cases hk : e.1 = key
  · have hvalue : m.get? e.1 = some e.2 := mem_entries.1 he
    rw [hk, h] at hvalue
    obtain rfl := Option.some.inj hvalue
    simp only [Function.comp_apply, if_pos hk, hback]
    rfl
  · simp only [Function.comp_apply, if_neg hk]
    rfl

theorem filter_modifyEntry {key : String} {f : α → α} {p : α → Bool} : ∀ {l : List (String × α)},
    (∀ e ∈ l, e.1 = key → p e.2 = false ∧ p (f e.2) = false) →
      ((modifyEntry key f l).map Prod.snd).filter p = (l.map Prod.snd).filter p
  | [], _ => rfl
  | e :: rest, h => by
    have ih : ((modifyEntry key f rest).map Prod.snd).filter p = (rest.map Prod.snd).filter p :=
      filter_modifyEntry fun e he => h e (List.mem_cons_of_mem _ he)
    unfold modifyEntry at ih ⊢
    rw [List.map_map] at ih
    by_cases hk : e.1 = key
    · obtain ⟨hold, hnew⟩ := h e List.mem_cons_self hk
      simp [hk, hold, hnew, ih]
    · simp [hk, List.filter_cons, ih]

/-- **What is listed of a class does not change with a value that is not in the class**, before and after. -/
theorem filter_values_modify {m : TextMap α} {key : String} {a : α} {f : α → α} {p : α → Bool}
    (h : m.get? key = some a) (hold : p a = false) (hnew : p (f a) = false) :
    (m.modify key f).values.filter p = m.values.filter p := by
  refine filter_modifyEntry fun e he hk => ?_
  have hvalue : m.get? e.1 = some e.2 := mem_entries.1 he
  rw [hk, h] at hvalue
  obtain rfl := Option.some.inj hvalue
  exact ⟨hold, hnew⟩

end TextMap
end AddressBinder
