/-!
# Maps from texts

A finite map with texts for keys, kept in the order of its keys: by code point, a text before its continuations.  The
order is part of the type, so two maps with the same entries are equal and a listing needs no sorting.
-/
namespace AddressBinder

/-- A finite map from texts, its entries in strictly increasing order of their keys. -/
structure TextMap (α : Type) where
  entries : List (String × α)
  sorted : entries.Pairwise (fun x y => x.1 < y.1)
deriving DecidableEq

namespace TextMap

variable {α β : Type}

def empty : TextMap α := ⟨[], List.Pairwise.nil⟩

instance : Inhabited (TextMap α) := ⟨empty⟩

/-- The keys in order. -/
def keys (m : TextMap α) : List String := m.entries.map Prod.fst

/-- The values in the order of their keys. -/
def values (m : TextMap α) : List α := m.entries.map Prod.snd

def get? (m : TextMap α) (key : String) : Option α := (m.entries.find? (fun e => e.1 == key)).map Prod.snd

def contains (m : TextMap α) (key : String) : Bool := (m.get? key).isSome

/-! ## Insertion -/

/-- The entries with one entry added, or put in the place of the entry with its key. -/
def insertEntry (key : String) (a : α) : List (String × α) → List (String × α)
  | [] => [(key, a)]
  | e :: rest =>
    if key < e.1 then (key, a) :: e :: rest
    else if key = e.1 then (key, a) :: rest
    else e :: insertEntry key a rest

theorem mem_insertEntry {key : String} {a : α} : ∀ {l : List (String × α)} {e : String × α},
    e ∈ insertEntry key a l → e = (key, a) ∨ e ∈ l
  | [], e, h => by simp [insertEntry] at h; exact Or.inl h
  | f :: rest, e, h => by
    unfold insertEntry at h
    split at h
    · rcases List.mem_cons.1 h with h | h
      · exact Or.inl h
      · exact Or.inr h
    · split at h
      · rcases List.mem_cons.1 h with h | h
        · exact Or.inl h
        · exact Or.inr (List.mem_cons_of_mem _ h)
      · rcases List.mem_cons.1 h with h | h
        · exact Or.inr (h ▸ List.mem_cons_self)
        · rcases mem_insertEntry h with h | h
          · exact Or.inl h
          · exact Or.inr (List.mem_cons_of_mem _ h)

theorem lt_of_not_le {x y : String} (h1 : ¬ x < y) (h2 : x ≠ y) : y < x := by
  rcases Decidable.em (y < x) with h | h
  · exact h
  · exact absurd (String.le_antisymm (String.not_lt.1 h) (String.not_lt.1 h1)) h2

/-- **Insertion keeps the order.** -/
theorem sorted_insertEntry (key : String) (a : α) : ∀ {l : List (String × α)},
    l.Pairwise (fun x y => x.1 < y.1) → (insertEntry key a l).Pairwise (fun x y => x.1 < y.1)
  | [], _ => by simp [insertEntry]
  | e :: rest, h => by
    obtain ⟨h1, h2⟩ := List.pairwise_cons.1 h
    unfold insertEntry
    by_cases hlt : key < e.1
    · rw [if_pos hlt]
      refine List.pairwise_cons.2 ⟨fun x hx => ?_, h⟩
      rcases List.mem_cons.1 hx with rfl | hx
      · exact hlt
      · exact String.lt_trans hlt (h1 x hx)
    · rw [if_neg hlt]
      by_cases heq : key = e.1
      · rw [if_pos heq]
        exact List.pairwise_cons.2 ⟨fun x hx => heq ▸ h1 x hx, h2⟩
      · rw [if_neg heq]
        refine List.pairwise_cons.2 ⟨fun x hx => ?_, sorted_insertEntry key a h2⟩
        rcases mem_insertEntry hx with rfl | hx
        · exact lt_of_not_le hlt heq
        · exact h1 x hx

/-- The map with a value put at a key. -/
def insert (m : TextMap α) (key : String) (a : α) : TextMap α :=
  ⟨insertEntry key a m.entries, sorted_insertEntry key a m.sorted⟩

theorem find?_insertEntry (key : String) (a : α) (key' : String) : ∀ l : List (String × α),
    ((insertEntry key a l).find? (fun e => e.1 == key')).map Prod.snd =
      if key' = key then some a else (l.find? (fun e => e.1 == key')).map Prod.snd
  | [] => by
    by_cases h : key' = key
    · simp [insertEntry, h]
    · simp [insertEntry, h, Ne.symm h]
  | e :: rest => by
    have ih := find?_insertEntry key a key' rest
    unfold insertEntry
    by_cases hlt : key < e.1
    · rw [if_pos hlt]
      by_cases h : key' = key
      · simp [h]
      · simp [h, Ne.symm h]
    · rw [if_neg hlt]
      by_cases heq : key = e.1
      · rw [if_pos heq]
        by_cases h : key' = key
        · simp [h]
        · have he : ¬ e.1 = key' := fun hk => h (by rw [← hk, heq])
          simp [h, Ne.symm h, he]
      · rw [if_neg heq]
        by_cases he : e.1 = key'
        · have h : ¬ key' = key := fun hk => heq (by rw [← hk, he])
          simp [he, h]
        · simpa [he] using ih

/-- **Insertion changes the value of one key.** -/
theorem get?_insert (m : TextMap α) (key : String) (a : α) (key' : String) :
    (m.insert key a).get? key' = if key' = key then some a else m.get? key' :=
  find?_insertEntry key a key' m.entries

@[simp] theorem get?_empty (key : String) : (empty : TextMap α).get? key = none := rfl

/-- The map with the entries put in one after the other, so that of a repeated key the last one stays. -/
def ofList (es : List (String × α)) : TextMap α := es.foldl (fun m e => m.insert e.1 e.2) empty

/-! ## Changing values -/

/-- The entries with `f` applied to the value of a key. -/
def modifyEntry (key : String) (f : α → α) (l : List (String × α)) : List (String × α) :=
  l.map (fun e => if e.1 = key then (e.1, f e.2) else e)

theorem sorted_modifyEntry (key : String) (f : α → α) {l : List (String × α)}
    (h : l.Pairwise (fun x y => x.1 < y.1)) : (modifyEntry key f l).Pairwise (fun x y => x.1 < y.1) := by
  unfold modifyEntry
  refine List.pairwise_map.2 (h.imp (fun {x y} hxy => ?_))
  split <;> split <;> exact hxy

/-- The map with `f` applied to the value of a key, if it has the key. -/
def modify (m : TextMap α) (key : String) (f : α → α) : TextMap α :=
  ⟨modifyEntry key f m.entries, sorted_modifyEntry key f m.sorted⟩

theorem find?_modifyEntry (key : String) (f : α → α) (key' : String) : ∀ l : List (String × α),
    ((modifyEntry key f l).find? (fun e => e.1 == key')).map Prod.snd =
      ((l.find? (fun e => e.1 == key')).map Prod.snd).map (if key' = key then f else id)
  | [] => rfl
  | e :: rest => by
    have ih := find?_modifyEntry key f key' rest
    unfold modifyEntry at ih ⊢
    by_cases he : e.1 = key'
    · by_cases h : e.1 = key
      · simp [← he, h]
      · simp [← he, h]
    · by_cases h : e.1 = key
      · simpa [he, h, h ▸ he] using ih
      · simpa [he, h] using ih

/-- **Changing a value changes the value of one key.** -/
theorem get?_modify (m : TextMap α) (key : String) (f : α → α) (key' : String) :
    (m.modify key f).get? key' = (m.get? key').map (if key' = key then f else id) :=
  find?_modifyEntry key f key' m.entries

/-- The key of the first entry, in the order of the keys, whose value is in the class `p`. -/
def firstKey? (m : TextMap α) (p : α → Bool) : Option String := (m.entries.find? (fun e => p e.2)).map Prod.fst

end TextMap
end AddressBinder
