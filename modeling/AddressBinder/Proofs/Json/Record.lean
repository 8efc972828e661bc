import AddressBinder.Json.Record
import AddressBinder.Proofs.Text.Numeral
/-!
# Documents with members left out

`Abridges default? v w`: `w` is `v` with members left out, at any level, whose values are the defaults of their
names.  A record read from an abridged object shows each of the members written or left out at its default
(`ofJson?_of_abridges`), and so each reader of a field gets the value of the whole object.
-/
namespace AddressBinder
namespace Json

/-- The second object is the first one with values replaced by related ones and members left out whose values are the
defaults of their names. -/
inductive Pruned (related : Json → Json → Prop) (default? : String → Option Json) :
    List (Option String × Json) → List (Option String × Json) → Prop where
  | nil : Pruned related default? [] []
  | keep {key : Option String} {v w : Json} {ms ns : List (Option String × Json)} (hv : related v w)
      (h : Pruned related default? ms ns) : Pruned related default? ((key, v) :: ms) ((key, w) :: ns)
  | drop {name : String} {v : Json} {ms ns : List (Option String × Json)} (hv : default? name = some v)
      (h : Pruned related default? ms ns) : Pruned related default? ((some name, v) :: ms) ns

/-- The second value is the first one with members left out, at any level, whose values are the defaults of their
names. -/
inductive Abridges (default? : String → Option Json) : Json → Json → Prop where
  | refl (v : Json) : Abridges default? v v
  | obj {ms ns : List (Option String × Json)} (h : Pruned (Abridges default?) default? ms ns) :
      Abridges default? (.obj ms) (.obj ns)

variable {related : Json → Json → Prop} {default? : String → Option Json}

theorem Pruned.refl (h : ∀ v, related v v) : ∀ ms : List (Option String × Json), Pruned related default? ms ms
  | [] => .nil
  | (_, v) :: ms => .keep (h v) (Pruned.refl h ms)

theorem Abridges.members {ms : List (Option String × Json)} {w : Json} (h : Abridges default? (.obj ms) w) :
    ∃ ns, w = .obj ns ∧ Pruned (Abridges default?) default? ms ns := by
  cases h with
  | refl => exact ⟨ms, rfl, .refl .refl ms⟩
  | obj h => exact ⟨_, rfl, h⟩

/-- Nothing is left out of an object whose values are whole and are not the defaults of their names. -/
theorem Pruned.eq_self : ∀ {ms ns : List (Option String × Json)},
    (∀ m ∈ ms, (∀ w, related m.2 w → w = m.2) ∧ ∀ name, default? name ≠ some m.2) → Pruned related default? ms ns → ns = ms
  | [], _, _, h => by
    cases h
    rfl
  | (key, v) :: ms, _, hms, h => by
    obtain ⟨⟨hwhole, hother⟩, hrest⟩ := List.forall_mem_cons.1 hms
    cases h with
    | keep hv h => rw [hwhole _ hv, Pruned.eq_self hrest h]
    | drop hv h => exact absurd hv (hother _)

namespace Record

/-- The record has a field with a value related to `v`, or lacks the field and `v` is its default. -/
inductive Shows (related : Json → Json → Prop) (default? : String → Option Json) (r : Record) (name : String) (v : Json) :
    Prop where
  | written {w : Json} (h : r.find? name = some w) (hv : related v w)
  | omitted (h : r.find? name = none) (hv : default? name = some v)

theorem find?_cons (byName : Bool) (f : String × Json) (fields : List (String × Json)) (name : String) :
    find? ⟨byName, f :: fields⟩ name = if f.1 = name then some f.2 else find? ⟨byName, fields⟩ name := by
  unfold find?
  by_cases h : f.1 = name <;> simp [h]

theorem Shows.cons {f : String × Json} {fields : List (String × Json)} {name : String} {v : Json}
    (h : Shows related default? ⟨true, fields⟩ name v) (hne : f.1 ≠ name) :
    Shows related default? ⟨true, f :: fields⟩ name v := by
  cases h with
  | written h hv => exact .written (by rw [find?_cons, if_neg hne, h]) hv
  | omitted h hv => exact .omitted (by rw [find?_cons, if_neg hne, h]) hv

theorem find?_eq_none {fields : List (String × Json)} {name : String} (h : ∀ f ∈ fields, f.1 ≠ name) :
    find? ⟨true, fields⟩ name = none := by
  unfold find?
  rw [List.find?_eq_none.2 fun f hf => by simpa using h f hf, Option.map_none]

/-- What is known of a pruned object: fields named as its members are, which show each member. -/
theorem known_of_pruned {names : List String} : ∀ {ms : List (String × Json)} {ns : List (Option String × Json)},
    (∀ m ∈ ms, m.1 ∈ names) → (ms.map Prod.fst).Nodup →
      Pruned related default? (ms.map fun m => (some m.1, m.2)) ns →
        ∃ fields, known names ns = some fields ∧ (∀ f ∈ fields, f.1 ∈ ms.map Prod.fst) ∧
          ∀ m ∈ ms, Shows related default? ⟨true, fields⟩ m.1 m.2
  | [], _, _, _, h => by
    cases h
    exact ⟨[], rfl, fun f hf => absurd hf List.not_mem_nil, fun m hm => absurd hm List.not_mem_nil⟩
  | (name, v) :: ms, _, hnames, hnodup, h => by
    have hrest : ∀ m ∈ ms, m.1 ∈ names := fun m hm => hnames m (List.mem_cons_of_mem _ hm)
    obtain ⟨hfresh, hnodup⟩ := List.nodup_cons.1 hnodup
    cases h with
    | @keep _ _ w _ ns hv h =>
      obtain ⟨fields, hknown, hfields, hshows⟩ := known_of_pruned hrest hnodup h
      have hnew : ∀ f ∈ fields, f.1 ≠ name := fun f hf heq => hfresh (heq ▸ hfields f hf)
      refine ⟨(name, w) :: fields, ?_, ?_, ?_⟩
      · have hname : name ∈ names := hnames _ List.mem_cons_self
        have hany : fields.any (fun f => f.1 == name) = false := by simpa using fun a b hab => hnew (a, b) hab
        simp [known, hknown, hname, hany]
      · intro f hf
        rcases List.mem_cons.1 hf with rfl | hf
        · exact List.mem_cons_self
        · exact List.mem_cons_of_mem _ (hfields f hf)
      · intro m hm
        rcases List.mem_cons.1 hm with rfl | hm
        · exact .written (by rw [find?_cons, if_pos rfl]) hv
        · exact (hshows m hm).cons fun heq => hfresh (heq ▸ List.mem_map_of_mem hm)
    | drop hv h =>
      obtain ⟨fields, hknown, hfields, hshows⟩ := known_of_pruned hrest hnodup h
      -- no other member has the name of the one left out, so its field is missing
      refine ⟨fields, hknown, fun f hf => List.mem_cons_of_mem _ (hfields f hf), fun m hm => ?_⟩
      rcases List.mem_cons.1 hm with rfl | hm
      · exact .omitted (find?_eq_none fun f hf heq => hfresh (heq ▸ hfields f hf)) hv
      · exact hshows m hm

/-- **A pruned object is read as a record that shows each member.** -/
theorem ofJson?_of_pruned (ms : List (String × Json)) {ns : List (Option String × Json)} (hnodup : (ms.map Prod.fst).Nodup)
    (h : Pruned related default? (ms.map fun m => (some m.1, m.2)) ns) :
    ∃ r, ofJson? (ms.map Prod.fst) (.obj ns) = some r ∧ ∀ m ∈ ms, Shows related default? r m.1 m.2 := by
  obtain ⟨fields, hknown, -, hshows⟩ := known_of_pruned (fun m hm => List.mem_map_of_mem hm) hnodup h
  exact ⟨⟨true, fields⟩, by simp [ofJson?, hknown], hshows⟩

/-- **A whole object is read as a record of its members.** -/
theorem ofJson?_object (ms : List (String × Json)) (hnodup : (ms.map Prod.fst).Nodup) :
    ∃ r, ofJson? (ms.map Prod.fst) (.object ms) = some r ∧ ∀ m ∈ ms, r.find? m.1 = some m.2 := by
  have hwhole : Pruned Eq (fun _ => none) (ms.map fun m => (some m.1, m.2)) (ms.map fun m => (some m.1, m.2)) :=
    .refl (fun _ => rfl) _
  obtain ⟨r, hr, hshows⟩ := ofJson?_of_pruned ms hnodup hwhole
  refine ⟨r, hr, fun m hm => ?_⟩
  cases hshows m hm with
  | written h hv => rw [h, hv]
  | omitted h hv => cases hv

/-! ## Reading the fields -/

section Fields

variable {α : Type} {r : Record} {name : String} {v : Json} {read : Json → Option α} {a : α}

theorem Shows.required (h : Shows related default? r name v) (hread : ∀ w, related v w → read w = some a)
    (hname : default? name = none) : r.required name read = some a := by
  cases h with
  | written h hv => simp only [Record.required, h, hread _ hv]
  | omitted h hv =>
    rw [hname] at hv
    cases hv

/-- A field with a default is read back if what is left out for it is read as the default that is taken. -/
theorem Shows.withDefault (h : Shows related default? r name v) (default : α) {d : Json} (hrefl : related v v)
    (hread : ∀ w, related v w → read w = some a) (hname : default? name = some d) (hdefault : read d = some default) :
    r.withDefault name read default = some a := by
  cases h with
  | written h hv => simp only [Record.withDefault, h, hread _ hv]
  | omitted h hv =>
    obtain rfl : d = v := Option.some.inj (hname.symm.trans hv)
    simp only [Record.withDefault, h]
    rw [← hdefault, hread d hrefl]

end Fields

end Record

/-! ## Reading scalars and lists -/

section Values

variable {α : Type} {read : Json → Option α}

theorem natUpTo?_ofNat {limit n : Nat} (h : n ≤ limit) : natUpTo? limit (.ofNat n) = some n := by
  simp only [natUpTo?, ofNat, Text.digits?_numeral, if_pos h]

theorem nullable?_of_ne_null {v : Json} (h : v ≠ .null) : nullable? read v = (read v).map some := by
  cases v <;> first | rfl | exact absurd rfl h

theorem nullable?_ofOption {f : α → Json} {a : Option α} (h : ∀ x, a = some x → f x ≠ .null ∧ read (f x) = some x) :
    nullable? read (.ofOption f a) = some a := by
  cases a with
  | none => rfl
  | some x =>
    obtain ⟨hne, hread⟩ := h x rfl
    rw [ofOption, nullable?_of_ne_null hne, hread]
    rfl

theorem nullable?_of_abridges {f : α → Json} {a : Option α}
    (h : ∀ x w, a = some x → Abridges default? (f x) w → w ≠ .null ∧ read w = some x) {w : Json}
    (hw : Abridges default? (.ofOption f a) w) : nullable? read w = some a := by
  cases a with
  | none =>
    cases hw
    rfl
  | some x =>
    obtain ⟨hne, hread⟩ := h x w rfl hw
    rw [nullable?_of_ne_null hne, hread]
    rfl

theorem mapM_map_eq_some {β : Type} {f : α → β} {g : β → Option α} : ∀ {xs : List α}, (∀ x ∈ xs, g (f x) = some x) →
    (xs.map f).mapM g = some xs
  | [], _ => rfl
  | x :: xs, h => by
    have ih : (xs.map f).mapM g = some xs := mapM_map_eq_some fun y hy => h y (List.mem_cons_of_mem x hy)
    simp [List.mapM_cons, h x List.mem_cons_self, ih]

theorem list?_ofList {f : α → Json} {xs : List α} (h : ∀ x ∈ xs, read (f x) = some x) :
    list? read (.ofList f xs) = some xs := mapM_map_eq_some h

theorem entries?_object {f : α → Json} {es : List (String × α)} (h : ∀ e ∈ es, read (f e.2) = some e.2) :
    entries? read (.object (es.map fun e => (e.1, f e.2))) = some es := by
  unfold object entries?
  rw [List.map_map]
  exact mapM_map_eq_some fun e he => by simp [h e he]

end Values

end Json
end AddressBinder
