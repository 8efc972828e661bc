import AddressBinder.Proofs.Cloud.Attachments
import AddressBinder.Proofs.Decision
/-!
# What an instance has borrowed

Interfaces as they are while an instance holds no candidate address (`Home`), and clouds in which it has borrowed none
of them (`Whole`) or one (`Lent`).  An attachment leads from the one to the other, the release of what is borrowed leads
back, and a description of the instance tells which it is.
-/
namespace AddressBinder
namespace Cloud

open Decision

/-- An interface as it is once the instance holds no candidate address. -/
def atHome (own : String) (candidates : Candidates) (i : Interface) : Interface :=
  if i.isHeldBy own && (rank? candidates i).isSome then i.released else i

/-- The interfaces as they are once the instance holds no candidate address. -/
def home (c : Cloud) (own : String) (candidates : Candidates) (key : String) : Option Interface :=
  (c.interfaces.get? key).map (atHome own candidates)

/-- The interface with a key has a candidate address and is attached to the instance. -/
def HoldsAt (c : Cloud) (own : String) (candidates : Candidates) (key : String) : Prop :=
  ∃ i, c.interfaces.get? key = some i ∧ i.isHeldBy own = true ∧ IsCandidate candidates i

/-- Interfaces none of which has a candidate address and is attached to the instance. -/
structure Home (own : String) (candidates : Candidates) (base : String → Option Interface) : Prop where
  indexed : ∀ key i, base key = some i → i.interfaceId = key
  vacant : ∀ key i, base key = some i → i.status = .available → i.attachment = none
  unheld : ∀ key i, base key = some i → i.isHeldBy own = true → ¬ IsCandidate candidates i

/-- The interfaces are as given. -/
def Whole (base : String → Option Interface) (c : Cloud) : Prop := ∀ key, c.interfaces.get? key = base key

/-- The interfaces are as given, but for one with a candidate address, which is attached to the instance. -/
structure Lent (base : String → Option Interface) (own : String) (candidates : Candidates) (c : Cloud) (key : String)
    (e : Interface) (a : Attachment) : Prop where
  known : c.interfaces.get? key = some e
  attached : e.attachment = some a
  mine : a.instanceId = own
  candidate : IsCandidate candidates e
  busy : e.status ≠ .available
  back : base key = some e.released
  others : ∀ k, k ≠ key → c.interfaces.get? k = base k

variable {base : String → Option Interface} {own : String} {candidates : Candidates} {c d : Cloud} {key : String}
  {e i : Interface} {a : Attachment}

theorem atHome_of_held (hheld : i.isHeldBy own = true) (hi : IsCandidate candidates i) :
    atHome own candidates i = i.released := by
  have hrank : (rank? candidates i).isSome = true := Option.isSome_iff_ne_none.2 fun h => rank?_eq_none.1 h hi
  unfold atHome
  rw [hheld, hrank]
  rfl

theorem atHome_of_not (h : ¬ (i.isHeldBy own = true ∧ IsCandidate candidates i)) : atHome own candidates i = i := by
  refine if_neg fun hboth => h ?_
  obtain ⟨hheld, hrank⟩ := Bool.and_eq_true_iff.1 hboth
  obtain ⟨n, hn⟩ := Option.isSome_iff_exists.1 hrank
  exact ⟨hheld, isCandidate_of_rank? hn⟩

theorem home_of_not_holdsAt (h : ¬ c.HoldsAt own candidates key) :
    c.home own candidates key = c.interfaces.get? key := by
  unfold home
  cases hi : c.interfaces.get? key with
  | none => rfl
  | some i =>
    have hnot : ¬ (i.isHeldBy own = true ∧ IsCandidate candidates i) := fun hboth => h ⟨i, hi, hboth.1, hboth.2⟩
    rw [Option.map_some, atHome_of_not hnot]

theorem home_of_holdsAt (hi : c.interfaces.get? key = some i) (hheld : i.isHeldBy own = true)
    (hcandidate : IsCandidate candidates i) : c.home own candidates key = some i.released := by
  unfold home
  rw [hi, Option.map_some, atHome_of_held hheld hcandidate]

/-- **With what the instance holds put back, it holds nothing.** -/
theorem home_home (hi : c.Indexed) (hv : c.Vacant) : Home own candidates (c.home own candidates) := by
  have hcases : ∀ key i, c.home own candidates key = some i →
      (c.interfaces.get? key = some i ∧ ¬ (i.isHeldBy own = true ∧ IsCandidate candidates i)) ∨
        ∃ j, c.interfaces.get? key = some j ∧ i = j.released := by
    intro key i h
    obtain ⟨j, hj, rfl⟩ := Option.map_eq_some_iff.1 h
    by_cases hheld : j.isHeldBy own = true ∧ IsCandidate candidates j
    · exact .inr ⟨j, hj, atHome_of_held hheld.1 hheld.2⟩
    · rw [atHome_of_not hheld]
      exact .inl ⟨hj, hheld⟩
  refine ⟨fun key i h => ?_, fun key i h hs => ?_, fun key i h hheld hcandidate => ?_⟩
  · rcases hcases key i h with ⟨hc, -⟩ | ⟨j, hj, rfl⟩
    · exact hi key i hc
    · exact hi key j hj
  · rcases hcases key i h with ⟨hc, -⟩ | ⟨j, hj, rfl⟩
    · exact hv key i hc hs
    · rfl
  · rcases hcases key i h with ⟨-, hnot⟩ | ⟨j, hj, rfl⟩
    · exact hnot ⟨hheld, hcandidate⟩
    · cases hheld

/-- A cloud in which the instance holds at most one candidate address. -/
theorem whole_or_lent (hv : c.Vacant)
    (hone : ∀ k l, c.HoldsAt own candidates k → c.HoldsAt own candidates l → k = l) :
    ((∀ k, ¬ c.HoldsAt own candidates k) ∧ Whole (c.home own candidates) c) ∨
      (∃ k, c.HoldsAt own candidates k) ∧ ∃ key e a, Lent (c.home own candidates) own candidates c key e a := by
  by_cases hheld : ∃ k, c.HoldsAt own candidates k
  · obtain ⟨key, hkey⟩ := hheld
    have hothers : ∀ k, k ≠ key → ¬ c.HoldsAt own candidates k := fun k hne hk => hne (hone k key hk hkey)
    obtain ⟨e, he, hmine, hcandidate⟩ := hkey
    obtain ⟨a, ha, rfl⟩ := Interface.isHeldBy_iff.1 hmine
    refine .inr ⟨⟨key, e, he, hmine, hcandidate⟩, key, e, a, he, ha, rfl, hcandidate, fun hs => ?_, ?_,
      fun k hk => (home_of_not_holdsAt (hothers k hk)).symm⟩
    · rw [hv key e he hs] at ha
      cases ha
    · exact home_of_holdsAt he hmine hcandidate
  · have hnone : ∀ k, ¬ c.HoldsAt own candidates k := fun k hk => hheld ⟨k, hk⟩
    exact .inl ⟨hnone, fun k => (home_of_not_holdsAt (hnone k)).symm⟩

/-! ## What the instance holds -/

theorem Whole.not_holdsAt (hh : Home own candidates base) (h : Whole base c) (k : String) :
    ¬ c.HoldsAt own candidates k := by
  rintro ⟨i, hi, hheld, hcandidate⟩
  exact hh.unheld k i (h k ▸ hi) hheld hcandidate

theorem Lent.eq_of_holdsAt (hh : Home own candidates base) (h : Lent base own candidates c key e a) {k : String}
    (hk : c.HoldsAt own candidates k) : k = key := by
  obtain ⟨i, hi, hheld, hcandidate⟩ := hk
  exact Classical.byContradiction fun hne => hh.unheld k i (h.others k hne ▸ hi) hheld hcandidate

theorem boundInterface?_heldBy (h : boundInterface? (c.heldBy own) candidates = some i) :
    ∃ k, c.interfaces.get? k = some i ∧ c.HoldsAt own candidates k := by
  have hchosen := chosen_of_best? h
  obtain ⟨k, a, hk, ha⟩ := mem_heldBy.1 hchosen.mem
  exact ⟨k, hk, i, hk, Interface.isHeldBy_iff.2 ⟨a, ha⟩, hchosen.isCandidate⟩

theorem HoldsAt.boundInterface?_ne_none (h : c.HoldsAt own candidates key) :
    boundInterface? (c.heldBy own) candidates ≠ none := by
  intro hnone
  obtain ⟨i, hi, hheld, hcandidate⟩ := h
  obtain ⟨a, ha⟩ := Interface.isHeldBy_iff.1 hheld
  have hmem : i ∈ c.heldBy own := mem_heldBy.2 ⟨key, a, hi, ha⟩
  exact best?_eq_none.1 hnone i hmem hcandidate

/-- **A description shows the interface that is borrowed.** -/
theorem Lent.boundInterface? (hh : Home own candidates base) (h : Lent base own candidates c key e a) :
    Decision.boundInterface? (c.heldBy own) candidates = some e := by
  cases hb : Decision.boundInterface? (c.heldBy own) candidates with
  | none =>
    have hheld : c.HoldsAt own candidates key :=
      ⟨e, h.known, Interface.isHeldBy_iff.2 ⟨a, h.attached, h.mine⟩, h.candidate⟩
    exact absurd hb hheld.boundInterface?_ne_none
  | some i =>
    obtain ⟨k, hk, hheld⟩ := boundInterface?_heldBy hb
    obtain rfl := h.eq_of_holdsAt hh hheld
    rw [← hk, h.known]

theorem Whole.boundInterface? (hh : Home own candidates base) (h : Whole base c) :
    Decision.boundInterface? (c.heldBy own) candidates = none := by
  cases hb : Decision.boundInterface? (c.heldBy own) candidates with
  | none => rfl
  | some i =>
    obtain ⟨k, -, hheld⟩ := boundInterface?_heldBy hb
    exact absurd hheld (h.not_holdsAt hh k)

theorem Lent.available (h : Lent base own candidates c key e a) {k : String} (hi : c.interfaces.get? k = some i)
    (hs : i.status = .available) : base k = some i := by
  by_cases hk : k = key
  · subst hk
    rw [h.known] at hi
    obtain rfl := Option.some.inj hi
    exact absurd hs h.busy
  · rw [← h.others k hk]
    exact hi

/-! ## Borrowing and giving back -/

/-- **An attachment borrows the interface.** -/
theorem Whole.attach {slot : Nat} {id : String} (h : Whole base c)
    (hg : c.Grants key own slot i) (hi : IsCandidate candidates i)
    (hd : d.interfaces = c.interfaces.modify key (.taken ⟨id, own, slot⟩)) :
    Lent base own candidates d key (i.taken ⟨id, own, slot⟩) ⟨id, own, slot⟩ where
  known := by rw [hd, TextMap.get?_modify_of hg.known, if_pos rfl]
  attached := rfl
  mine := rfl
  candidate := hi
  busy := nofun
  back := by
    have hback : (i.taken ⟨id, own, slot⟩).released = i := Interface.released_eq_self hg.available hg.unattached
    rw [hback, ← h key]
    exact hg.known
  others k hk := by
    rw [hd, TextMap.get?_modify_of hg.known, if_neg hk]
    exact h k

/-- While an interface is borrowed, its slot admits no other one. -/
theorem Lent.not_grants (h : Lent base own candidates c key e a) {k : String} : ¬ c.Grants k own a.deviceIndex i := by
  intro hg
  have htaken : c.slotTaken own a.deviceIndex = true := slotTaken_iff.2 ⟨key, e, a, h.known, h.attached, h.mine, rfl⟩
  rw [hg.slotFree] at htaken
  cases htaken

theorem Lent.attachmentId (h : Lent base own candidates c key e a) : e.attachmentId = some a.attachmentId := by
  unfold Interface.attachmentId
  rw [h.attached]
  rfl

/-- **The release of what is borrowed succeeds, and all is as it was.** -/
theorem Lent.detach (h : Lent base own candidates c key e a) (hs : c.Sound) (hw : c.failDetaches = false) :
    (serve (.detach a.attachmentId) c).1 = .ok () ∧ Whole base (serve (.detach a.attachmentId) c).2 := by
  have hid : e.attachmentId = some a.attachmentId := h.attachmentId
  rcases serve_detach c a.attachmentId with ⟨k, i, hi, hid', heq⟩ | ⟨-, hno⟩
  · -- the id stands for no other attachment
    obtain rfl : k = key := by
      obtain ⟨a', ha', hsame⟩ := Option.map_eq_some_iff.1 hid'
      have hthere : c.attachment? k = some a' := by rw [attachment?, hi]; exact ha'
      have hhere : c.attachment? key = some a := by rw [attachment?, h.known]; exact h.attached
      exact hs.distinct hthere hhere hsame
    rw [heq]
    refine ⟨rfl, fun k' => ?_⟩
    show (c.interfaces.modify k Interface.released).get? k' = base k'
    rw [TextMap.get?_modify_of h.known]
    by_cases hk : k' = k
    · rw [if_pos hk, hk, h.back]
    · rw [if_neg hk]
      exact h.others k' hk
  · exact absurd hid (hno hw key e h.known)

theorem Whole.same (h : Whole base c) (hd : d.interfaces = c.interfaces) : Whole base d := fun key => by rw [hd, h key]

theorem Lent.same (h : Lent base own candidates c key e a) (hd : d.interfaces = c.interfaces) :
    Lent base own candidates d key e a := by
  refine ⟨?_, h.attached, h.mine, h.candidate, h.busy, h.back, fun k hk => ?_⟩
  · rw [hd]
    exact h.known
  · rw [hd]
    exact h.others k hk

end Cloud
end AddressBinder
