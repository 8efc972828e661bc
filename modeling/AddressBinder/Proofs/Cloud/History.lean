import AddressBinder.Proofs.Cloud.Attachments
/-!
# The history of a cloud

A cloud begins empty, and what is done to it comes in any order: instances and interfaces are registered, a name may be
registered again, calls are served, and classes of calls are made to fail or to work.  The order that the attachments
keep among each other (`Orderly`) holds all the way, and no id is handed out twice.
-/
namespace AddressBinder
namespace Cloud

/-- Something that is done to a cloud. -/
inductive Act where
  | addInstance (instanceId subnetId : String)
  | addInterface (i : Interface)
  | call (c : ProviderCall)
  | failQueries (fails : Bool)
  | failAttaches (fails : Bool)
  | failDetaches (fails : Bool)

def perform (c : Cloud) : Act → Cloud
  | .addInstance instanceId subnetId => c.addInstance instanceId subnetId
  | .addInterface i => c.addInterface i
  | .call x => (serve x c).2
  | .failQueries fails => { c with failQueries := fails }
  | .failAttaches fails => { c with failAttaches := fails }
  | .failDetaches fails => { c with failDetaches := fails }

def after (c : Cloud) (acts : List Act) : Cloud := acts.foldl perform c

/-- The id that an act yields, if it is a successful attach. -/
def yield? (c : Cloud) : Act → Option String
  | .call (.attach key instanceId slot) => (serve (.attach key instanceId slot) c).1.toOption
  | _ => none

/-- The ids that the successful attaches yield, in order. -/
def handedOut : Cloud → List Act → List String
  | _, [] => []
  | c, act :: acts => (c.yield? act).toList ++ handedOut (c.perform act) acts

/-- How the attachments of a cloud stand to each other, to the interfaces and to the instances. -/
structure Orderly (c : Cloud) : Prop extends c.Sound where
  oneInSlot : ∀ {k l : String} {a a' : Attachment}, c.attachment? k = some a → c.attachment? l = some a' →
    a.instanceId = a'.instanceId → a.deviceIndex = a'.deviceIndex → k = l
  inUse : ∀ {k : String} {i : Interface}, c.interfaces.get? k = some i → i.attachment ≠ none → i.status = .inUse
  registered : ∀ {k : String} {a : Attachment}, c.attachment? k = some a → c.instances.contains a.instanceId = true

variable {c d : Cloud}

theorem attachment?_eq_some {k : String} {a : Attachment} :
    c.attachment? k = some a ↔ ∃ i, c.interfaces.get? k = some i ∧ i.attachment = some a :=
  Option.bind_eq_some_iff

/-- A cloud stays orderly when what is attached now was so before. -/
theorem Orderly.of_old (hc : c.Orderly) (hle : c.attachments ≤ d.attachments)
    (hold : ∀ {k i}, d.interfaces.get? k = some i → i.attachment ≠ none → c.interfaces.get? k = some i)
    (hinst : ∀ n, c.instances.contains n = true → d.instances.contains n = true) : d.Orderly := by
  have hwas : ∀ {k a}, d.attachment? k = some a → c.attachment? k = some a := by
    intro k a ha
    obtain ⟨i, hi, hia⟩ := attachment?_eq_some.1 ha
    have hne : i.attachment ≠ none := by simp [hia]
    exact attachment?_eq_some.2 ⟨i, hold hi hne, hia⟩
  constructor
  · constructor
    · intro k l a a' ha ha'
      exact hc.distinct (hwas ha) (hwas ha')
    · intro k a n ha hn
      exact hc.fresh (hwas ha) (Nat.lt_of_le_of_lt hle hn)
  · intro k l a a' ha ha'
    exact hc.oneInSlot (hwas ha) (hwas ha')
  · intro k i hi hne
    exact hc.inUse (hold hi hne) hne
  · intro k a ha
    exact hinst _ (hc.registered (hwas ha))

theorem Orderly.attach {key instanceId id : String} {slot : Nat} {i : Interface} (hc : c.Orderly) (hd : d.Sound)
    (h : c.Grants key instanceId slot i) (hi : d.interfaces = c.interfaces.modify key (.taken ⟨id, instanceId, slot⟩))
    (hinst : d.instances = c.instances) : d.Orderly := by
  have hentry : ∀ k, d.interfaces.get? k = if k = key then some (i.taken ⟨id, instanceId, slot⟩)
      else c.interfaces.get? k := fun k => by rw [hi, TextMap.get?_modify_of h.known]
  have hnow : ∀ k, d.attachment? k = if k = key then some ⟨id, instanceId, slot⟩ else c.attachment? k := by
    intro k
    have hattached : ∀ j : Interface, (j.taken ⟨id, instanceId, slot⟩).attachment = some ⟨id, instanceId, slot⟩ :=
      fun _ => rfl
    exact attachment?_modify h.known hattached hi k
  -- no other attachment is in the slot, which the call has found free
  have hother : ∀ {k a}, c.attachment? k = some a → ¬ (a.instanceId = instanceId ∧ a.deviceIndex = slot) := by
    intro k a ha hslot
    obtain ⟨j, hj, hja⟩ := attachment?_eq_some.1 ha
    have htaken : c.slotTaken instanceId slot = true := slotTaken_iff.2 ⟨k, j, a, hj, hja, hslot⟩
    rw [h.slotFree] at htaken
    cases htaken
  refine ⟨hd, ?_, ?_, ?_⟩
  · intro k l a a' ha ha' hn hs
    rw [hnow] at ha ha'
    by_cases hk : k = key
    · by_cases hl : l = key
      · rw [hk, hl]
      · rw [if_pos hk] at ha
        rw [if_neg hl] at ha'
        obtain rfl := Option.some.inj ha
        exact absurd ⟨hn.symm, hs.symm⟩ (hother ha')
    · rw [if_neg hk] at ha
      by_cases hl : l = key
      · rw [if_pos hl] at ha'
        obtain rfl := Option.some.inj ha'
        exact absurd ⟨hn, hs⟩ (hother ha)
      · rw [if_neg hl] at ha'
        exact hc.oneInSlot ha ha' hn hs
  · intro k j hj hne
    rw [hentry] at hj
    by_cases hk : k = key
    · rw [if_pos hk] at hj
      obtain rfl := Option.some.inj hj
      rfl
    · rw [if_neg hk] at hj
      exact hc.inUse hj hne
  · intro k a ha
    rw [hinst]
    rw [hnow] at ha
    by_cases hk : k = key
    · rw [if_pos hk] at ha
      obtain rfl := Option.some.inj ha
      exact h.registered
    · rw [if_neg hk] at ha
      exact hc.registered ha

theorem Orderly.serve (hc : c.Orderly) (x : ProviderCall) : (serve x c).2.Orderly := by
  have hsound : (Cloud.serve x c).2.Sound := (change_serve c x).sound hc.toSound
  have hinst := (sameSetup_serve c x).instances
  have heffect := effect_serve c x
  generalize (Cloud.serve x c).2 = d at hsound hinst heffect
  generalize (Cloud.serve x c).1 = reply at heffect
  cases heffect with
  | none hd hle => exact hc.of_old hle (fun hi _ => hd ▸ hi) fun n hn => hinst ▸ hn
  | attach h hd _ _ => exact hc.attach hsound h hd hinst
  | @detach key i a _ hi ha hd hn =>
    refine hc.of_old (Nat.le_of_eq hn.symm) (fun {k j} hj hne => ?_) fun n hn => hinst ▸ hn
    rw [hd, TextMap.get?_modify_of hi] at hj
    by_cases hk : k = key
    · rw [if_pos hk] at hj
      obtain rfl := Option.some.inj hj
      exact absurd rfl hne
    · rwa [if_neg hk] at hj

/-- **Every act keeps a cloud orderly**, if only unattached interfaces are registered. -/
theorem Orderly.perform (hc : c.Orderly) : ∀ {act : Act}, (∀ i, act = .addInterface i → i.attachment = none) →
    (c.perform act).Orderly
  | .addInstance _ _, _ => hc.of_old (Nat.le_refl _) (fun hi _ => hi) fun _ hn => TextMap.contains_insert hn
  | .addInterface i, hi => by
    refine hc.of_old (Nat.le_refl _) (fun {k j} hj hne => ?_) fun _ hn => hn
    have hget : (c.interfaces.insert i.interfaceId i).get? k = some j := hj
    rw [TextMap.get?_insert] at hget
    by_cases hk : k = i.interfaceId
    · rw [if_pos hk] at hget
      obtain rfl := Option.some.inj hget
      exact absurd (hi i rfl) hne
    · rwa [if_neg hk] at hget
  | .call x, _ => hc.serve x
  | .failQueries _, _ => hc.of_old (Nat.le_refl _) (fun hi _ => hi) fun _ hn => hn
  | .failAttaches _, _ => hc.of_old (Nat.le_refl _) (fun hi _ => hi) fun _ hn => hn
  | .failDetaches _, _ => hc.of_old (Nat.le_refl _) (fun hi _ => hi) fun _ hn => hn

theorem attachment?_empty (k : String) : empty.attachment? k = none := rfl

theorem orderly_empty : empty.Orderly where
  distinct ha := by rw [attachment?_empty] at ha; cases ha
  fresh ha := by rw [attachment?_empty] at ha; cases ha
  oneInSlot ha := by rw [attachment?_empty] at ha; cases ha
  inUse hi := by cases hi
  registered ha := by rw [attachment?_empty] at ha; cases ha

/-! ## The ids -/

theorem attachments_le_perform (c : Cloud) : ∀ act : Act, c.attachments ≤ (c.perform act).attachments
  | .call x => (change_serve c x).le
  | .addInstance _ _ | .addInterface _ | .failQueries _ | .failAttaches _ | .failDetaches _ => Nat.le_refl _

theorem newest_of_yield? {act : Act} {id : String} (h : c.yield? act = some id) :
    c.attachments < (c.perform act).attachments ∧ id = attachmentId (c.perform act).attachments := by
  unfold yield? at h
  split at h
  · rename_i key instanceId slot
    show c.attachments < (serve (.attach key instanceId slot) c).2.attachments ∧
      id = attachmentId (serve (.attach key instanceId slot) c).2.attachments
    rcases serve_attach c key instanceId slot with ⟨i, -, heq⟩ | ⟨-, reason, n, -, heq⟩
    · rw [heq] at h ⊢
      obtain rfl := Option.some.inj h
      exact ⟨Nat.lt_succ_self _, rfl⟩
    · rw [heq] at h
      cases h
  · cases h

theorem later_of_mem_handedOut : ∀ {acts : List Act} {c : Cloud} {id : String}, id ∈ handedOut c acts →
    ∃ n, c.attachments < n ∧ id = attachmentId n
  | [], _, _, h => by cases h
  | act :: acts, c, id, h => by
    rw [handedOut, List.mem_append, Option.mem_toList] at h
    rcases h with h | h
    · obtain ⟨hlt, hid⟩ := newest_of_yield? h
      exact ⟨_, hlt, hid⟩
    · obtain ⟨n, hlt, hid⟩ := later_of_mem_handedOut h
      exact ⟨n, Nat.lt_of_le_of_lt (attachments_le_perform c act) hlt, hid⟩

theorem nodup_handedOut : ∀ (acts : List Act) (c : Cloud), (handedOut c acts).Nodup
  | [], _ => List.nodup_nil
  | act :: acts, c => by
    have ih := nodup_handedOut acts (c.perform act)
    rw [handedOut]
    cases h : c.yield? act with
    | none => exact ih
    | some id =>
      obtain ⟨-, hid⟩ := newest_of_yield? h
      refine List.nodup_cons.2 ⟨fun hmem => ?_, ih⟩
      obtain ⟨n, hlt, hn⟩ := later_of_mem_handedOut hmem
      have heq : n = (c.perform act).attachments := attachmentId_injective (hn.symm.trans hid)
      omega

/-! ## The whole history -/

/-- **What is done to an empty cloud leaves it orderly**, whatever it is and in whatever order, as long as only unattached
interfaces are registered: the ids of the attachments tell them apart, no device slot is used twice, what is attached is
in use, and by an instance that is registered.  No successful attach yields an id that an earlier one has yielded. -/
theorem orderly_after {acts : List Act} (h : ∀ i, Act.addInterface i ∈ acts → i.attachment = none) :
    (empty.after acts).Orderly ∧ (handedOut empty acts).Nodup := by
  refine ⟨?_, nodup_handedOut acts empty⟩
  suffices hfold : ∀ c : Cloud, c.Orderly → (c.after acts).Orderly from hfold empty orderly_empty
  induction acts with
  | nil => exact fun c hc => hc
  | cons act acts ih =>
    intro c hc
    have hact : (c.perform act).Orderly := hc.perform fun i hi => h i (hi ▸ List.mem_cons_self)
    exact ih (fun i hi => h i (List.mem_cons_of_mem _ hi)) _ hact

/-- An interface is attached and registered anew, so that its attachment is lost; then one attach finds no interface, and
another one succeeds. -/
def registeredAnew : List Act :=
  [.addInstance "i-1" "s", .addInterface (.free "eni-1" ⟨10, 0, 0, 1⟩ "s"), .call (.attach "eni-1" "i-1" 1),
    .addInterface (.free "eni-1" ⟨10, 0, 0, 1⟩ "s"), .call (.attach "eni-2" "i-1" 1), .call (.attach "eni-1" "i-1" 1)]

theorem orderly_after_registeredAnew :
    handedOut empty registeredAnew = ["eni-attach-00000001", "eni-attach-00000003"] ∧
      (empty.after registeredAnew).Orderly ∧ (handedOut empty registeredAnew).Nodup := by
  refine ⟨by decide +kernel, orderly_after fun i hi => ?_⟩
  simp only [registeredAnew, List.mem_cons, reduceCtorEq, Act.addInterface.injEq, List.not_mem_nil, or_false,
    false_or] at hi
  rcases hi with rfl | rfl <;> rfl

/-! ## Clouds as they are built -/

theorem Indexed.perform (hc : c.Indexed) : ∀ act : Act, (c.perform act).Indexed
  | .addInterface i => by
    intro k j hj
    have hget : (c.interfaces.insert i.interfaceId i).get? k = some j := hj
    rw [TextMap.get?_insert] at hget
    by_cases hk : k = i.interfaceId
    · rw [if_pos hk] at hget
      rw [← Option.some.inj hget, hk]
    · rw [if_neg hk] at hget
      exact hc k j hget
  | .call x => (effect_serve c x).indexed hc
  | .addInstance _ _ | .failQueries _ | .failAttaches _ | .failDetaches _ => hc

theorem Indexed.after (hc : c.Indexed) (acts : List Act) : (c.after acts).Indexed := by
  induction acts generalizing c with
  | nil => exact hc
  | cons act acts ih => exact ih (hc.perform act)

/-- Every interface of a cloud that is built from nothing is kept under its own id. -/
theorem indexed_after (acts : List Act) : (empty.after acts).Indexed :=
  Indexed.after (fun _ _ h => by cases h) acts

end Cloud
end AddressBinder
