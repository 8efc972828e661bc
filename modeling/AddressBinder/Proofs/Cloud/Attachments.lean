import AddressBinder.Proofs.Cloud.Entries
import AddressBinder.Proofs.Program.Protocol
import AddressBinder.Proofs.Text.Numeral
/-!
# The attachments of a cloud

What a served call makes of the attachments: nothing, or one more, or one less (`change_serve`).  The ids that are
handed out are never handed out again, so an id that was seen on an interface of an instance can never come to stand for
an attachment of another one (`Settled`); that is what makes an old answer safe to act on.
-/
namespace AddressBinder
namespace Cloud

/-- **Attachments with different serial numbers have different ids.** -/
theorem attachmentId_injective {m n : Nat} (h : attachmentId m = attachmentId n) : m = n := by
  have hlist := congrArg String.toList h
  simp only [attachmentId, String.toList_append, String.toList_ofList, List.append_cancel_left_eq] at hlist
  exact Text.hexPadded_injective hlist

theorem ne_attachmentId {id : String} (h : id.toList.head? ≠ some 'e') (n : Nat) : id ≠ attachmentId n := by
  rintro rfl
  refine h ?_
  unfold attachmentId
  rw [String.toList_append]
  rfl

def attachment? (c : Cloud) (key : String) : Option Attachment := (c.interfaces.get? key).bind (·.attachment)

theorem attachment?_modify {c d : Cloud} {key : String} {i : Interface} {f : Interface → Interface}
    {a : Option Attachment} (hi : c.interfaces.get? key = some i) (ha : ∀ i, (f i).attachment = a)
    (hd : d.interfaces = c.interfaces.modify key f) (k : String) :
    d.attachment? k = if k = key then a else c.attachment? k := by
  unfold attachment?
  rw [hd, TextMap.get?_modify_of hi]
  by_cases hk : k = key
  · simp [hk, ha]
  · simp [hk]

/-! ## What a call changes -/

/-- What a served call, with its reply, makes of the attachments. -/
inductive Change (c : Cloud) : (call : ProviderCall) → call.Reply → Cloud → Prop where
  | none {call : ProviderCall} {reply : call.Reply} {d : Cloud} (hd : ∀ k, d.attachment? k = c.attachment? k)
      (hle : c.attachments ≤ d.attachments) : Change c call reply d
  | attach {key instanceId id : String} {slot : Nat} {d : Cloud} (hfree : c.attachment? key = .none)
      (hd : ∀ k, d.attachment? k = if k = key then some ⟨id, instanceId, slot⟩ else c.attachment? k)
      (hn : d.attachments = c.attachments + 1) (hid : id = attachmentId d.attachments) :
      Change c (.attach key instanceId slot) (.ok id) d
  | detach {key : String} {a : Attachment} {d : Cloud} (ha : c.attachment? key = some a)
      (hd : ∀ k, d.attachment? k = if k = key then .none else c.attachment? k) (hn : d.attachments = c.attachments) :
      Change c (.detach a.attachmentId) (.ok ()) d

theorem Effect.change {c d : Cloud} {call : ProviderCall} {reply : call.Reply} (h : Effect c call reply d) :
    Change c call reply d := by
  cases h with
  | none hd hle => exact .none (fun k => by unfold attachment?; rw [hd]) hle
  | @attach key n id slot i _ h hd hn hid =>
    have hfree : c.attachment? key = .none := by
      rw [attachment?, h.known]
      exact h.unattached
    exact .attach hfree (attachment?_modify h.known (fun _ => rfl) hd) hn hid
  | @detach key i a _ hi ha hd hn =>
    have hheld : c.attachment? key = some a := by
      rw [attachment?, hi]
      exact ha
    exact .detach hheld (attachment?_modify hi (fun _ => rfl) hd) hn

/-- **A served call attaches a free interface, or releases an attachment, or leaves the attachments alone.** -/
theorem change_serve (c : Cloud) (call : ProviderCall) : Change c call (serve call c).1 (serve call c).2 :=
  (effect_serve c call).change

/-- **What becomes of one interface**: it is left alone, or it was free and the call has attached it, or the call has
released it. -/
theorem Change.fate {c d : Cloud} {call : ProviderCall} {reply : call.Reply} (h : Change c call reply d) (k : String) :
    d.attachment? k = c.attachment? k ∨
      (∃ a, c.attachment? k = .none ∧ d.attachment? k = some a ∧
        (⟨call, reply⟩ : Program.Exchange provider) = ⟨.attach k a.instanceId a.deviceIndex, .ok a.attachmentId⟩) ∨
      ∃ a, c.attachment? k = some a ∧ d.attachment? k = .none ∧
        (⟨call, reply⟩ : Program.Exchange provider) = ⟨.detach a.attachmentId, .ok ()⟩ := by
  cases h with
  | none hd _ => exact .inl (hd k)
  | @attach key instanceId id slot _ hfree hd _ _ =>
    by_cases hk : k = key
    · subst hk
      have hnew : d.attachment? k = some ⟨id, instanceId, slot⟩ := by rw [hd, if_pos rfl]
      exact .inr (.inl ⟨_, hfree, hnew, rfl⟩)
    · exact .inl (by rw [hd, if_neg hk])
  | @detach key a _ ha hd _ =>
    by_cases hk : k = key
    · subst hk
      have hgone : d.attachment? k = .none := by rw [hd, if_pos rfl]
      exact .inr (.inr ⟨a, ha, hgone, rfl⟩)
    · exact .inl (by rw [hd, if_neg hk])

/-! ## Ids are not used again -/

/-- The ids of the attachments tell them apart, and none of them is still to be handed out. -/
structure Sound (c : Cloud) : Prop where
  distinct : ∀ {k l : String} {a a' : Attachment}, c.attachment? k = some a → c.attachment? l = some a' →
    a.attachmentId = a'.attachmentId → k = l
  fresh : ∀ {k : String} {a : Attachment} {n : Nat}, c.attachment? k = some a → c.attachments < n →
    a.attachmentId ≠ attachmentId n

/-- A cloud whose attachments were made elsewhere: their ids tell them apart, and none is of the form of those that are
handed out. -/
structure Preregistered (c : Cloud) : Prop where
  distinct : ∀ {k l : String} {a a' : Attachment}, c.attachment? k = some a → c.attachment? l = some a' →
    a.attachmentId = a'.attachmentId → k = l
  foreign : ∀ {k : String} {a : Attachment} (n : Nat), c.attachment? k = some a → a.attachmentId ≠ attachmentId n

theorem Preregistered.sound {c : Cloud} (h : c.Preregistered) : c.Sound := ⟨h.distinct, fun ha _ => h.foreign _ ha⟩

/-- An id can stand for no attachment but one of the instance, now and later. -/
structure Settled (c : Cloud) (instanceId id : String) : Prop where
  fresh : ∀ {n : Nat}, c.attachments < n → id ≠ attachmentId n
  owned : ∀ {k : String} {a : Attachment}, c.attachment? k = some a → a.attachmentId = id → a.instanceId = instanceId

/-- **What is attached to an instance is settled.** -/
theorem Sound.settled {c : Cloud} (h : c.Sound) {k : String} {a : Attachment} (ha : c.attachment? k = some a) :
    c.Settled a.instanceId a.attachmentId where
  fresh hn := h.fresh ha hn
  owned hb hid := by
    obtain rfl := h.distinct hb ha hid
    rw [Option.some.inj (hb.symm.trans ha)]

variable {c d : Cloud} {call : ProviderCall} {reply : call.Reply}

theorem Change.le (h : Change c call reply d) : c.attachments ≤ d.attachments := by
  cases h with
  | none _ hle => exact hle
  | attach _ _ hn _ => exact hn ▸ Nat.le_succ _
  | detach _ _ hn => exact Nat.le_of_eq hn.symm

/-- An attachment that is there after a call was there before, or the call has made it, with the newest id. -/
theorem Change.was {k : String} {a : Attachment} (h : Change c call reply d) (ha : d.attachment? k = some a) :
    c.attachment? k = some a ∨ call = .attach k a.instanceId a.deviceIndex ∧ c.attachments < d.attachments ∧
      a.attachmentId = attachmentId d.attachments := by
  cases h with
  | none hd _ => exact .inl (hd k ▸ ha)
  | attach _ hd hn hid =>
    rw [hd] at ha
    split at ha
    · rename_i hk
      obtain rfl := Option.some.inj ha
      exact .inr ⟨by rw [hk], by omega, hid⟩
    · exact .inl ha
  | detach _ hd _ =>
    rw [hd] at ha
    split at ha
    · cases ha
    · exact .inl ha

/-- **A sound cloud stays sound.** -/
theorem Change.sound (h : Change c call reply d) (hc : c.Sound) : d.Sound where
  distinct {k l a a'} ha ha' hid := by
    rcases h.was ha, h.was ha' with ⟨hk | ⟨hcall, hlt, hnew⟩, hl | ⟨hcall', hlt', hnew'⟩⟩
    · exact hc.distinct hk hl hid
    -- an old id is not the newest one
    · exact absurd (hid.trans hnew') (hc.fresh hk hlt')
    · exact absurd (hid.symm.trans hnew) (hc.fresh hl hlt)
    · exact (ProviderCall.attach.inj (hcall.symm.trans hcall')).1
  fresh {k a n} ha hn := by
    rcases h.was ha with hk | ⟨-, -, hnew⟩
    · exact hc.fresh hk (Nat.lt_of_le_of_lt h.le hn)
    · exact fun hid => Nat.ne_of_lt hn (attachmentId_injective (hnew.symm.trans hid))

/-- **What is settled stays settled**: an id that is not new stands for nothing new. -/
theorem Change.settled (h : Change c call reply d) {instanceId id : String} (hs : c.Settled instanceId id) :
    d.Settled instanceId id where
  fresh hn := hs.fresh (Nat.lt_of_le_of_lt h.le hn)
  owned {k a} ha hid := by
    rcases h.was ha with hk | ⟨-, hlt, hnew⟩
    · exact hs.owned hk hid
    · exact absurd (hid.symm.trans hnew) (hs.fresh hlt)

/-! ## Descriptions -/

theorem mem_insertBySlot {i j : Interface} : ∀ {is : List Interface}, i ∈ insertBySlot j is ↔ i = j ∨ i ∈ is
  | [] => List.mem_cons
  | k :: ks => by
    unfold insertBySlot
    split
    · exact List.mem_cons
    · rw [List.mem_cons, mem_insertBySlot, List.mem_cons]
      exact or_left_comm

theorem mem_sortBySlot {i : Interface} : ∀ {is : List Interface}, i ∈ sortBySlot is ↔ i ∈ is
  | [] => Iff.rfl
  | j :: js => by
    have ih : i ∈ sortBySlot js ↔ i ∈ js := mem_sortBySlot
    rw [List.mem_cons, ← ih]
    exact mem_insertBySlot

theorem mem_heldBy {c : Cloud} {instanceId : String} {i : Interface} :
    i ∈ c.heldBy instanceId ↔ ∃ key a, c.interfaces.get? key = some i ∧ i.attachment = some a ∧ a.instanceId = instanceId := by
  unfold heldBy
  rw [mem_sortBySlot, List.mem_filter, TextMap.mem_values, Interface.isHeldBy_iff]
  constructor
  · rintro ⟨⟨key, hkey⟩, a, ha⟩
    exact ⟨key, a, hkey, ha⟩
  · rintro ⟨key, a, hkey, ha⟩
    exact ⟨⟨key, hkey⟩, a, ha⟩

/-- **An instance is described with its own attachments only**, whose ids are settled. -/
theorem Sound.settled_of_describe (hc : c.Sound) {instanceId : String} {description : InstanceDescription}
    (h : c.describeInstance instanceId = .ok (some description)) :
    description.instanceId = instanceId ∧
      ∀ i ∈ description.interfaces, ∀ id, i.attachmentId = some id → c.Settled instanceId id := by
  obtain ⟨-, subnetId, -, rfl⟩ := describeInstance_eq_ok.1 h
  refine ⟨rfl, fun i hi id hid => ?_⟩
  obtain ⟨key, a, hkey, ha, rfl⟩ := mem_heldBy.1 hi
  obtain rfl : a.attachmentId = id := by simpa [Interface.attachmentId, ha] using hid
  exact hc.settled (k := key) (by rw [attachment?, hkey]; exact ha)

theorem describeInstance_of_contains {c : Cloud} {instanceId : String} (h : c.instances.contains instanceId = true)
    (hqueries : c.failQueries = false) :
    ∃ subnetId, c.describeInstance instanceId = .ok (some ⟨instanceId, subnetId, c.heldBy instanceId⟩) := by
  obtain ⟨subnetId, hsubnet⟩ := Option.isSome_iff_exists.1 h
  exact ⟨subnetId, describeInstance_eq_ok.2 ⟨hqueries, subnetId, hsubnet, rfl⟩⟩

/-- A call that attaches nothing to the instance, and releases nothing from it. -/
def Spares (c : Cloud) (instanceId : String) : ProviderCall → Prop
  | .attach _ who _ => who ≠ instanceId
  | .detach id => ∀ key a, c.attachment? key = some a → a.attachmentId = id → a.instanceId ≠ instanceId
  | _ => True

theorem heldBy_modify {key instanceId : String} {i : Interface} {f : Interface → Interface}
    (hi : c.interfaces.get? key = some i) (hd : d.interfaces = c.interfaces.modify key f)
    (hold : i.isHeldBy instanceId = false) (hnew : (f i).isHeldBy instanceId = false) :
    d.heldBy instanceId = c.heldBy instanceId := by
  unfold heldBy
  rw [hd, TextMap.filter_values_modify hi hold hnew]

/-- **A call that spares an instance leaves its attachments exactly as they were.** -/
theorem Effect.heldBy_eq {instanceId : String} (h : Effect c call reply d) (hs : c.Spares instanceId call) :
    d.heldBy instanceId = c.heldBy instanceId := by
  cases h with
  | none hd _ =>
    unfold heldBy
    rw [hd]
  | attach h hd _ _ =>
    refine heldBy_modify h.known hd ?_ ?_
    · simp [Interface.isHeldBy, h.unattached]
    · have hne : _ ≠ instanceId := hs
      simpa [Interface.isHeldBy, Interface.taken] using hne
  | @detach key i a _ hi ha hd _ =>
    refine heldBy_modify hi hd ?_ ?_
    · have hne : a.instanceId ≠ instanceId := hs key a (by rw [attachment?, hi]; exact ha) rfl
      simpa [Interface.isHeldBy, ha] using hne
    · simp [Interface.isHeldBy, Interface.released]

end Cloud
end AddressBinder
