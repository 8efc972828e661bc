import AddressBinder.Cloud.Memory
import AddressBinder.Proofs.TextMap
/-!
# The interfaces of a cloud

What a served call makes of the interfaces: an attachment is granted to a registered instance with the slot free and to
an interface that is available and unattached (`Grants`), and nothing else changes an interface but the release of an
attachment (`effect_serve`).  Who is registered and which calls fail is not for a call to change.
-/
namespace AddressBinder

/-- The interface once it is attached. -/
def Interface.taken (a : Attachment) (i : Interface) : Interface := { i with status := .inUse, attachment := some a }

/-- The interface once it is released. -/
def Interface.released (i : Interface) : Interface := { i with status := .available, attachment := none }

theorem Interface.released_eq_self {i : Interface} (hs : i.status = .available) (ha : i.attachment = none) :
    i.released = i := by
  unfold Interface.released
  rw [← hs, ← ha]

theorem Interface.isHeldBy_iff {i : Interface} {n : String} :
    i.isHeldBy n = true ↔ ∃ a, i.attachment = some a ∧ a.instanceId = n := by
  unfold Interface.isHeldBy
  cases i.attachment <;> simp

theorem Interface.occupies_iff {i : Interface} {n : String} {slot : Nat} :
    i.occupies n slot = true ↔ ∃ a, i.attachment = some a ∧ a.instanceId = n ∧ a.deviceIndex = slot := by
  unfold Interface.occupies
  cases i.attachment <;> simp

namespace Cloud

variable {c d : Cloud} {key instanceId id : String} {slot : Nat} {i : Interface}

theorem slotTaken_iff : c.slotTaken instanceId slot = true ↔
    ∃ k i a, c.interfaces.get? k = some i ∧ i.attachment = some a ∧ a.instanceId = instanceId ∧ a.deviceIndex = slot := by
  unfold slotTaken
  rw [List.any_eq_true]
  constructor
  · rintro ⟨i, hi, ho⟩
    obtain ⟨k, hk⟩ := TextMap.mem_values.1 hi
    obtain ⟨a, ha⟩ := Interface.occupies_iff.1 ho
    exact ⟨k, i, a, hk, ha⟩
  · rintro ⟨k, i, a, hk, ha⟩
    exact ⟨i, TextMap.mem_values.2 ⟨k, hk⟩, Interface.occupies_iff.2 ⟨a, ha⟩⟩

/-! ## Describing -/

/-- **What a description is**, when there is one. -/
theorem describeInstance_eq_ok {description : InstanceDescription} :
    c.describeInstance instanceId = .ok (some description) ↔ c.failQueries = false ∧
      ∃ subnetId, c.instances.get? instanceId = some subnetId ∧ description = ⟨instanceId, subnetId, c.heldBy instanceId⟩ := by
  unfold describeInstance
  cases c.failQueries with
  | true => simp
  | false =>
    simp only [Bool.false_eq_true, if_false, Except.ok.injEq, Option.map_eq_some_iff, true_and]
    exact exists_congr fun _ => and_congr_right fun _ => eq_comm

/-- **What a listing is**, when there is one. -/
theorem describeInterfaces_eq_ok {filter : InterfaceFilter} {listed : List Interface} :
    c.describeInterfaces filter = .ok listed ↔
      c.failQueries = false ∧ listed = c.interfaces.values.filter filter.admits := by
  unfold describeInterfaces
  cases c.failQueries with
  | true => simp
  | false => simp [eq_comm]

theorem exists_get?_of_listed {ips : List Ipv4} {status : InterfaceStatus} {subnet : Option String}
    {listed : List Interface} (h : c.describeInterfaces ⟨ips, some status, subnet⟩ = .ok listed) (hi : i ∈ listed) :
    ∃ key, c.interfaces.get? key = some i ∧ i.status = status := by
  obtain ⟨-, rfl⟩ := describeInterfaces_eq_ok.1 h
  obtain ⟨hvalue, hadmits⟩ := List.mem_filter.1 hi
  obtain ⟨key, hkey⟩ := TextMap.mem_values.1 hvalue
  simp only [InterfaceFilter.admits, Bool.and_eq_true, beq_iff_eq] at hadmits
  exact ⟨key, hkey, hadmits.1.2⟩

/-! ## Attaching -/

/-- A call to attach the interface, which stands as `i`, is granted. -/
structure Grants (c : Cloud) (key instanceId : String) (slot : Nat) (i : Interface) : Prop where
  working : c.failAttaches = false
  registered : c.instances.contains instanceId = true
  slotFree : c.slotTaken instanceId slot = false
  known : c.interfaces.get? key = some i
  available : i.status = .available
  unattached : i.attachment = none

/-- The cloud once the attachment is made. -/
def attached (c : Cloud) (key instanceId : String) (slot : Nat) : Cloud :=
  { c with
    attachments := c.attachments + 1
    interfaces := c.interfaces.modify key (.taken ⟨attachmentId (c.attachments + 1), instanceId, slot⟩) }

theorem Grants.attach_eq (h : c.Grants key instanceId slot i) :
    c.attach key instanceId slot = (.ok (attachmentId (c.attachments + 1)), c.attached key instanceId slot) := by
  obtain ⟨hw, hr, hs, hk, ha, hu⟩ := h
  simp [attach, hr, hs, hk, ha, hu, hw, attached]
  rfl

/-- **What is not granted is refused**, and changes no interface. -/
theorem attach_refused (h : ∀ i, ¬ c.Grants key instanceId slot i) : ∃ reason n, c.attachments ≤ n ∧
    c.attach key instanceId slot = (.error (.attach key reason), { c with attachments := n }) := by
  unfold attach
  split
  · exact ⟨_, c.attachments, Nat.le_refl _, rfl⟩
  rename_i hworking
  split
  · exact ⟨_, c.attachments, Nat.le_refl _, rfl⟩
  rename_i hregistered
  split
  · exact ⟨_, c.attachments, Nat.le_refl _, rfl⟩
  rename_i hslot
  dsimp only
  split
  · exact ⟨_, c.attachments + 1, Nat.le_succ _, rfl⟩
  rename_i i hi
  split
  · exact ⟨_, c.attachments + 1, Nat.le_succ _, rfl⟩
  · rename_i hfree
    obtain ⟨hs, ha⟩ := not_or.1 hfree
    have hgranted : c.Grants key instanceId slot i :=
      ⟨by simpa using hworking, by simpa using hregistered, by simpa using hslot, hi, by simpa using hs, by simpa using ha⟩
    exact absurd hgranted (h i)

/-! ## Detaching -/

/-- The cloud once the interface is released. -/
def freed (c : Cloud) (key : String) : Cloud := { c with interfaces := c.interfaces.modify key .released }

/-- **A detachment releases an interface with the id, or is refused and changes nothing.** -/
theorem detach_cases (c : Cloud) (id : String) :
    (∃ key i, c.interfaces.get? key = some i ∧ i.attachmentId = some id ∧ c.detach id = (.ok (), c.freed key)) ∨
      (∃ reason, c.detach id = (.error (.detach id reason), c)) ∧
        (c.failDetaches = false → ∀ key i, c.interfaces.get? key = some i → i.attachmentId ≠ some id) := by
  unfold detach
  split
  · rename_i hfail
    exact .inr ⟨⟨_, rfl⟩, fun hw => absurd (hfail.symm.trans hw) (by decide)⟩
  split
  · rename_i hnone
    refine .inr ⟨⟨_, rfl⟩, fun _ key i hi hid => ?_⟩
    have hfind := Option.map_eq_none_iff.1 hnone
    have hno := List.find?_eq_none.1 hfind (key, i) (TextMap.mem_entries.2 hi)
    exact hno (beq_iff_eq.2 hid)
  · rename_i key hkey
    obtain ⟨i, hi, hid⟩ := TextMap.get?_of_firstKey? hkey
    exact .inl ⟨key, i, hi, eq_of_beq hid, rfl⟩

/-! ## Any call -/

theorem Grants.of_record {e : CloudCall} (h : (c.record e).Grants key instanceId slot i) :
    c.Grants key instanceId slot i := ⟨h.1, h.2, h.3, h.4, h.5, h.6⟩

/-- **A call to attach is granted or refused**, and then nothing but the count of the ids has changed. -/
theorem serve_attach (c : Cloud) (key instanceId : String) (slot : Nat) :
    (∃ i, c.Grants key instanceId slot i ∧ serve (.attach key instanceId slot) c =
      (.ok (attachmentId (c.attachments + 1)), (c.record (.attach key instanceId slot)).attached key instanceId slot)) ∨
    (∀ i, ¬ c.Grants key instanceId slot i) ∧ ∃ reason n, c.attachments ≤ n ∧ serve (.attach key instanceId slot) c =
      (.error (.attach key reason), { c.record (.attach key instanceId slot) with attachments := n }) := by
  by_cases h : ∃ i, (c.record (.attach key instanceId slot)).Grants key instanceId slot i
  · obtain ⟨i, hi⟩ := h
    exact .inl ⟨i, hi.of_record, hi.attach_eq⟩
  · refine .inr ⟨fun i hi => h ⟨i, ⟨hi.1, hi.2, hi.3, hi.4, hi.5, hi.6⟩⟩, attach_refused (not_exists.1 h)⟩

theorem serve_detach (c : Cloud) (id : String) :
    (∃ key i, c.interfaces.get? key = some i ∧ i.attachmentId = some id ∧
      serve (.detach id) c = (.ok (), (c.record (.detach id)).freed key)) ∨
    (∃ reason, serve (.detach id) c = (.error (.detach id reason), c.record (.detach id))) ∧
      (c.failDetaches = false → ∀ key i, c.interfaces.get? key = some i → i.attachmentId ≠ some id) :=
  detach_cases (c.record (.detach id)) id

/-- What a served call, with its reply, makes of the interfaces. -/
inductive Effect (c : Cloud) : (call : ProviderCall) → call.Reply → Cloud → Prop where
  | none {call : ProviderCall} {reply : call.Reply} {d : Cloud} (hd : d.interfaces = c.interfaces)
      (hle : c.attachments ≤ d.attachments) : Effect c call reply d
  | attach {key instanceId id : String} {slot : Nat} {i : Interface} {d : Cloud} (h : c.Grants key instanceId slot i)
      (hd : d.interfaces = c.interfaces.modify key (.taken ⟨id, instanceId, slot⟩))
      (hn : d.attachments = c.attachments + 1) (hid : id = attachmentId d.attachments) :
      Effect c (.attach key instanceId slot) (.ok id) d
  | detach {key : String} {i : Interface} {a : Attachment} {d : Cloud} (hi : c.interfaces.get? key = some i)
      (ha : i.attachment = some a) (hd : d.interfaces = c.interfaces.modify key .released)
      (hn : d.attachments = c.attachments) : Effect c (.detach a.attachmentId) (.ok ()) d

/-- **A served call attaches an interface, or releases one, or leaves all interfaces alone.** -/
theorem effect_serve (c : Cloud) : ∀ call : ProviderCall, Effect c call (serve call c).1 (serve call c).2
  | .describeInstance _ => .none rfl (Nat.le_refl _)
  | .describeInterfaces _ => .none rfl (Nat.le_refl _)
  | .attach key instanceId slot => by
    rcases serve_attach c key instanceId slot with ⟨i, hi, heq⟩ | ⟨-, reason, n, hn, heq⟩
    · rw [heq]
      exact .attach hi rfl rfl rfl
    · rw [heq]
      exact .none rfl hn
  | .detach id => by
    rcases serve_detach c id with ⟨key, i, hi, hid, heq⟩ | ⟨⟨reason, heq⟩, -⟩
    · obtain ⟨a, ha, rfl⟩ := Option.map_eq_some_iff.1 hid
      rw [heq]
      exact .detach hi ha rfl rfl
    · rw [heq]
      exact .none rfl (Nat.le_refl _)

/-- Every interface is kept under its own id. -/
def Indexed (c : Cloud) : Prop := ∀ key i, c.interfaces.get? key = some i → i.interfaceId = key

/-- An interface is available only while it is unattached. -/
def Vacant (c : Cloud) : Prop :=
  ∀ key i, c.interfaces.get? key = some i → i.status = .available → i.attachment = none

/-- What becomes of one interface: it is as it was, or the call has attached it, or the call has released it. -/
theorem Effect.entry {call : ProviderCall} {reply : call.Reply} (h : Effect c call reply d) (k : String) :
    d.interfaces.get? k = c.interfaces.get? k ∨
      (∃ n slot i id, (⟨call, reply⟩ : (x : ProviderCall) × x.Reply) = ⟨.attach k n slot, .ok id⟩ ∧ c.Grants k n slot i ∧
        d.interfaces.get? k = some (i.taken ⟨id, n, slot⟩)) ∨
      ∃ i a, (⟨call, reply⟩ : (x : ProviderCall) × x.Reply) = ⟨.detach a.attachmentId, .ok ()⟩ ∧
        c.interfaces.get? k = some i ∧ i.attachment = some a ∧ d.interfaces.get? k = some i.released := by
  cases h with
  | none hd _ => exact .inl (by rw [hd])
  | @attach key n id slot i _ h hd _ _ =>
    by_cases hk : k = key
    · subst hk
      have hnew : d.interfaces.get? k = some (i.taken ⟨id, n, slot⟩) := by
        rw [hd, TextMap.get?_modify_of h.known, if_pos rfl]
      exact .inr (.inl ⟨n, slot, i, id, rfl, h, hnew⟩)
    · exact .inl (by rw [hd, TextMap.get?_modify_of h.known, if_neg hk])
  | @detach key i a _ hi ha hd _ =>
    by_cases hk : k = key
    · subst hk
      have hnew : d.interfaces.get? k = some i.released := by rw [hd, TextMap.get?_modify_of hi, if_pos rfl]
      exact .inr (.inr ⟨i, a, rfl, hi, ha, hnew⟩)
    · exact .inl (by rw [hd, TextMap.get?_modify_of hi, if_neg hk])

theorem Effect.indexed {call : ProviderCall} {reply : call.Reply} (h : Effect c call reply d) (hc : c.Indexed) :
    d.Indexed := by
  intro k j hj
  rcases h.entry k with hsame | ⟨n, slot, i, id, -, hi, hnew⟩ | ⟨i, a, -, hi, -, hnew⟩
  · exact hc k j (hsame ▸ hj)
  · obtain rfl := Option.some.inj (hnew.symm.trans hj)
    have hkey : i.interfaceId = k := hc k i hi.known
    exact hkey
  · obtain rfl := Option.some.inj (hnew.symm.trans hj)
    have hkey : i.interfaceId = k := hc k i hi
    exact hkey

theorem Effect.vacant {call : ProviderCall} {reply : call.Reply} (h : Effect c call reply d) (hc : c.Vacant) :
    d.Vacant := by
  intro k j hj hs
  rcases h.entry k with hsame | ⟨n, slot, i, id, -, hi, hnew⟩ | ⟨i, a, -, hi, -, hnew⟩
  · exact hc k j (hsame ▸ hj) hs
  · obtain rfl := Option.some.inj (hnew.symm.trans hj)
    cases hs
  · obtain rfl := Option.some.inj (hnew.symm.trans hj)
    rfl

/-- What no call of a binder changes: which instances there are, and which calls fail. -/
structure SameSetup (c d : Cloud) : Prop where
  instances : d.instances = c.instances
  failQueries : d.failQueries = c.failQueries
  failAttaches : d.failAttaches = c.failAttaches
  failDetaches : d.failDetaches = c.failDetaches

theorem sameSetup_serve (c : Cloud) : ∀ call : ProviderCall, c.SameSetup (serve call c).2
  | .describeInstance _ => ⟨rfl, rfl, rfl, rfl⟩
  | .describeInterfaces _ => ⟨rfl, rfl, rfl, rfl⟩
  | .attach key instanceId slot => by
    rcases serve_attach c key instanceId slot with ⟨i, -, heq⟩ | ⟨-, reason, n, -, heq⟩
    · rw [heq]
      exact ⟨rfl, rfl, rfl, rfl⟩
    · rw [heq]
      exact ⟨rfl, rfl, rfl, rfl⟩
  | .detach id => by
    rcases serve_detach c id with ⟨key, i, -, -, heq⟩ | ⟨⟨reason, heq⟩, -⟩
    · rw [heq]
      exact ⟨rfl, rfl, rfl, rfl⟩
    · rw [heq]
      exact ⟨rfl, rfl, rfl, rfl⟩

end Cloud
end AddressBinder
