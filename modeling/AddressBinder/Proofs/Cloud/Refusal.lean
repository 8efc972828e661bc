import AddressBinder.Proofs.Cloud.Entries
/-!
# Attachments are made or refused as a whole

A call to attach or to detach that fails leaves a record of itself and nothing else (`Untouched`).  A call to attach
succeeds exactly when the attachment is granted; what it has changed is one interface, and the release of the attachment
changes it back.
-/
namespace AddressBinder
namespace Cloud

/-- A call has come and gone without a trace but its record.  Whether an attachment id is used up is not observed. -/
structure Untouched (call : CloudCall) (c d : Cloud) : Prop where
  interfaces : d.interfaces = c.interfaces
  setup : c.SameSetup d
  recorded : d.journal = c.journal ++ [call]

/-- A call has changed the interface with a key and no other. -/
structure Changed (call : CloudCall) (key : String) (i : Interface) (c d : Cloud) : Prop where
  entry : d.interfaces.get? key = some i
  others : ∀ k, k ≠ key → d.interfaces.get? k = c.interfaces.get? k
  setup : c.SameSetup d
  recorded : d.journal = c.journal ++ [call]

variable {c : Cloud} {key instanceId id : String} {slot : Nat} {i : Interface} {e : Error}

theorem slotTaken_eq_false : c.slotTaken instanceId slot = false ↔
    ∀ k i, c.interfaces.get? k = some i → i.occupies instanceId slot = false := by
  unfold slotTaken
  simp only [List.any_eq_false, Bool.not_eq_true, TextMap.mem_values]
  exact ⟨fun h k i hi => h i ⟨k, hi⟩, fun h i ⟨k, hi⟩ => h k i hi⟩

/-- **A refused attachment changes nothing.** -/
theorem untouched_of_attach_error (h : (serve (.attach key instanceId slot) c).1 = .error e) :
    Untouched (.attach key instanceId slot) c (serve (.attach key instanceId slot) c).2 := by
  rcases serve_attach c key instanceId slot with ⟨i, -, heq⟩ | ⟨-, reason, n, -, heq⟩
  · rw [heq] at h
    cases h
  · rw [heq]
    exact ⟨rfl, ⟨rfl, rfl, rfl, rfl⟩, rfl⟩

/-- **A refused release changes nothing.** -/
theorem untouched_of_detach_error (h : (serve (.detach id) c).1 = .error e) :
    Untouched (.detach id) c (serve (.detach id) c).2 := by
  rcases serve_detach c id with ⟨key, i, -, -, heq⟩ | ⟨⟨reason, heq⟩, -⟩
  · rw [heq] at h
    cases h
  · rw [heq]
    exact ⟨rfl, ⟨rfl, rfl, rfl, rfl⟩, rfl⟩

theorem attach_eq_ok_iff : (∃ id, (serve (.attach key instanceId slot) c).1 = .ok id) ↔
    ∃ i, c.Grants key instanceId slot i := by
  rcases serve_attach c key instanceId slot with ⟨i, hi, heq⟩ | ⟨hno, reason, n, -, heq⟩
  · rw [heq]
    exact ⟨fun _ => ⟨i, hi⟩, fun _ => ⟨_, rfl⟩⟩
  · rw [heq]
    constructor
    · rintro ⟨id, hid⟩
      cases hid
    · rintro ⟨i, hi⟩
      exact absurd hi (hno i)

/-- What an attachment that is made has for an answer, and what it leaves. -/
theorem Grants.of_serve_ok (h : (serve (.attach key instanceId slot) c).1 = .ok id) :
    ∃ i, c.Grants key instanceId slot i ∧ id = attachmentId (c.attachments + 1) ∧
      (serve (.attach key instanceId slot) c).2 = (c.record (.attach key instanceId slot)).attached key instanceId slot := by
  rcases serve_attach c key instanceId slot with ⟨i, hi, heq⟩ | ⟨-, reason, n, -, heq⟩
  · rw [heq] at h ⊢
    exact ⟨i, hi, (Except.ok.inj h).symm, rfl⟩
  · rw [heq] at h
    cases h

theorem Grants.changed (h : c.Grants key instanceId slot i) (call : CloudCall) :
    Changed call key (i.taken ⟨attachmentId (c.attachments + 1), instanceId, slot⟩) c
      ((c.record call).attached key instanceId slot) where
  entry := (TextMap.get?_modify_of h.known _ key).trans (if_pos rfl)
  others k hk := (TextMap.get?_modify_of h.known _ k).trans (if_neg hk)
  setup := ⟨rfl, rfl, rfl, rfl⟩
  recorded := rfl

/-- **The release of a new attachment puts every interface back**, if its id stands for it alone. -/
theorem Grants.detach_attached (h : c.Grants key instanceId slot i) (hworking : c.failDetaches = false)
    (halone : ∀ k j, k ≠ key → c.interfaces.get? k = some j → j.attachmentId ≠ some (attachmentId (c.attachments + 1)))
    (call : CloudCall) :
    (serve (.detach (attachmentId (c.attachments + 1))) ((c.record call).attached key instanceId slot)).1 = .ok () ∧
    (serve (.detach (attachmentId (c.attachments + 1))) ((c.record call).attached key instanceId slot)).2.interfaces =
      c.interfaces := by
  have hchanged := h.changed call
  rcases serve_detach ((c.record call).attached key instanceId slot) (attachmentId (c.attachments + 1)) with
    ⟨k, j, hj, hid, heq⟩ | ⟨-, hno⟩
  · obtain rfl : k = key := Classical.byContradiction fun hk => by
      rw [hchanged.others k hk] at hj
      exact halone k j hk hj hid
    rw [heq]
    exact ⟨rfl, TextMap.modify_modify_cancel h.known (Interface.released_eq_self h.available h.unattached)⟩
  · exact absurd rfl (hno hworking key _ hchanged.entry)

/-- **Attaching and detaching are all or nothing**: a call that fails changes nothing; a call to attach succeeds exactly
when attachments work, the instance is registered, its slot is free and the interface is known, available and
unattached; it changes that interface and no other, and the release of the attachment puts everything back. -/
theorem attach_all_or_nothing (c : Cloud) :
    (∀ key instanceId slot e, (serve (.attach key instanceId slot) c).1 = .error e →
      Untouched (.attach key instanceId slot) c (serve (.attach key instanceId slot) c).2) ∧
    (∀ id e, (serve (.detach id) c).1 = .error e → Untouched (.detach id) c (serve (.detach id) c).2) ∧
    (∀ key instanceId slot, (∃ id, (serve (.attach key instanceId slot) c).1 = .ok id) ↔
      c.failAttaches = false ∧ c.instances.contains instanceId = true ∧
      (∀ k i, c.interfaces.get? k = some i → i.occupies instanceId slot = false) ∧
      ∃ i, c.interfaces.get? key = some i ∧ i.status = .available ∧ i.attachment = none) ∧
    ∀ key instanceId slot id, (serve (.attach key instanceId slot) c).1 = .ok id →
      let d := (serve (.attach key instanceId slot) c).2
      (∃ i, c.interfaces.get? key = some i ∧
        Changed (.attach key instanceId slot) key (i.taken ⟨id, instanceId, slot⟩) c d) ∧
      ((∀ k j, k ≠ key → c.interfaces.get? k = some j → j.attachmentId ≠ some id) → c.failDetaches = false →
        (serve (.detach id) d).1 = .ok () ∧ (serve (.detach id) d).2.interfaces = c.interfaces) := by
  refine ⟨fun _ _ _ _ => untouched_of_attach_error, fun _ _ => untouched_of_detach_error, fun key n slot => ?_,
    fun key n slot id h => ?_⟩
  · rw [attach_eq_ok_iff, ← slotTaken_eq_false]
    constructor
    · rintro ⟨i, hi⟩
      exact ⟨hi.working, hi.registered, hi.slotFree, i, hi.known, hi.available, hi.unattached⟩
    · rintro ⟨hworking, hregistered, hslot, i, hknown, havailable, hunattached⟩
      exact ⟨i, hworking, hregistered, hslot, hknown, havailable, hunattached⟩
  · obtain ⟨i, hi, rfl, hd⟩ := Grants.of_serve_ok h
    dsimp only
    rw [hd]
    exact ⟨⟨i, hi.known, hi.changed _⟩, fun halone hworking => hi.detach_attached hworking halone _⟩

/-- A cloud with one interface to attach, and one that was attached elsewhere. -/
def halfTaken : Cloud :=
  ((empty.addInstance "i-1" "s").addInterface (.free "eni-1" ⟨10, 0, 0, 1⟩ "s")).addInterface
    ⟨"eni-2", some ⟨10, 0, 0, 2⟩, .inUse, some ⟨"legacy-1", "i-2", 1⟩, "s"⟩

theorem attach_all_or_nothing_halfTaken :
    (serve (.attach "eni-2" "i-1" 1) halfTaken).1 =
      .error (.attach "eni-2" "InvalidNetworkInterface.InUse: interface is already attached") ∧
    Untouched (.attach "eni-2" "i-1" 1) halfTaken (serve (.attach "eni-2" "i-1" 1) halfTaken).2 ∧
    (serve (.detach "legacy-2") halfTaken).1 = .error (.detach "legacy-2" "InvalidAttachmentID.NotFound: legacy-2") ∧
    Untouched (.detach "legacy-2") halfTaken (serve (.detach "legacy-2") halfTaken).2 ∧
    (serve (.attach "eni-1" "i-1" 1) halfTaken).1 = .ok "eni-attach-00000001" ∧
    (∀ k j, k ≠ "eni-1" → halfTaken.interfaces.get? k = some j → j.attachmentId ≠ some "eni-attach-00000001") ∧
    halfTaken.failDetaches = false ∧
    (serve (.detach "eni-attach-00000001") (serve (.attach "eni-1" "i-1" 1) halfTaken).2).2.interfaces =
      halfTaken.interfaces := by
  have hattach : (serve (.attach "eni-2" "i-1" 1) halfTaken).1 =
      .error (.attach "eni-2" "InvalidNetworkInterface.InUse: interface is already attached") := by rfl
  have hdetach : (serve (.detach "legacy-2") halfTaken).1 =
      .error (.detach "legacy-2" "InvalidAttachmentID.NotFound: legacy-2") := by rfl
  have hmade : (serve (.attach "eni-1" "i-1" 1) halfTaken).1 = .ok "eni-attach-00000001" := by rfl
  have halone : ∀ k j, k ≠ "eni-1" → halfTaken.interfaces.get? k = some j →
      j.attachmentId ≠ some "eni-attach-00000001" := by
    have hentries : ∀ k j, halfTaken.interfaces.get? k = some j → j.attachmentId ≠ some "eni-attach-00000001" :=
      TextMap.forall_get?.2 (by decide)
    exact fun k j _ hj => hentries k j hj
  obtain ⟨hattaches, hdetaches, -, hback⟩ := attach_all_or_nothing halfTaken
  exact ⟨hattach, hattaches _ _ _ _ hattach, hdetach, hdetaches _ _ hdetach, hmade, halone, rfl,
    ((hback _ _ _ _ hmade).2 halone rfl).2⟩

end Cloud
end AddressBinder
