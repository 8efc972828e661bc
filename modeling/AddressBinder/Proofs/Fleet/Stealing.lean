import AddressBinder.Proofs.Cloud.Attachments
import AddressBinder.Proofs.Fleet.Run
import AddressBinder.Proofs.Lifecycle.Loyalty
/-!
# Nobody steals

Binders that share a cloud act on old answers, in any order.  A binder is loyal, so it releases only what it was once
told is attached to its instance; the id that it was told is settled then, and stays so while others attach and detach
(`Safe.turn`).  So a detach that comes too late finds nothing, or finds what is still its own.
-/
namespace AddressBinder
namespace Fleet

open Program Lifecycle

/-- An activity acts for its instance only, on what it was told and on what it will be told: the ids of its knowledge are
settled. -/
def Trusted (c : Cloud) (own : String) (p : Program lifecycle Finish) : Prop :=
  ∃ ids, p.Keeps (loyal own) (fun _ _ => True) (.knows ids) ∧ ∀ id ∈ ids, c.Settled own id

/-- A reply that tells the truth: the metadata about the instance, a description about what is attached. -/
def Truthful (c : Cloud) (own : String) : (r : Lifecycle.Request) → r.Reply → Prop
  | .call .metadata, .ok (m : InstanceMetadata) => m.instanceId = own
  | .call (.provider (.describeInstance n)), .ok (some (d : InstanceDescription)) =>
    d.instanceId = n ∧ ∀ i ∈ d.interfaces, ∀ id, i.attachmentId = some id → c.Settled n id
  | _, _ => True

variable {c d : Cloud} {own : String} {b : Binder} {p : Program lifecycle Finish}

theorem trusted_of_always (h : p.KeepsAlways (loyal own)) : Trusted c own p := ⟨[], h _, nofun⟩

theorem Trusted.mono (hp : Trusted c own p) (h : ∀ id, c.Settled own id → d.Settled own id) : Trusted d own p := by
  obtain ⟨ids, hk, hids⟩ := hp
  exact ⟨ids, hk, fun id hid => h id (hids id hid)⟩

theorem Trusted.call {x : Call} {k : Lifecycle.Request.Reply (.call x) → Program lifecycle Finish}
    (hp : Trusted c own (.ask (.call x) k)) : ∃ ids, x.isLoyal own ids = true ∧ ∀ id ∈ ids, c.Settled own id := by
  obtain ⟨ids, hk, hids⟩ := hp
  exact ⟨ids, (keeps_loyal_call.1 hk).1, hids⟩

/-- **An activity that is told the truth stays trusted.** -/
theorem Trusted.resume {r : Lifecycle.Request} {k : r.Reply → Program lifecycle Finish} (hp : Trusted c own (.ask r k))
    {reply : r.Reply} (ht : Truthful c own r reply) : Trusted c own (k reply) := by
  obtain ⟨ids, hk, hids⟩ := hp
  cases r with
  | clock r =>
    obtain ⟨t, ht, hk⟩ := hk reply
    obtain rfl := Option.some.inj ht
    exact ⟨ids, hk, hids⟩
  | own o =>
    obtain ⟨t, ht, hk⟩ := hk reply
    obtain rfl := Option.some.inj ht
    exact ⟨ids, hk, hids⟩
  | call x =>
    obtain ⟨hx, hk⟩ := keeps_loyal_call.1 hk
    suffices hhear : ∃ ids', Lore.hear own ids x reply = .knows ids' ∧ ∀ id ∈ ids', c.Settled own id by
      obtain ⟨ids', heq, hids'⟩ := hhear
      exact ⟨ids', heq ▸ hk reply, hids'⟩
    -- the name teaches no id, and a description only settled ones; no other reply teaches anything
    match x, reply, ht, hx with
    | .metadata, .ok (m : InstanceMetadata), hname, _ => exact ⟨ids, if_pos hname, hids⟩
    | .metadata, .error _, _, _ => exact ⟨ids, rfl, hids⟩
    | .provider (.describeInstance n), .ok (some (d : InstanceDescription)), ⟨hname, hsettled⟩, hx =>
      obtain rfl : n = own := eq_of_beq hx
      refine ⟨_, if_pos hname, fun id hid => ?_⟩
      rcases List.mem_append.1 hid with hid | hid
      · obtain ⟨i, hi, hid⟩ := List.mem_filterMap.1 hid
        exact hsettled i hi id hid
      · exact hids id hid
    | .provider (.describeInstance n), .ok none, _, _ => exact ⟨ids, rfl, hids⟩
    | .provider (.describeInstance n), .error _, _, _ => exact ⟨ids, rfl, hids⟩
    | .provider (.describeInterfaces _), _, _, _ => exact ⟨ids, rfl, hids⟩
    | .provider (.attach ..), _, _, _ => exact ⟨ids, rfl, hids⟩
    | .provider (.detach _), _, _, _ => exact ⟨ids, rfl, hids⟩
    | .serviceUrls _, _, _, _ => exact ⟨ids, rfl, hids⟩
    | .clearRegistry, _, _, _ => exact ⟨ids, rfl, hids⟩
    | .syncUp, _, _, _ => exact ⟨ids, rfl, hids⟩
    | .openForTraffic _, _, _, _ => exact ⟨ids, rfl, hids⟩

theorem Trusted.bind_done {α : Type} {q : Program lifecycle α} (hq : q.KeepsAlways (loyal own)) (f : α → Finish) :
    Trusted c own (q.bind fun a => .done (f a)) := trusted_of_always (hq.bind fun _ => keepsAlways_done _)

theorem Trusted.goOn (hp : Trusted c own p) (a : Activity) : Trusted c own (a.goOn b p).program := by
  match p, hp with
  | .done (.round (some delay)), _ => exact .bind_done (loyal_laterRound delay) _
  | .done (.round none), hp => exact hp
  | .done (.operation _), hp => exact hp
  | .ask _ _, hp => exact hp

/-- **No act around a binder loses the trust in its activities**, if what it brings is true. -/
theorem trusted_turn {x y : Scene} {act : Lifecycle.Act} (h : x.Turn b act y)
    (hx : ∀ a ∈ x.activities, Trusted c own a.program)
    (ht : ∀ n r reply, Scene.Brings act n r reply → Truthful c own r reply) :
    ∀ a ∈ y.activities, Trusted c own a.program := by
  intro a ha
  cases h with
  | launch op =>
    rcases List.mem_append.1 ha with ha | ha
    · exact hx a ha
    · obtain rfl := List.mem_singleton.1 ha
      exact .bind_done (loyal_program op) _
  | @issue n a' _ _ hn _ =>
    rcases List.mem_or_eq_of_mem_set ha with ha | rfl
    · exact hx a ha
    · exact hx a' (List.mem_of_getElem? hn)
  | @resume _ n a' r k reply own' hn hp _ hact =>
    rcases List.mem_or_eq_of_mem_set ha with ha | rfl
    · exact hx a ha
    · have htrust : Trusted c own (.ask r k) := hp ▸ hx _ (List.mem_of_getElem? hn)
      exact (htrust.resume (ht n r reply hact)).goOn _
  | aside => exact hx a ha

/-! ## The invariant -/

theorem truthful_of_outer : ∀ (r : Lifecycle.Request) (reply : r.Reply), Outer own r reply → Truthful c own r reply
  | .call .metadata, .ok (_ : InstanceMetadata), h => h
  | .call .metadata, .error _, _ => trivial
  | .call (.serviceUrls _), _, _ => trivial
  | .call .clearRegistry, _, _ => trivial
  | .call .syncUp, _, _ => trivial
  | .call (.openForTraffic _), _, _ => trivial
  | .clock _, _, _ => trivial
  | .own _, _, _ => trivial

theorem truthful_serve (hc : c.Sound) : ∀ x : ProviderCall, Truthful c own (.call (.provider x)) (Cloud.serve x c).1
  | .describeInstance n => by
    show Truthful c own (.call (.provider (.describeInstance n))) (c.describeInstance n)
    match h : c.describeInstance n with
    | .error _ => trivial
    | .ok none => trivial
    | .ok (some d) => exact hc.settled_of_describe h
  | .describeInterfaces _ => trivial
  | .attach .. => trivial
  | .detach _ => trivial

theorem truthful_of_serve (hc : c.Sound) {x : ProviderCall} {activity n : Nat} :
    ∀ (r : Lifecycle.Request) (reply : r.Reply),
      Scene.Brings (.answer activity (.provider x) (Cloud.serve x c).1) n r reply → Truthful c own r reply
  | .call _, _, hb => by
    cases hb
    exact truthful_serve hc x
  | .clock _, _, _ => trivial
  | .own _, _, _ => trivial

/-- The cloud is sound, and every activity of every member is trusted. -/
structure Safe (f : Fleet) : Prop where
  sound : f.cloud.Sound
  trusted : ∀ m ∈ f.members, ∀ a ∈ m.scene.activities, Trusted f.cloud m.instanceId a.program

theorem safe_initial (hc : c.Sound) (crew : List (Binder × String)) : Safe (initial c crew) where
  sound := hc
  trusted m hm a ha := by
    obtain ⟨⟨b, n⟩, -, rfl⟩ := List.mem_map.1 hm
    obtain rfl := List.mem_singleton.1 ha
    exact .bind_done loyal_firstRound _

theorem Safe.serve {f : Fleet} (h : Safe f) (who : Caller) (x : ProviderCall) : Safe (f.serve who x) where
  sound := (Cloud.change_serve f.cloud x).sound h.sound
  trusted m hm a ha := (h.trusted m hm a ha).mono fun _ hs => (Cloud.change_serve f.cloud x).settled hs

theorem Safe.set {f : Fleet} (h : Safe f) {n : Nat} {m : Member} {x : Scene}
    (hx : ∀ a ∈ x.activities, Trusted f.cloud m.instanceId a.program) :
    Safe { f with members := f.members.set n { m with scene := x } } where
  sound := h.sound
  trusted m' hm' a ha := by
    rcases List.mem_or_eq_of_mem_set hm' with hm' | rfl
    · exact h.trusted m' hm' a ha
    · exact hx a ha

/-- **Every act keeps a fleet safe.** -/
theorem Safe.turn {f g : Fleet} {act : Act} (h : Safe f) (ht : f.Turn act g) : Safe g := by
  cases ht with
  | call x => exact h.serve .operator x
  | switch queries attaches detaches =>
    exact ⟨⟨h.sound.distinct, h.sound.fresh⟩, fun m hm a ha => (h.trusted m hm a ha).mono fun _ hs => ⟨hs.fresh, hs.owned⟩⟩
  | @around n act m y hm hallows hy =>
    have hmem : m ∈ f.members := List.mem_of_getElem? hm
    exact h.set (trusted_turn (Scene.step?_turn hy) (h.trusted m hmem) fun n r reply hb =>
      truthful_of_outer r reply (outer_of_allows hallows n r reply hb))
  | @serve n activity x m y hm hy =>
    have hmem : m ∈ f.members := List.mem_of_getElem? hm
    -- the reply is true of the cloud as it was before the call, and what it says stays true after it
    have hy : ∀ a ∈ y.activities, Trusted f.cloud m.instanceId a.program :=
      trusted_turn (Scene.step?_turn hy) (h.trusted m hmem) fun _ r reply hb => truthful_of_serve h.sound r reply hb
    exact (h.serve (.member n) x).set fun a ha => (hy a ha).mono fun _ hs => (Cloud.change_serve f.cloud x).settled hs

/-! ## What becomes of an interface -/

/-- A member is entitled to the calls that its loyalty allows, the operator to any. -/
def Entitled (f : Fleet) : Caller → ProviderCall → Prop
  | .operator, _ => True
  | .member n, x => ∃ m, f.members[n]? = some m ∧
      ∃ ids, (Call.provider x).isLoyal m.instanceId ids = true ∧ ∀ id ∈ ids, f.cloud.Settled m.instanceId id

variable {f g : Fleet} {act : Act} {who : Caller}

theorem Entitled.attach {key instanceId : String} {slot : Nat} (h : f.Entitled who (.attach key instanceId slot)) :
    f.ActsFor who instanceId := by
  cases who with
  | operator => trivial
  | member n =>
    obtain ⟨m, hm, ids, hown, -⟩ := h
    have hname : instanceId = m.instanceId := eq_of_beq hown
    exact ⟨m, hm, hname.symm⟩

/-- **What a caller is entitled to release is attached to its instance**, however old its knowledge is. -/
theorem Entitled.detach {key : String} {a : Attachment} (h : f.Entitled who (.detach a.attachmentId))
    (ha : f.cloud.attachment? key = some a) : f.ActsFor who a.instanceId := by
  cases who with
  | operator => trivial
  | member n =>
    obtain ⟨m, hm, ids, hids, hsettled⟩ := h
    have hid : a.attachmentId ∈ ids := List.contains_iff_mem.1 hids
    have howner : a.instanceId = m.instanceId := (hsettled _ hid).owned ha rfl
    exact ⟨m, hm, howner.symm⟩

theorem Safe.entitled {n activity : Nat} {m : Member} {x : ProviderCall} {reply : x.Reply} {y : Scene} (h : Safe f)
    (hm : f.members[n]? = some m) (hy : m.scene.step? m.binder (.answer activity (.provider x) reply) = some y) :
    f.Entitled (.member n) x := by
  obtain ⟨a, k, ha, hp⟩ := Scene.asks_of_answer hy
  have htrust : Trusted f.cloud m.instanceId a.program := h.trusted m (List.mem_of_getElem? hm) a (List.mem_of_getElem? ha)
  rw [hp] at htrust
  exact ⟨m, hm, htrust.call⟩

/-- An act has a call served that its caller is entitled to, or leaves every attachment alone. -/
theorem Safe.served (h : Safe f) (ht : f.Turn act g) :
    (∀ key, g.cloud.attachment? key = f.cloud.attachment? key) ∨
      ∃ who x, f.Entitled who x ∧ g.cloud = (Cloud.serve x f.cloud).2 ∧
        g.services = f.services ++ [⟨who, x, (Cloud.serve x f.cloud).1⟩] := by
  cases ht with
  | call x => exact .inr ⟨.operator, x, trivial, rfl, rfl⟩
  | switch => exact .inl fun _ => rfl
  | around => exact .inl fun _ => rfl
  | @serve n activity x m y hm hy => exact .inr ⟨.member n, x, h.entitled hm hy, rfl, rfl⟩

/-- What becomes of one interface in one act. -/
inductive Fate (f g : Fleet) (key : String) : Prop where
  | stays (h : g.cloud.attachment? key = f.cloud.attachment? key)
  | attached (who : Caller) (a : Attachment) (hwho : f.ActsFor who a.instanceId)
      (hfree : f.cloud.attachment? key = none) (hnow : g.cloud.attachment? key = some a)
      (hserved : g.services = f.services ++ [⟨who, .attach key a.instanceId a.deviceIndex, .ok a.attachmentId⟩])
  | detached (who : Caller) (a : Attachment) (hwho : f.ActsFor who a.instanceId)
      (hheld : f.cloud.attachment? key = some a) (hnow : g.cloud.attachment? key = none)
      (hserved : g.services = f.services ++ [⟨who, .detach a.attachmentId, .ok ()⟩])

theorem Safe.fate (h : Safe f) (ht : f.Turn act g) (key : String) : Fate f g key := by
  rcases h.served ht with hsame | ⟨who, x, hwho, hcloud, hserved⟩
  · exact .stays (hsame key)
  rcases (Cloud.change_serve f.cloud x).fate key with hsame | ⟨a, hfree, hnow, hx⟩ | ⟨a, hheld, hnow, hx⟩
  · exact .stays (by rw [hcloud, hsame])
  · obtain rfl : x = .attach key a.instanceId a.deviceIndex := congrArg Sigma.fst hx
    rw [hx] at hserved
    exact .attached who a hwho.attach hfree (by rw [hcloud, hnow]) hserved
  · obtain rfl : x = .detach a.attachmentId := congrArg Sigma.fst hx
    rw [hx] at hserved
    exact .detached who a (hwho.detach hheld) hheld (by rw [hcloud, hnow]) hserved

/-- **No stealing.**  Binders around one cloud, and an operator, in any order.  An interface becomes attached only by a
successful attach, for the instance that the attach names, which is the caller's own unless the operator calls; what is
attached is never attached anew; and it is released only by a successful detach of its attachment, by the operator or by
a binder on the instance that it is attached to. -/
theorem Reaches.no_stealing {c : Cloud} (hc : c.Preregistered) {crew : List (Binder × String)} {acts : List Act}
    (h : Reaches c crew acts f) (hs : f.step? act = some g) (key : String) :
    (∀ a, f.cloud.attachment? key = none → g.cloud.attachment? key = some a → ∃ who, f.ActsFor who a.instanceId ∧
      g.services = f.services ++ [⟨who, .attach key a.instanceId a.deviceIndex, .ok a.attachmentId⟩]) ∧
    (∀ a a', f.cloud.attachment? key = some a → g.cloud.attachment? key = some a' → a' = a) ∧
    (∀ a, f.cloud.attachment? key = some a → g.cloud.attachment? key = none → ∃ who, f.ActsFor who a.instanceId ∧
      g.services = f.services ++ [⟨who, .detach a.attachmentId, .ok ()⟩]) := by
  have hsafe : Safe f := h.induction (safe_initial hc.sound crew) Safe.turn
  cases hsafe.fate (step?_turn hs) key with
  | stays hsame =>
    refine ⟨fun a hf hg => ?_, fun a a' hf hg => ?_, fun a hf hg => ?_⟩
    · rw [hsame, hf] at hg
      cases hg
    · rw [hsame, hf] at hg
      exact (Option.some.inj hg).symm
    · rw [hsame, hf] at hg
      cases hg
  | attached who a hwho hfree hnow hserved =>
    refine ⟨fun a' _ hg => ?_, fun a' _ hf _ => ?_, fun a' hf _ => ?_⟩
    · obtain rfl := Option.some.inj (hnow.symm.trans hg)
      exact ⟨who, hwho, hserved⟩
    · rw [hfree] at hf
      cases hf
    · rw [hfree] at hf
      cases hf
  | detached who a hwho hheld hnow hserved =>
    refine ⟨fun a' _ hg => ?_, fun a' a'' _ hg => ?_, fun a' hf _ => ?_⟩
    · rw [hnow] at hg
      cases hg
    · rw [hnow] at hg
      cases hg
    · obtain rfl := Option.some.inj (hheld.symm.trans hf)
      exact ⟨who, hwho, hserved⟩

/-- A cloud whose one interface was attached before. -/
def ownedOnce : Cloud :=
  { Cloud.empty with
    instances := ⟨[("i-a", "s"), ("i-b", "s")], by decide⟩
    interfaces := ⟨[("eni-1", ⟨"eni-1", some ⟨10, 0, 0, 1⟩, .inUse, some ⟨"legacy-1", "i-a", 1⟩, "s"⟩)], by decide⟩ }

theorem attachment?_ownedOnce {k : String} {a : Attachment} (h : ownedOnce.attachment? k = some a) :
    k = "eni-1" ∧ a = ⟨"legacy-1", "i-a", 1⟩ := by
  by_cases hk : k = "eni-1"
  · subst hk
    exact ⟨rfl, (Option.some.inj h).symm⟩
  · have hne : ("eni-1" == k) = false := beq_eq_false_iff_ne.2 (Ne.symm hk)
    simp [Cloud.attachment?, ownedOnce, TextMap.get?, hne] at h

theorem preregistered_ownedOnce : ownedOnce.Preregistered where
  distinct hk hl _ := (attachment?_ownedOnce hk).1.trans (attachment?_ownedOnce hl).1.symm
  foreign n hk hid := by
    rw [(attachment?_ownedOnce hk).2] at hid
    exact Cloud.ne_attachmentId (by decide) n hid

/-- A shutdown that describes its instance, and then its interface is moved to another one before it detaches. -/
def lateDetach : List Act :=
  [.around 0 (.launch .shutdown), .around 0 (.move 1), .around 0 (.move 1), .around 0 (.move 1), .around 0 (.move 1),
    .around 0 (.answer 1 .metadata (.ok ⟨"i-a", "z"⟩)), .around 0 (.move 1),
    .around 0 (.answer 1 (.serviceUrls "z") (.ok ["10.0.0.1"])), .around 0 (.move 1), .serve 0 1 (.describeInstance "i-a"),
    .around 0 (.move 1), .call (.detach "legacy-1"), .call (.attach "eni-1" "i-b" 1)]

theorem no_stealing_by_late_detach : ∃ f g, Reaches ownedOnce [(⟨.default, "memory"⟩, "i-a")] lateDetach f ∧
    f.step? (.serve 0 1 (.detach "legacy-1")) = some g ∧
    f.cloud.attachment? "eni-1" = some ⟨"eni-attach-00000001", "i-b", 1⟩ ∧
    g.cloud.attachment? "eni-1" = some ⟨"eni-attach-00000001", "i-b", 1⟩ := by
  have hsome : (lateDetach.foldlM step? (initial ownedOnce [(⟨.default, "memory"⟩, "i-a")])).any (fun f =>
      (f.cloud.attachment? "eni-1" == some ⟨"eni-attach-00000001", "i-b", 1⟩) &&
        (f.step? (.serve 0 1 (.detach "legacy-1"))).any fun g => (g.cloud.attachment? "eni-1").isSome) = true := by
    rfl
  obtain ⟨f, hf, hboth⟩ := Option.any_eq_true _ _ |>.1 hsome
  obtain ⟨hheld, hserved⟩ := Bool.and_eq_true_iff.1 hboth
  have hheld := eq_of_beq hheld
  obtain ⟨g, hg, hstill⟩ := Option.any_eq_true _ _ |>.1 hserved
  obtain ⟨a, ha⟩ := Option.isSome_iff_exists.1 hstill
  refine ⟨f, g, hf, hg, hheld, ?_⟩
  rw [ha, (Reaches.no_stealing preregistered_ownedOnce hf hg "eni-1").2.1 _ a hheld ha]

end Fleet
end AddressBinder
