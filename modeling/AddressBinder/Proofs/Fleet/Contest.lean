import AddressBinder.Proofs.Cloud.Attachments
import AddressBinder.Proofs.Fleet.Run
import AddressBinder.Proofs.Lifecycle.Knowledge
/-!
# Contests

Binders that share a cloud and are alone with it lose an interface only to each other.  What an attempt attaches it has
seen in its last listing (`Told`), free and of a registered instance; and an interface that was free once is free again
or attached since, at the slot that every binder uses (`Since`).  So an attach that is refused while the own slot is
free was late: another instance has attached the interface between the listing and the call.
-/
namespace AddressBinder
namespace Fleet

open Program Lifecycle

variable {c : Cloud} {crew : List (Binder × String)} {acts : List Act} {f g : Fleet} {act : Act} {n k : Nat} {m : Member}

/-- Whether an act is one of a binder, and not of the operator. -/
def Act.isOwn : Act → Bool
  | .around .. | .serve .. => true
  | .call _ | .switch .. => false

/-! ## What a cloud keeps -/

/-- What all acts of binders leave as it is. -/
structure Ordered (c d : Cloud) : Prop where
  indexed : d.Indexed
  vacant : d.Vacant
  instances : d.instances = c.instances

theorem Reaches.ordered (hi : c.Indexed) (hv : c.Vacant) (h : Reaches c crew acts f) : Ordered c f.cloud := by
  refine h.induction (P := fun f => Ordered c f.cloud) ⟨hi, hv, rfl⟩ ?_
  rintro f act g ⟨hi, hv, hinst⟩ ht
  have hserve : ∀ x, Ordered c (Cloud.serve x f.cloud).2 := fun x =>
    ⟨(Cloud.effect_serve f.cloud x).indexed hi, (Cloud.effect_serve f.cloud x).vacant hv,
      (Cloud.sameSetup_serve f.cloud x).instances.trans hinst⟩
  cases ht with
  | call x => exact hserve x
  | switch => exact ⟨hi, hv, hinst⟩
  | around => exact ⟨hi, hv, hinst⟩
  | @serve _ _ x => exact hserve x

theorem Reaches.failAttaches (hown : ∀ act ∈ acts, act.isOwn = true) (h : Reaches c crew acts f) :
    f.cloud.failAttaches = c.failAttaches := by
  revert hown
  refine h.history (P := fun acts f => (∀ act ∈ acts, act.isOwn = true) → f.cloud.failAttaches = c.failAttaches)
    (fun _ => rfl) ?_
  intro acts f act g _ ih ht hown
  have hbefore := ih fun a ha => hown a (List.mem_append_left _ ha)
  have hact : act.isOwn = true := hown act (List.mem_append_right _ List.mem_cons_self)
  cases ht with
  | call => cases hact
  | switch => cases hact
  | around => exact hbefore
  | @serve _ _ x => exact (Cloud.sameSetup_serve f.cloud x).failAttaches.trans hbefore

/-! ## What attempts were told -/

/-- The last exchange of an activity of the member `n` was a listing, which showed what was free then. -/
def Listed (c : Cloud) (crew : List (Binder × String)) (acts : List Act) (n k : Nat) (es : List (Exchange lifecycle))
    (available : List Interface) : Prop :=
  ∃ before filter after f₁ m₁, acts = before ++ .serve n k (.describeInterfaces filter) :: after ∧
    Reaches c crew before f₁ ∧ f₁.members[n]? = some m₁ ∧
    es = m₁.scene.exchanges k ++ [⟨.call (.provider (.describeInterfaces filter)), .ok available⟩] ∧
    ∀ i ∈ available, f₁.cloud.interfaces.get? i.interfaceId = some i ∧ i.status = .available

theorem Listed.concat {es : List (Exchange lifecycle)} {available : List Interface}
    (h : Listed c crew acts n k es available) (act : Act) : Listed c crew (acts ++ [act]) n k es available := by
  obtain ⟨before, filter, after, f₁, m₁, rfl, hrest⟩ := h
  exact ⟨before, filter, after ++ [act], f₁, m₁, by simp, hrest⟩

/-- What is true of the position of an activity of the member `n`, which runs on the instance `own`. -/
def Told (c : Cloud) (crew : List (Binder × String)) (acts : List Act) (n k : Nat) (own : String)
    (es : List (Exchange lifecycle)) : Finding → Prop
  | .named md => md.instanceId = own
  | .resolved md _ => md.instanceId = own
  | .viewed _ me => me.instanceId = own ∧ c.instances.contains own = true
  | .listed _ me available =>
    me.instanceId = own ∧ c.instances.contains own = true ∧ Listed c crew acts n k es available
  | _ => True

variable {own : String} {es : List (Exchange lifecycle)} {w t : Finding} {l : Licence}

theorem Told.concat (h : Told c crew acts n k own es w) (act : Act) : Told c crew (acts ++ [act]) n k own es w := by
  cases w with
  | listed => exact ⟨h.1, h.2.1, h.2.2.concat act⟩
  | _ => exact h

/-- A listing counts only for the next request; without it, it does not matter what the last exchange was. -/
theorem Told.aside {acts' : List Act} {es' : List (Exchange lifecycle)} (h : Told c crew acts n k own es w) :
    Told c crew acts' n k own es' w.aside := by
  cases w with
  | listed => exact ⟨h.1, h.2.1⟩
  | granted => trivial
  | _ => exact h

/-- **What comes from outside the cloud is true of the own instance.** -/
theorem Told.outer {acts' : List Act} {es' : List (Exchange lifecycle)} {r : Lifecycle.Request} {reply : r.Reply}
    (hw : Told c crew acts n k own es w) (ho : Outer own r reply) (ht : Finding.next? l w r reply = some t) :
    Told c crew acts' n k own es' t := by
  cases Finding.learns_of_next? ho.ne_provider ht with
  | clock => exact hw.aside
  | own => exact hw.aside
  | named d =>
    have hname : d.instanceId = own := ho
    exact hname
  | resolved heq _ =>
    subst heq
    exact hw
  | resynced heq _ =>
    subst heq
    exact hw
  | failed => trivial

/-- **What the cloud replies is so.** -/
theorem Told.served (hc : Ordered c f.cloud) (hr : Reaches c crew acts f) (hm : f.members[n]? = some m)
    (hw : Told c crew acts n k m.instanceId (m.scene.exchanges k) w) : ∀ {x : ProviderCall},
      Finding.next? l w (.call (.provider x)) (Cloud.serve x f.cloud).1 = some t →
        Told c crew (acts ++ [.serve n k x]) n k m.instanceId
          (m.scene.exchanges k ++ [⟨.call (.provider x), (Cloud.serve x f.cloud).1⟩]) t
  | .describeInstance who, ht => by
    obtain ⟨d, candidates, rfl, rfl, rfl⟩ := Finding.next?_describeInstance ht
    show Told c crew _ n k m.instanceId _ (Finding.ofDescription candidates (f.cloud.describeInstance d.instanceId))
    have hname : d.instanceId = m.instanceId := hw
    unfold Cloud.describeInstance
    split
    · trivial
    · cases hsubnet : f.cloud.instances.get? d.instanceId with
      | none => trivial
      | some subnet =>
        refine ⟨hname, ?_⟩
        unfold TextMap.contains
        rw [← hc.instances, ← hname, hsubnet]
        rfl
  | .describeInterfaces filter, ht => by
    obtain ⟨candidates, me, rfl, hfilter, rfl⟩ := Finding.next?_describeInterfaces ht
    have hlist : (Cloud.serve (.describeInterfaces filter) f.cloud).1 = f.cloud.describeInterfaces filter := rfl
    rw [hlist]
    cases hreply : f.cloud.describeInterfaces filter with
    | error _ => trivial
    | ok available =>
      refine ⟨hw.1, hw.2, acts, filter, [], f, m, rfl, hr, hm, rfl, fun i hi => ?_⟩
      subst hfilter
      obtain ⟨key, hkey, hstatus⟩ := Cloud.exists_get?_of_listed hreply hi
      have hid : i.interfaceId = key := hc.indexed key i hkey
      exact ⟨hid ▸ hkey, hstatus⟩
  | .attach key who slot, ht => by
    obtain ⟨candidates, me, available, rfl, -, -, -, -, rfl⟩ := Finding.next?_attach ht
    cases (Cloud.serve (.attach key who slot) f.cloud).1 with
    | error _ => trivial
    | ok _ => trivial
  | .detach id, ht => by
    obtain ⟨candidates, me, i, rfl, -, -, -, rfl⟩ := Finding.next?_detach ht
    cases (Cloud.serve (.detach id) f.cloud).1 with
    | error _ => trivial
    | ok _ => trivial

/-- Every activity of every member was told what is true of its position. -/
def Traced (c : Cloud) (crew : List (Binder × String)) (acts : List Act) (f : Fleet) : Prop :=
  ∀ n m k a, f.members[n]? = some m → m.scene.activities[k]? = some a →
    Knows (Told c crew acts n k m.instanceId (m.scene.exchanges k)) a

theorem Traced.seat {act' : Lifecycle.Act} {y : Scene} (h : Traced c crew acts f) (hm : f.members[n]? = some m)
    (hy : m.scene.step? m.binder act' = some y)
    (htold : ∀ k r reply w t l, Scene.Brings act' k r reply →
      Told c crew acts n k m.instanceId (m.scene.exchanges k) w → Finding.next? l w r reply = some t →
        Told c crew (acts ++ [act]) n k m.instanceId (m.scene.exchanges k ++ [⟨r, reply⟩]) t) :
    Traced c crew (acts ++ [act]) (f.seat n m y) := by
  intro n' m' k a' hm' ha'
  rcases seat_members hm' with ⟨rfl, rfl⟩ | ⟨-, hm'⟩
  · have hheir : Scene.Heir m.binder m.scene act' y k a' := (Scene.step?_turn hy).heir ha'
    show Knows (Told c crew (acts ++ [act]) n' k m.instanceId (y.exchanges k)) a'
    cases hheir with
    | same hn hrole hp hes =>
      rw [hes]
      exact ((h n' m k _ hm hn).mono fun w hw => hw.concat act).same hrole hp
    | launched op => exact knows_ofOperation op trivial
    | resumed reply own hn hp _ hact _ hes =>
      rw [hes]
      exact (h n' m k _ hm hn).goOn hp trivial fun w t hw ht => htold k _ reply w t _ hact hw ht
  · exact (h n' m' k a' hm' ha').mono fun w hw => hw.concat act

theorem Reaches.traced (hi : c.Indexed) (hv : c.Vacant) (h : Reaches c crew acts f) : Traced c crew acts f := by
  refine h.history (P := fun acts f => Traced c crew acts f) ?_ ?_
  · intro n m k a hm ha
    obtain ⟨⟨b, own⟩, -, rfl⟩ := List.mem_map.1 (List.mem_of_getElem? hm)
    obtain rfl := List.mem_singleton.1 (List.mem_of_getElem? ha)
    exact knows_ofRound finding_firstRound trivial
  · intro acts f act g hr ih ht
    have hstays : Traced c crew (acts ++ [act]) f := fun n m k a hm ha => (ih n m k a hm ha).mono fun w hw => hw.concat act
    cases ht with
    | call => exact hstays
    | switch => exact hstays
    | @around n act m y hm hallows hy =>
      exact ih.seat hm hy fun k r reply w t l hb hw ht => hw.outer (outer_of_allows hallows k r reply hb) ht
    | @serve n activity x m y hm hy =>
      have hseat : Traced c crew (acts ++ [.serve n activity x]) (f.seat n m y) := by
        refine ih.seat hm hy fun k r reply w t l hb hw ht => ?_
        obtain ⟨rfl, heq⟩ := Scene.brings_answer hb
        cases heq
        exact hw.served (hr.ordered hi hv) hr hm ht
      exact hseat

/-- **A call to attach goes by a listing of the same activity**, names the own instance, and uses the one slot. -/
theorem Traced.attach {key who : String} {slot : Nat} {reply : Except Error String} {y : Scene}
    (h : Traced c crew acts f) (hm : f.members[n]? = some m)
    (hy : m.scene.step? m.binder (.answer k (.provider (.attach key who slot)) reply) = some y) :
    who = m.instanceId ∧ slot = Inventory.secondarySlot ∧ c.instances.contains m.instanceId = true ∧
      ∃ available, Listed c crew acts n k (m.scene.exchanges k) available ∧ ∃ i ∈ available, i.interfaceId = key := by
  obtain ⟨a, rest, ha, hp⟩ := Scene.asks_of_answer hy
  obtain ⟨w, hk, hw⟩ := h n m k a hm ha
  rw [hp] at hk
  obtain ⟨t, ht, -⟩ := hk reply
  obtain ⟨candidates, me, available, rfl, hwho, hslot, hselect, -⟩ := Finding.next?_attach ht
  obtain ⟨hname, hregistered, hlisted⟩ := hw
  obtain ⟨i, hi, hid⟩ := Option.map_eq_some_iff.1 hselect
  exact ⟨hwho.trans hname, hslot, hregistered, available, hlisted, i, (Decision.chosen_of_best? hi).mem, hid⟩

/-! ## What becomes of a free interface -/

/-- A service attaches the interface to an instance, at the slot that the binders use. -/
def Service.Takes (s : Service) (key instanceId id : String) : Prop :=
  s.exchange = ⟨.attach key instanceId Inventory.secondarySlot, .ok id⟩

/-- What was available at one time is still so at another one, or it was attached in between. -/
def Since (f g : Fleet) : Prop :=
  ∃ later, g.services = f.services ++ later ∧ ∀ key i, f.cloud.interfaces.get? key = some i → i.status = .available →
    ∃ j, g.cloud.interfaces.get? key = some j ∧ (j.status = .available ∨
      ∃ s ∈ later, ∃ a, j.attachment = some a ∧ a.deviceIndex = Inventory.secondarySlot ∧
        s.Takes key a.instanceId a.attachmentId)

theorem Since.refl (f : Fleet) : Since f f :=
  ⟨[], (List.append_nil _).symm, fun _ i hi hs => ⟨i, hi, .inl hs⟩⟩

theorem Since.serve {e : Fleet} {who : Caller} {x : ProviderCall} (h : Since e f)
    (hslot : ∀ key instanceId slot, x = .attach key instanceId slot → slot = Inventory.secondarySlot) :
    Since e (f.serve who x) := by
  obtain ⟨later, hlater, hfate⟩ := h
  refine ⟨later ++ [⟨who, x, (Cloud.serve x f.cloud).1⟩], ?_, fun key i hi hs => ?_⟩
  · show f.services ++ _ = _
    rw [hlater, List.append_assoc]
  obtain ⟨j, hj, hjs⟩ := hfate key i hi hs
  rcases (Cloud.effect_serve f.cloud x).entry key with hsame | ⟨n, slot, i', id, hx, -, hnew⟩ | ⟨i', a, -, -, -, hnew⟩
  · refine ⟨j, hsame.trans hj, hjs.imp_right ?_⟩
    rintro ⟨s, hmem, htakes⟩
    exact ⟨s, List.mem_append_left _ hmem, htakes⟩
  · have hx' : x = .attach key n slot := congrArg Sigma.fst hx
    obtain rfl : slot = Inventory.secondarySlot := hslot key n slot hx'
    exact ⟨_, hnew, .inr ⟨_, List.mem_append_right _ List.mem_cons_self, _, rfl, rfl, hx⟩⟩
  · exact ⟨_, hnew, .inl rfl⟩

theorem Since.turn {e : Fleet} (h : Since e f) (htraced : Traced c crew acts f) (hown : act.isOwn = true)
    (ht : f.Turn act g) : Since e g := by
  cases ht with
  | call => cases hown
  | switch => cases hown
  | around => exact h
  | @serve n activity x m y hm hy =>
    have hslot : ∀ key instanceId slot, x = .attach key instanceId slot → slot = Inventory.secondarySlot := by
      rintro key instanceId slot rfl
      exact (htraced.attach hm hy).2.1
    exact h.serve hslot

theorem Reaches.since {before after : List Act} {e : Fleet} (hi : c.Indexed) (hv : c.Vacant)
    (he : Reaches c crew before e) (hown : ∀ act ∈ after, act.isOwn = true) (h : Reaches c crew (before ++ after) f) :
    Since e f := by
  induction after using List.reverseRecOn generalizing f with
  | nil =>
    rw [List.append_nil] at h
    obtain rfl := Option.some.inj (he.symm.trans h)
    exact .refl _
  | append_singleton after act ih =>
    rw [← List.append_assoc] at h
    obtain ⟨f', hf', hs⟩ := reaches_concat.1 h
    have hbefore : Since e f' := ih (fun a ha => hown a (List.mem_append_left _ ha)) hf'
    exact hbefore.turn (hf'.traced hi hv) (hown act (List.mem_append_right _ List.mem_cons_self)) (step?_turn hs)

/-! ## Who wins -/

/-- **An attach with the own slot free is granted, or the interface is attached to another instance.** -/
theorem Reaches.attach_granted {key who : String} {slot : Nat} {y : Scene} {j : Interface} (hi : c.Indexed)
    (hv : c.Vacant) (hworks : c.failAttaches = false) (hown : ∀ act ∈ acts, act.isOwn = true)
    (h : Reaches c crew acts f) (hm : f.members[n]? = some m)
    (hy : m.scene.step? m.binder (.answer k (.provider (.attach key who slot))
      (Cloud.serve (.attach key who slot) f.cloud).1) = some y)
    (hfree : f.cloud.slotTaken m.instanceId Inventory.secondarySlot = false)
    (hj : f.cloud.interfaces.get? key = some j) (hs : j.status = .available) :
    ∃ id, (Cloud.serve (.attach key who slot) f.cloud).1 = .ok id := by
  obtain ⟨rfl, rfl, hregistered, -⟩ := (h.traced hi hv).attach hm hy
  have hord : Ordered c f.cloud := h.ordered hi hv
  have hgrants : f.cloud.Grants key m.instanceId Inventory.secondarySlot j :=
    ⟨(h.failAttaches hown).trans hworks, hord.instances ▸ hregistered, hfree, hj, hs, hord.vacant key j hj hs⟩
  rcases Cloud.serve_attach f.cloud key m.instanceId Inventory.secondarySlot with ⟨i, -, heq⟩ | ⟨hno, -⟩
  · exact ⟨_, congrArg Prod.fst heq⟩
  · exact absurd hgrants (hno j)

/-- Another instance than the activity's own has attached the interface since the listing of the attempt whose exchanges
are `es`, those of the activity before it being `pre`. -/
def Overtaken (c : Cloud) (crew : List (Binder × String)) (acts : List Act) (f : Fleet) (n k : Nat) (own key : String)
    (pre es : List (Exchange lifecycle)) : Prop :=
  ∃ before filter after f₁ m₁ es₁ available e later s other id,
    acts = before ++ .serve n k (.describeInterfaces filter) :: after ∧ Reaches c crew before f₁ ∧
      f₁.members[n]? = some m₁ ∧ m₁.scene.exchanges k = pre ++ es₁ ∧
      es = es₁ ++ [⟨.call (.provider (.describeInterfaces filter)), .ok available⟩, e] ∧
      f.services = f₁.services ++ later ∧ s ∈ later ∧ s.Takes key other id ∧ other ≠ own

/-- **What is refused with the own slot free was attached since the listing.** -/
theorem Reaches.overtaken {key who : String} {slot : Nat} {y : Scene} {cause : Error} (hi : c.Indexed)
    (hv : c.Vacant) (hworks : c.failAttaches = false) (hown : ∀ act ∈ acts, act.isOwn = true)
    (h : Reaches c crew acts f) (hm : f.members[n]? = some m)
    (hy : m.scene.step? m.binder (.answer k (.provider (.attach key who slot))
      (Cloud.serve (.attach key who slot) f.cloud).1) = some y)
    (hfree : f.cloud.slotTaken m.instanceId Inventory.secondarySlot = false)
    (hrefused : (Cloud.serve (.attach key who slot) f.cloud).1 = .error cause) {pre es : List (Exchange lifecycle)}
    (hes : pre ++ es = m.scene.exchanges k) (hne : es ≠ []) (e : Exchange lifecycle) :
    Overtaken c crew acts f n k m.instanceId key pre (es ++ [e]) := by
  obtain ⟨-, -, -, available, hlisted, i, hmem, rfl⟩ := (h.traced hi hv).attach hm hy
  obtain ⟨before, filter, after, f₁, m₁, rfl, hf₁, hm₁, hlast, hshown⟩ := hlisted
  obtain ⟨hentry, hstatus⟩ := hshown i hmem
  -- the listing is the last exchange of the attempt so far
  obtain ⟨es₁, x, rfl⟩ := (List.eq_nil_or_concat es).resolve_left hne
  rw [List.concat_eq_append, hlast, ← List.append_assoc] at hes
  obtain ⟨hpre, hx⟩ := List.append_inj' hes rfl
  obtain rfl := List.head_eq_of_cons_eq hx
  have hsince : Since f₁ f := hf₁.since hi hv (fun a ha => hown a (List.mem_append_right _ ha)) h
  obtain ⟨later, hlater, hfate⟩ := hsince
  obtain ⟨j, hj, hfree' | ⟨s, hs, a, ha, hslot, htakes⟩⟩ := hfate i.interfaceId i hentry hstatus
  · obtain ⟨id, hid⟩ := h.attach_granted hi hv hworks hown hm hy hfree hj hfree'
    rw [hid] at hrefused
    cases hrefused
  · refine ⟨before, filter, after, f₁, m₁, es₁, available, e, later, s, a.instanceId, a.attachmentId, rfl, hf₁, hm₁,
      hpre.symm, by simp, hlater, hs, htakes, fun hother => ?_⟩
    -- were it the own instance, the slot would be taken
    rw [Cloud.slotTaken_iff.2 ⟨i.interfaceId, j, a, hj, ha, hother, hslot⟩] at hfree
    cases hfree

/-- **No spurious loss.**  Binders are alone with a cloud on which no attach is made to fail, and whose available
interfaces are unattached.  When a startup attempt or a pass of one of them fails at its call to attach an interface, and
the own slot is free, another instance has attached that interface between the listing of the attempt and the call.  So
an interface that was free, and that nobody has called to attach since, goes to the first one that calls. -/
theorem Reaches.no_spurious_loss (hi : c.Indexed) (hv : c.Vacant) (hworks : c.failAttaches = false)
    (hown : ∀ act ∈ acts, act.isOwn = true) (h : Reaches c crew acts f) {key who : String} {slot : Nat}
    (hs : f.step? (.serve n k (.attach key who slot)) = some g) (hm : f.members[n]? = some m)
    (hfree : f.cloud.slotTaken m.instanceId Inventory.secondarySlot = false) :
    (∀ m' pre es X reason, g.members[n]? = some m' → m'.scene.exchanges k = pre ++ es →
      Fails m.binder es (.attach X reason) → X = key ∧ Overtaken c crew acts f n k m.instanceId key pre es) ∧
    (∀ before after e i later, acts = before ++ after → Reaches c crew before e →
      e.cloud.interfaces.get? key = some i → i.status = .available → f.services = e.services ++ later →
      (∀ s ∈ later, ∀ who' slot', s.exchange.1 ≠ .attach key who' slot') →
      ∃ id, g.services = f.services ++ [⟨.member n, .attach key who slot, .ok id⟩]) := by
  have ht := step?_turn hs
  obtain ⟨y, hy, rfl⟩ : ∃ y, m.scene.step? m.binder (.answer k (.provider (.attach key who slot))
      (Cloud.serve (.attach key who slot) f.cloud).1) = some y ∧
        g = (f.serve (.member n) (.attach key who slot)).seat n m y := by
    cases ht with
    | serve hm' hy =>
      obtain rfl := Option.some.inj (hm.symm.trans hm')
      exact ⟨_, hy, rfl⟩
  have hgranted := fun j hj hjs => h.attach_granted hi hv hworks hown hm hy hfree (j := j) hj hjs
  refine ⟨fun m' pre es X reason hm' hes hfails => ?_, fun before after e i later hacts he hi' hs' hlater hnone => ?_⟩
  · -- the attempt ends in the exchange that the act makes
    obtain rfl : m' = { m with scene := y } := by
      rcases seat_members hm' with ⟨-, h⟩ | ⟨h, -⟩
      · exact h
      · exact absurd rfl h
    have hexchanges : pre ++ es = m.scene.exchanges k ++
        [⟨.call (.provider (.attach key who slot)), (Cloud.serve (.attach key who slot) f.cloud).1⟩] :=
      hes.symm.trans (Scene.exchanges_of_answer hy)
    obtain ⟨es', x, rfl⟩ := (List.eq_nil_or_concat es).resolve_left hfails.ne_nil
    rw [List.concat_eq_append] at hexchanges hfails ⊢
    rw [← List.append_assoc] at hexchanges
    obtain ⟨hbefore, hx⟩ := List.append_inj' hexchanges rfl
    obtain rfl := List.head_eq_of_cons_eq hx
    obtain ⟨hne, cause, hcause, hX⟩ := hfails.attach
    refine ⟨?_, h.overtaken hi hv hworks hown hm hy hfree hcause hbefore hne _⟩
    rcases Cloud.serve_attach f.cloud key who slot with ⟨j, -, heq⟩ | ⟨-, r, _, -, heq⟩
    · rw [heq] at hcause
      cases hcause
    · rw [heq] at hcause
      obtain rfl := Except.error.inj hcause
      exact (Error.attach.inj hX).1
  · subst hacts
    obtain ⟨later', hlater', hfate⟩ := he.since hi hv (fun a ha => hown a (List.mem_append_right _ ha)) h
    obtain rfl : later = later' := List.append_cancel_left (hlater.symm.trans hlater')
    obtain ⟨j, hj, hjs | ⟨s, hmem, a, -, -, htakes⟩⟩ := hfate key i hi' hs'
    · obtain ⟨id, hid⟩ := hgranted j hj hjs
      refine ⟨id, ?_⟩
      show f.services ++ [⟨.member n, .attach key who slot, (Cloud.serve (.attach key who slot) f.cloud).1⟩] = _
      rw [hid]
    · exact absurd (congrArg Sigma.fst htakes) (hnone s hmem _ _)

/-- One free interface for two instances. -/
def arena : Cloud :=
  ((Cloud.empty.addInstance "i-a" "s").addInstance "i-b" "s").addInterface (.free "eni-1" ⟨10, 0, 0, 1⟩ "s")

def rivals : List (Binder × String) := [(⟨.default, "memory"⟩, "i-a"), (⟨.default, "memory"⟩, "i-b")]

/-- What an attempt of a start exchanges before its call to attach. -/
def survey (own : String) : List (Exchange lifecycle) :=
  [⟨.own (.control .phase), Phase.unbound⟩, ⟨.call .metadata, .ok ⟨own, "z"⟩⟩,
    ⟨.call (.serviceUrls "z"), .ok ["10.0.0.1"]⟩,
    ⟨.call (.provider (.describeInstance own)), .ok (some ⟨own, "s", []⟩)⟩,
    ⟨.call (.provider (.describeInterfaces ⟨[⟨10, 0, 0, 1⟩], some .available, some "s"⟩)),
      .ok [.free "eni-1" ⟨10, 0, 0, 1⟩ "s"]⟩]

/-- A start of the member `n` up to its call to attach. -/
def upToAttach (n : Nat) (own : String) : List Act :=
  [.around n (.launch .start), .around n (.move 1), .around n (.move 1), .around n (.move 1), .around n (.move 1),
    .around n (.move 1), .around n (.answer 1 .metadata (.ok ⟨own, "z"⟩)), .around n (.move 1),
    .around n (.answer 1 (.serviceUrls "z") (.ok ["10.0.0.1"])), .around n (.move 1),
    .serve n 1 (.describeInstance own), .around n (.move 1),
    .serve n 1 (.describeInterfaces ⟨[⟨10, 0, 0, 1⟩], some .available, some "s"⟩), .around n (.move 1)]

/-- Both see the interface free, and the first one has attached it. -/
def race : List Act := upToAttach 0 "i-a" ++ upToAttach 1 "i-b" ++ [.serve 0 1 (.attach "eni-1" "i-a" 1)]

theorem fails_survey (reason : String) : Fails ⟨.default, "memory"⟩
    (survey "i-b" ++ [⟨.call (.provider (.attach "eni-1" "i-b" 1)), .error (.attach "eni-1" reason)⟩])
    (.attach "eni-1" reason) := by
  refine .inl ?_
  refine .cons _ ?_
  refine .cons _ ?_
  refine .cons _ ?_
  refine .cons _ ?_
  refine .cons _ ?_
  refine .cons _ ?_
  exact .nil _

/-- What a start exchanges before its first attempt. -/
def entry : List (Exchange lifecycle) :=
  [⟨.own (.control .markStarted), false⟩, ⟨.own (.control .acquire), ()⟩, ⟨.own (.control .phase), Phase.unbound⟩]

theorem no_spurious_loss_in_race : ∃ f g, Reaches arena rivals race f ∧
    f.step? (.serve 1 1 (.attach "eni-1" "i-b" 1)) = some g ∧ ∃ e,
      Overtaken arena rivals race f 1 1 "i-b" "eni-1" entry (survey "i-b" ++ [e]) := by
  have hrun : ∃ f g m m' reason, Reaches arena rivals race f ∧ f.step? (.serve 1 1 (.attach "eni-1" "i-b" 1)) = some g ∧
      f.members[1]? = some m ∧ m.instanceId = "i-b" ∧ m.binder = ⟨.default, "memory"⟩ ∧
      f.cloud.slotTaken m.instanceId Inventory.secondarySlot = false ∧ g.members[1]? = some m' ∧
      m'.scene.exchanges 1 = entry ++ (survey "i-b" ++
        [⟨.call (.provider (.attach "eni-1" "i-b" 1)), .error (.attach "eni-1" reason)⟩]) :=
    ⟨_, _, _, _, _, rfl, rfl, rfl, rfl, rfl, rfl, rfl, rfl⟩
  obtain ⟨f, g, m, m', reason, hf, hs, hm, hname, hbinder, hfree, hm', hes⟩ := hrun
  have hindexed : arena.Indexed := TextMap.forall_get?.2 (by decide)
  have hvacant : arena.Vacant := TextMap.forall_get?.2 (by decide)
  have hown : ∀ act ∈ race, act.isOwn = true := by decide
  have hlost := (hf.no_spurious_loss hindexed hvacant rfl hown hs hm hfree).1 m' _ _ "eni-1" reason hm' hes
    (hbinder ▸ fails_survey reason)
  rw [hname] at hlost
  exact ⟨f, g, hf, hs, _, hlost.2⟩

end Fleet
end AddressBinder
