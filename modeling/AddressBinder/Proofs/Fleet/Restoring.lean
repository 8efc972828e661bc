import AddressBinder.Proofs.Cloud.Lending
import AddressBinder.Proofs.Fleet.Run
import AddressBinder.Proofs.Lifecycle.Closing
/-!
# What a life leaves behind

One binder around a cloud that nobody else changes, from its start to the end of its shutdown.  While it is up, it holds
what its instance held before, or one interface that it has attached at the one slot, or nothing (`Holding`); what its
activities were told agrees with that (`Aware`), however they overlap.  The shutdown is alone when it looks, so it knows
what is held (`Sees`), and does not end before that is released.
-/
namespace AddressBinder
namespace Fleet

open Program Lifecycle

/-! ## Undisturbed runs -/

/-- The reply of a collaborator that works, while the zone has the given candidates. -/
def Supplies (candidates : Candidates) : (x : Call) → x.Reply → Prop
  | .serviceUrls zone, .ok (urls : List String) => Candidates.ofEntries zone urls = .ok candidates
  | _, .ok _ => True
  | _, .error _ => False

/-- Nobody but the binders acts, and their collaborators work. -/
def Act.IsUndisturbed (candidates : Candidates) : Act → Prop
  | .around _ (.answer _ x reply) => Supplies candidates x reply
  | .around .. | .serve .. => True
  | .call _ | .switch .. => False

def Act.launch? : Act → Option Operation
  | .around _ (.launch op) => some op
  | _ => none

def Smooth (candidates : Candidates) : (r : Lifecycle.Request) → r.Reply → Prop
  | .call x, reply => Supplies candidates x reply
  | _, _ => True

variable {c d : Cloud} {own : String} {candidates : Candidates} {w t : Finding} {l : Licence}

theorem succeeds_of_supplies {x : Call} {reply : x.Reply} (h : Supplies candidates x reply) :
    Finding.Succeeds x reply := by
  cases x with
  | serviceUrls zone =>
    cases reply with
    | ok urls => exact ⟨candidates, h⟩
    | error _ => exact h
  | _ =>
    cases reply with
    | ok _ => trivial
    | error _ => exact h

theorem smooth_of_brings {n k : Nat} {act : Lifecycle.Act} (h : (Act.around n act).IsUndisturbed candidates) :
    ∀ {r : Lifecycle.Request} {reply : r.Reply}, Scene.Brings act k r reply → Smooth candidates r reply
  | .call _, _, hb => by
    subst hb
    exact h
  | .clock _, _, _ => trivial
  | .own _, _, _ => trivial

/-! ## What an activity was told -/

/-- What is true of a position when the instance and the candidates are the given ones; `view` is true of descriptions,
`list` of listings, and `rest` of what is no such knowledge. -/
def Informed (own : String) (candidates : Candidates) (view : InstanceDescription → Prop) (list : List Interface → Prop)
    (rest : Finding → Prop) : Finding → Prop
  | .named m => m.instanceId = own
  | .resolved m cs => m.instanceId = own ∧ cs = candidates
  | .viewed cs me => cs = candidates ∧ view me
  | .listed cs me available => cs = candidates ∧ view me ∧ list available
  | w => rest w

section Informed

variable {view : InstanceDescription → Prop} {list : List Interface → Prop} {rest : Finding → Prop}

theorem Informed.aside (hrest : rest .nothing) (h : Informed own candidates view list rest w) :
    Informed own candidates view list rest w.aside := by
  cases w with
  | listed => exact ⟨h.1, h.2.1⟩
  | granted => exact hrest
  | _ => exact h

/-- **What collaborators that work reply keeps an activity informed.** -/
theorem Informed.outer {r : Lifecycle.Request} {reply : r.Reply} (hrest : rest .nothing)
    (h : Informed own candidates view list rest w) (ho : Outer own r reply) (hs : Smooth candidates r reply)
    (ht : Finding.next? l w r reply = some t) : Informed own candidates view list rest t := by
  cases Finding.learns_of_next? ho.ne_provider ht with
  | clock => exact h.aside hrest
  | own => exact h.aside hrest
  | named m =>
    have hname : m.instanceId = own := ho
    exact hname
  | @resolved m urls cs heq hcs =>
    subst heq
    have hsame : Candidates.ofEntries m.availabilityZone urls = .ok candidates := hs
    rw [hsame] at hcs
    exact ⟨h, (Except.ok.inj hcs).symm⟩
  | resynced heq _ =>
    subst heq
    exact h
  | failed hfails => exact absurd (succeeds_of_supplies hs) hfails

end Informed

/-! ## The cloud meanwhile -/

/-- What a binder on the instance needs of the cloud, but for the attachments. -/
structure Working (own : String) (d : Cloud) : Prop where
  registered : d.instances.contains own = true
  queries : d.failQueries = false
  detaches : d.failDetaches = false
  sound : d.Sound

theorem Working.serve (h : Working own d) (x : ProviderCall) : Working own (Cloud.serve x d).2 := by
  have hsame := Cloud.sameSetup_serve d x
  exact ⟨hsame.instances ▸ h.registered, hsame.failQueries.trans h.queries, hsame.failDetaches.trans h.detaches,
    (Cloud.change_serve d x).sound h.sound⟩

theorem Working.describe (h : Working own d) :
    ∃ subnetId, d.describeInstance own = .ok (some ⟨own, subnetId, d.heldBy own⟩) :=
  Cloud.describeInstance_of_contains h.registered h.queries

/-- What is held while the binder is up: nothing, or an interface, which is at the one slot unless one was held before. -/
inductive Holding (c : Cloud) (own : String) (candidates : Candidates) (d : Cloud) : Prop where
  | nothing (h : ∀ k, ¬ c.HoldsAt own candidates k) (hd : Cloud.Whole (c.home own candidates) d)
  | one {key : String} {e : Interface} {a : Attachment}
      (h : (∃ k, c.HoldsAt own candidates k) ∨ a.deviceIndex = Inventory.secondarySlot)
      (hd : Cloud.Lent (c.home own candidates) own candidates d key e a)

theorem holding_self (hv : c.Vacant) (hone : ∀ k l, c.HoldsAt own candidates k → c.HoldsAt own candidates l → k = l) :
    Holding c own candidates c := by
  rcases Cloud.whole_or_lent hv hone with ⟨hnone, hwhole⟩ | ⟨hheld, key, e, a, hlent⟩
  · exact .nothing hnone hwhole
  · exact .one (.inl hheld) hlent

theorem Holding.same {d' : Cloud} (h : Holding c own candidates d) (hd : d'.interfaces = d.interfaces) :
    Holding c own candidates d' := by
  cases h with
  | nothing hnone hwhole => exact .nothing hnone (hwhole.same hd)
  | one hslot hlent => exact .one hslot (hlent.same hd)

/-! ## Restoring -/

/-- What an activity that may attach knows: that something is held, if that was so from the beginning, and what may be
attached. -/
def Aware (c : Cloud) (own : String) (candidates : Candidates) : Finding → Prop :=
  Informed own candidates
    (fun me => me.instanceId = own ∧
      ((∃ k, c.HoldsAt own candidates k) → Decision.boundInterface? me.interfaces candidates ≠ none))
    (fun available => ∀ i ∈ available, c.home own candidates i.interfaceId = some i) (fun _ => True)

theorem aware_ofDescription (hh : Cloud.Home own candidates (c.home own candidates)) (hwork : Working own d)
    (h : Holding c own candidates d) :
    Aware c own candidates (Finding.ofDescription candidates (d.describeInstance own)) := by
  obtain ⟨subnetId, hdescribe⟩ := hwork.describe
  rw [hdescribe]
  refine ⟨rfl, rfl, fun hheld => ?_⟩
  cases h with
  | nothing hnone _ =>
    obtain ⟨k, hk⟩ := hheld
    exact absurd hk (hnone k)
  | one _ hlent =>
    have hbound : Decision.boundInterface? (d.heldBy own) candidates = some _ := hlent.boundInterface? hh
    show Decision.boundInterface? (d.heldBy own) candidates ≠ none
    rw [hbound]
    nofun

theorem home_of_describeInterfaces {subnetId : String} {available : List Interface}
    (hh : Cloud.Home own candidates (c.home own candidates)) (h : Holding c own candidates d)
    (hlist : d.describeInterfaces (Inventory.availableFilter candidates subnetId) = .ok available) :
    ∀ i ∈ available, c.home own candidates i.interfaceId = some i := by
  intro i hi
  obtain ⟨key, hkey, hstatus⟩ := Cloud.exists_get?_of_listed hlist hi
  have hbase : c.home own candidates key = some i := by
    cases h with
    | nothing _ hwhole => exact hwhole key ▸ hkey
    | one _ hlent => exact hlent.available hkey hstatus
  have hid : i.interfaceId = key := hh.indexed key i hbase
  rw [hid]
  exact hbase

/-- **What is attached while nothing is held is the one interface that is held then.** -/
theorem Holding.attach {key : String} {available : List Interface} (h : Holding c own candidates d)
    (hnone : ¬ ∃ k, c.HoldsAt own candidates k)
    (hselect : (Decision.select? available candidates).map (·.interfaceId) = some key)
    (hlisted : ∀ i ∈ available, c.home own candidates i.interfaceId = some i) :
    Holding c own candidates (Cloud.serve (.attach key own Inventory.secondarySlot) d).2 := by
  rcases Cloud.serve_attach d key own Inventory.secondarySlot with ⟨i, hgrants, heq⟩ | ⟨-, reason, n, -, heq⟩
  · rw [heq]
    cases h with
    | nothing _ hwhole =>
      obtain ⟨j, hj, rfl⟩ := Option.map_eq_some_iff.1 hselect
      have hchosen := Decision.chosen_of_best? hj
      have hbase : c.home own candidates j.interfaceId = some j := hlisted j hchosen.mem
      obtain rfl : i = j := by
        have hnow : d.interfaces.get? j.interfaceId = some j := (hwhole j.interfaceId).trans hbase
        exact Option.some.inj (hgrants.known.symm.trans hnow)
      exact .one (.inr rfl) (hwhole.attach hgrants hchosen.isCandidate rfl)
    | one hslot hlent =>
      have hsecond := hslot.resolve_left hnone
      exact absurd (hsecond ▸ hgrants) hlent.not_grants
  · rw [heq]
    exact h.same rfl

/-- **A call of an activity that may attach leaves no more than one interface held**, and its reply keeps the activity
aware of what is. -/
theorem Holding.serve (hh : Cloud.Home own candidates (c.home own candidates)) (hwork : Working own d)
    (h : Holding c own candidates d) (hw : Aware c own candidates w) : ∀ {x : ProviderCall},
      Finding.next? .restore w (.call (.provider x)) (Cloud.serve x d).1 = some t →
        Holding c own candidates (Cloud.serve x d).2 ∧ Aware c own candidates t
  | .describeInstance who, ht => by
    obtain ⟨m, cs, rfl, rfl, rfl⟩ := Finding.next?_describeInstance ht
    obtain ⟨rfl, rfl⟩ := hw
    exact ⟨h.same rfl, aware_ofDescription hh hwork h⟩
  | .describeInterfaces filter, ht => by
    obtain ⟨cs, me, rfl, rfl, rfl⟩ := Finding.next?_describeInterfaces ht
    obtain ⟨rfl, hme⟩ := hw
    refine ⟨h.same rfl, ?_⟩
    show Aware c own cs (Finding.ofListing cs me (d.describeInterfaces (Inventory.availableFilter cs me.subnetId)))
    cases hlist : d.describeInterfaces (Inventory.availableFilter cs me.subnetId) with
    | error _ => trivial
    | ok available => exact ⟨rfl, hme, home_of_describeInterfaces hh h hlist⟩
  | .attach key who slot, ht => by
    obtain ⟨cs, me, available, rfl, rfl, rfl, hselect, hl, rfl⟩ := Finding.next?_attach ht
    obtain ⟨rfl, ⟨hme, hbound⟩, hlisted⟩ := hw
    obtain ⟨-, hnone⟩ := hl.resolve_left nofun
    refine ⟨?_, ?_⟩
    · rw [hme]
      exact h.attach (fun hheld => hbound hheld hnone) hselect hlisted
    · cases (Cloud.serve (.attach key me.instanceId Inventory.secondarySlot) d).1 <;> trivial
  | .detach id, ht => by
    obtain ⟨cs, me, i, -, hl, -⟩ := Finding.next?_detach ht
    cases hl

theorem Holding.answer {b : Binder} {a : Activity} {call : ProviderCall}
    {f : Lifecycle.Request.Reply (.call (.provider call)) → Program lifecycle Finish}
    (hh : Cloud.Home own candidates (c.home own candidates)) (hwork : Working own d) (h : Holding c own candidates d)
    (ha : Knows (Aware c own candidates) a) (hl : a.role.licence = .restore)
    (hp : a.program = .ask (.call (.provider call)) f) :
    Holding c own candidates (Cloud.serve call d).2 ∧
      Knows (Aware c own candidates) (a.goOn b (f (Cloud.serve call d).1)) := by
  have hserve : ∀ w t, Aware c own candidates w →
      Finding.next? a.role.licence w (.call (.provider call)) (Cloud.serve call d).1 = some t →
        Holding c own candidates (Cloud.serve call d).2 ∧ Aware c own candidates t := by
    intro w t hw ht
    rw [hl] at ht
    exact h.serve hh hwork hw ht
  refine ⟨?_, ha.goOn hp trivial fun w t hw ht => (hserve w t hw ht).2⟩
  obtain ⟨w, hk, hw⟩ := ha
  rw [hp] at hk
  obtain ⟨t, ht, -⟩ := hk (Cloud.serve call d).1
  exact (hserve w t hw ht).1

/-! ## Releasing -/

/-- What the shutdown knows once the task is over: what is held, or that it has released it. -/
def Sees (c : Cloud) (own : String) (candidates : Candidates) (d : Cloud) : Finding → Prop :=
  Informed own candidates (fun me => me.interfaces = d.heldBy own) (fun _ => True)
    (fun w => w = .nothing ∨ w = .released ∧ Cloud.Whole (c.home own candidates) d)

/-- What is held while the binder shuts down: nothing, or one interface. -/
def Holds (c : Cloud) (own : String) (candidates : Candidates) (d : Cloud) : Prop :=
  Cloud.Whole (c.home own candidates) d ∨ ∃ key e a, Cloud.Lent (c.home own candidates) own candidates d key e a

theorem Holding.holds (h : Holding c own candidates d) : Holds c own candidates d := by
  cases h with
  | nothing _ hwhole => exact .inl hwhole
  | one _ hlent => exact .inr ⟨_, _, _, hlent⟩

/-- **At most one interface with a candidate address is held.** -/
theorem Holds.eq_of_holdsAt {k k' : String} (hh : Cloud.Home own candidates (c.home own candidates))
    (h : Holds c own candidates d) (hk : d.HoldsAt own candidates k) (hk' : d.HoldsAt own candidates k') : k = k' := by
  rcases h with hwhole | ⟨key, e, a, hlent⟩
  · exact absurd hk (hwhole.not_holdsAt hh k)
  · exact (hlent.eq_of_holdsAt hh hk).trans (hlent.eq_of_holdsAt hh hk').symm

/-- **A call of the shutdown releases what is held, or leaves it**, and it sees which. -/
theorem Holds.serve (hh : Cloud.Home own candidates (c.home own candidates)) (hwork : Working own d)
    (h : Holds c own candidates d) (hw : Sees c own candidates d w) : ∀ {x : ProviderCall},
      Finding.next? .release w (.call (.provider x)) (Cloud.serve x d).1 = some t →
        Holds c own candidates (Cloud.serve x d).2 ∧ Sees c own candidates (Cloud.serve x d).2 t
  | .describeInstance who, ht => by
    obtain ⟨m, cs, rfl, rfl, rfl⟩ := Finding.next?_describeInstance ht
    obtain ⟨rfl, rfl⟩ := hw
    obtain ⟨subnetId, hdescribe⟩ := hwork.describe
    refine ⟨h.imp (·.same rfl) fun ⟨key, e, a, hlent⟩ => ⟨key, e, a, hlent.same rfl⟩, ?_⟩
    show Sees c m.instanceId cs _ (Finding.ofDescription cs (d.describeInstance m.instanceId))
    rw [hdescribe]
    exact ⟨rfl, rfl⟩
  | .describeInterfaces filter, ht => by
    obtain ⟨cs, me, rfl, rfl, rfl⟩ := Finding.next?_describeInterfaces ht
    obtain ⟨rfl, hme⟩ := hw
    refine ⟨h.imp (·.same rfl) fun ⟨key, e, a, hlent⟩ => ⟨key, e, a, hlent.same rfl⟩, ?_⟩
    show Sees c own cs _ (Finding.ofListing cs me (d.describeInterfaces _))
    unfold Cloud.describeInterfaces
    rw [hwork.queries]
    exact ⟨rfl, hme, trivial⟩
  | .attach key who slot, ht => by
    obtain ⟨cs, me, available, -, -, -, -, hl, -⟩ := Finding.next?_attach ht
    rcases hl with hl | ⟨hl, -⟩ <;> cases hl
  | .detach id, ht => by
    obtain ⟨cs, me, i, rfl, -, hbound, hid, rfl⟩ := Finding.next?_detach ht
    obtain ⟨rfl, hme⟩ := hw
    rw [hme] at hbound
    rcases h with hwhole | ⟨key, e, a, hlent⟩
    · rw [hwhole.boundInterface? hh] at hbound
      cases hbound
    · rw [hlent.boundInterface? hh] at hbound
      obtain rfl := Option.some.inj hbound
      obtain rfl : a.attachmentId = id := Option.some.inj (hlent.attachmentId.symm.trans hid)
      obtain ⟨hok, hwhole⟩ := hlent.detach hwork.sound hwork.detaches
      rw [hok]
      exact ⟨.inl hwhole, .inr ⟨rfl, hwhole⟩⟩

/-- **A shutdown that ends with what it sees has released what was held.** -/
theorem Holds.whole (hh : Cloud.Home own candidates (c.home own candidates)) (h : Holds c own candidates d)
    (hw : Sees c own candidates d w) (hsettles : w.Settles) : Cloud.Whole (c.home own candidates) d := by
  cases w with
  | viewed cs me =>
    obtain ⟨rfl, hme⟩ := hw
    have hnone : (Decision.boundInterface? me.interfaces cs).bind (·.attachmentId) = none := hsettles
    rcases h with hwhole | ⟨key, e, a, hlent⟩
    · exact hwhole
    · rw [hme, hlent.boundInterface? hh] at hnone
      exact absurd (hlent.attachmentId.symm.trans hnone) nofun
  | released =>
    rcases hw with hw | ⟨-, hwhole⟩
    · cases hw
    · exact hwhole
  | failed => rcases hw with hw | ⟨hw, -⟩ <;> cases hw
  | _ => exact hsettles.elim

/-! ## A binder that is up -/

variable {b : Binder} {x y : Scene} {n : Nat} {call : ProviderCall}

/-- The binder is up, and its activities are aware of what is held. -/
structure Upkeep (c : Cloud) (own : String) (candidates : Candidates) (b : Binder) (x : Scene) (d : Cloud) : Prop where
  up : ∃ t, Up b x t
  working : Working own d
  holding : Holding c own candidates d
  aware : ∀ {n : Nat} {a : Activity}, x.activities[n]? = some a → Knows (Aware c own candidates) a

theorem Upkeep.turn {act : Lifecycle.Act} (h : Upkeep c own candidates b x d)
    (hact : ∀ op, act = .launch op → isCivilOperation op = true) (ht : x.Turn b act y)
    (hsmooth : ∀ n r reply, Scene.Brings act n r reply → Outer own r reply ∧ Smooth candidates r reply) :
    Upkeep c own candidates b y d := by
  obtain ⟨t, hup⟩ := h.up
  refine ⟨hup.turn hact ht, h.working, h.holding, fun {n a'} hy => ?_⟩
  cases ht.heir hy with
  | same hn hrole hp _ => exact (h.aware hn).same hrole hp
  | launched op => exact knows_ofOperation op trivial
  | resumed reply own' hn hp _ hb _ _ =>
    obtain ⟨ho, hs⟩ := hsmooth _ _ _ hb
    exact (h.aware hn).goOn hp trivial fun w t hw ht => Informed.outer trivial hw ho hs ht

theorem Upkeep.serve (hh : Cloud.Home own candidates (c.home own candidates)) (h : Upkeep c own candidates b x d)
    (hy : x.step? b (.answer n (.provider call) (Cloud.serve call d).1) = some y) :
    Upkeep c own candidates b y (Cloud.serve call d).2 := by
  obtain ⟨a, f, hn, hp, -, rfl⟩ := Scene.resumes_of_answer hy
  obtain ⟨t, hup⟩ := h.up
  obtain ⟨hholding, haware⟩ := h.holding.answer (b := b) hh h.working (h.aware hn) (hup.licence hn) hp
  refine ⟨hup.resume hn hp rfl, h.working.serve call, hholding, fun {m a'} hm => ?_⟩
  rcases getElem?_set_cases hm with ⟨rfl, rfl⟩ | ⟨-, hm⟩
  · exact haware
  · exact h.aware hm

/-! ## A binder that is shut down -/

/-- The shutdown is the activity with the number `z`; the task is aware of what is held until it is over, and then the
shutdown sees it. -/
structure Unwinding (c : Cloud) (own : String) (candidates : Candidates) (b : Binder) (z : Nat) (x : Scene) (d : Cloud)
    (s : Stopping) (w : Finding) (t : Tasking) : Prop where
  down : Down b x z s w t
  working : Working own d
  aware : ∀ {n : Nat} {a : Activity}, x.activities[n]? = some a → a.role = .periodic → Knows (Aware c own candidates) a
  before : s.isBefore = true → Holding c own candidates d
  after : s.isBefore = false → Holds c own candidates d ∧ Sees c own candidates d w

section Unwinding

variable {z : Nat} {s : Stopping} {t : Tasking}

theorem Unwinding.holds (h : Unwinding c own candidates b z x d s w t) : Holds c own candidates d := by
  cases hs : s.isBefore with
  | true => exact (h.before hs).holds
  | false => exact (h.after hs).1

theorem Unwinding.close {s' : Stopping} {w' : Finding} {r : Lifecycle.Request} {reply : r.Reply}
    (h : Unwinding c own candidates b z x d s w t) (hs' : s.next? r reply = some s')
    (hw' : Finding.next? .release w r reply = some w') (ho : Outer own r reply) (hs : Smooth candidates r reply) :
    (s'.isBefore = true → Holding c own candidates d) ∧
      (s'.isBefore = false → Holds c own candidates d ∧ Sees c own candidates d w') := by
  obtain ⟨hown, hback⟩ := Stopping.isBefore_of_next? hs'
  refine ⟨fun hlater => h.before (hback hlater), fun _ => ⟨h.holds, ?_⟩⟩
  cases hbefore : s.isBefore with
  | false => exact Informed.outer (.inl rfl) (h.after hbefore).2 ho hs hw'
  | true =>
    -- nothing was found out so far, and nothing is by a request of the binder's own
    obtain ⟨o, rfl⟩ := hown hbefore
    obtain rfl := h.down.nothing hbefore
    obtain rfl := Option.some.inj hw'
    exact .inl rfl

theorem Unwinding.turn {act : Lifecycle.Act} (hb : 0 < b.config.retries) (h : Unwinding c own candidates b z x d s w t)
    (hact : ∀ op, act ≠ .launch op) (ht : x.Turn b act y)
    (hsmooth : ∀ n r reply, Scene.Brings act n r reply → Outer own r reply ∧ Smooth candidates r reply) :
    ∃ s' w' t', Unwinding c own candidates b z y d s' w' t' := by
  cases ht with
  | launch op => exact absurd rfl (hact op)
  | @issue n a call _ hn hp =>
    refine ⟨s, w, t, h.down.issue hn, h.working, fun {m a'} hm hrole => ?_, h.before, h.after⟩
    rcases getElem?_set_cases hm with ⟨rfl, rfl⟩ | ⟨-, hm⟩
    · exact (h.aware hn hrole).same rfl rfl
    · exact h.aware hm hrole
  | @resume _ n a r f reply own' hn hp ha hbrings =>
    obtain ⟨ho, hs⟩ := hsmooth n r reply hbrings
    rcases h.down.resume hb hn hp ha with ⟨hrole, u, -, hdown⟩ | ⟨hrole, s', w', hs', hw', hdown⟩
    · refine ⟨s, w, u, hdown, h.working, fun {m a'} hm hrole' => ?_, h.before, h.after⟩
      rcases getElem?_set_cases hm with ⟨rfl, rfl⟩ | ⟨-, hm⟩
      · exact (h.aware hn hrole).goOn hp trivial fun w t hw ht => Informed.outer trivial hw ho hs ht
      · exact h.aware hm hrole'
    · obtain ⟨hbefore, hafter⟩ := h.close hs' hw' ho hs
      refine ⟨s', w', t, hdown, h.working, fun {m a'} hm hrole' => ?_, hbefore, hafter⟩
      rcases getElem?_set_cases hm with ⟨rfl, rfl⟩ | ⟨-, hm⟩
      · rw [hrole] at hrole'
        cases hrole'
      · exact h.aware hm hrole'
  | aside =>
    exact ⟨s, w, t, ⟨h.down.scheduled, h.down.shutdown, fun hm => (h.down.stands hm).alike rfl⟩, h.working, h.aware,
      h.before, h.after⟩

/-- **A call that the cloud serves is the task's as long as that is not over, and the shutdown's afterwards.** -/
theorem Unwinding.serve (hh : Cloud.Home own candidates (c.home own candidates)) (hb : 0 < b.config.retries)
    (h : Unwinding c own candidates b z x d s w t)
    (hy : x.step? b (.answer n (.provider call) (Cloud.serve call d).1) = some y) :
    ∃ s' w' t', Unwinding c own candidates b z y (Cloud.serve call d).2 s' w' t' := by
  obtain ⟨a, f, hn, hp, -, rfl⟩ := Scene.resumes_of_answer hy
  rcases h.down.resume hb hn hp rfl with ⟨hrole, u, hu, hdown⟩ | ⟨hrole, s', w', hs', hw', hdown⟩
  · have hbefore : s.isBefore = true := by
      refine Classical.byContradiction fun hnot => ?_
      have hpassing := (Tasking.eq_of_next?_call hu).1
      rcases h.down.scheduled.over_of_not_isBefore (Bool.eq_false_iff.2 hnot) with rfl | rfl <;>
        rcases hpassing with hpassing | hpassing <;> cases hpassing
    have hlicence : a.role.licence = .restore := by rw [hrole]; rfl
    obtain ⟨hholding, haware⟩ := (h.before hbefore).answer (b := b) hh h.working (h.aware hn hrole) hlicence hp
    refine ⟨s, w, u, hdown, h.working.serve call, fun {m a'} hm hrole' => ?_, fun _ => hholding,
      fun hafter => absurd (hbefore.symm.trans hafter) nofun⟩
    rcases getElem?_set_cases hm with ⟨rfl, rfl⟩ | ⟨-, hm⟩
    · exact haware
    · exact h.aware hm hrole'
  · obtain ⟨rfl, -⟩ := Stopping.eq_of_next?_call hs'
    obtain ⟨hholds, hsees⟩ := h.after rfl
    obtain ⟨-, hback⟩ := Stopping.isBefore_of_next? hs'
    refine ⟨s', w', t, hdown, h.working.serve call, fun {m a'} hm hrole' => ?_, fun hbefore => ?_,
      fun _ => hholds.serve hh h.working hsees hw'⟩
    · rcases getElem?_set_cases hm with ⟨rfl, rfl⟩ | ⟨-, hm⟩
      · rw [hrole] at hrole'
        cases hrole'
      · exact h.aware hm hrole'
    · exact absurd (hback hbefore) nofun

theorem Upkeep.shutdown (h : Upkeep c own candidates b x d) (hx : x.Ended) :
    ∃ t, Unwinding c own candidates b x.activities.length
      { x with activities := x.activities ++ [.ofOperation b .shutdown] } d .fresh .nothing t := by
  obtain ⟨t, hup⟩ := h.up
  refine ⟨t, hup.shutdown hx, h.working, fun {m a'} hm hrole => ?_, fun _ => h.holding, nofun⟩
  rcases getElem?_concat_cases hm with ⟨-, rfl⟩ | hm
  · cases hrole
  · exact h.aware hm

end Unwinding

/-! ## The whole life -/

section Life

variable {f g : Fleet} {act : Act}

def Ended (f : Fleet) : Prop := ∀ m ∈ f.members, m.scene.Ended

theorem eq_of_alone {m m' : Member} (hf : f.members = [m]) (hm : f.members[n]? = some m') : n = 0 ∧ m' = m := by
  rw [hf, List.getElem?_singleton] at hm
  split at hm
  · exact ⟨‹n = 0›, (Option.some.inj hm).symm⟩
  · cases hm

theorem seat_alone {m : Member} (hf : f.members = [m]) (y : Scene) : (f.seat 0 m y).members = [{ m with scene := y }] := by
  unfold seat
  rw [hf]
  rfl

theorem Turn.alone (hf : f.members = [⟨b, own, x⟩]) (hact : act.IsUndisturbed candidates) (ht : f.Turn act g) :
    ∃ y, g.members = [⟨b, own, y⟩] ∧
      ((∃ n act', act = .around n act' ∧ g.cloud = f.cloud ∧ x.Turn b act' y ∧
          ∀ k r reply, Scene.Brings act' k r reply → Outer own r reply ∧ Smooth candidates r reply) ∨
        ∃ k call, g.cloud = (Cloud.serve call f.cloud).2 ∧
          x.step? b (.answer k (.provider call) (Cloud.serve call f.cloud).1) = some y) := by
  cases ht with
  | call => exact hact.elim
  | switch => exact hact.elim
  | @around n act' m y hm hallows hy =>
    obtain ⟨rfl, rfl⟩ := eq_of_alone hf hm
    refine ⟨y, seat_alone hf y, .inl ⟨0, act', rfl, rfl, Scene.step?_turn hy, fun k r reply hb => ?_⟩⟩
    exact ⟨outer_of_allows hallows k r reply hb, smooth_of_brings hact hb⟩
  | @serve n k call m y hm hy =>
    obtain ⟨rfl, rfl⟩ := eq_of_alone hf hm
    have hserved : (f.serve (.member 0) call).members = [⟨b, own, x⟩] := hf
    exact ⟨y, seat_alone hserved y, .inr ⟨k, call, rfl, hy⟩⟩

/-- An act before the shutdown: what it launches, if anything, is a start or a pass. -/
def Act.IsDaily (candidates : Candidates) (act : Act) : Prop :=
  act.IsUndisturbed candidates ∧ ∀ op ∈ act.launch?, op = .start ∨ op = .runPass

/-- An act after the launch of the shutdown: nothing else is launched. -/
def Act.IsLate (candidates : Candidates) (act : Act) : Prop := act.IsUndisturbed candidates ∧ act.launch? = none

theorem Reaches.upkeep {life : List Act} (hi : c.Indexed) (hv : c.Vacant)
    (hone : ∀ k l, c.HoldsAt own candidates k → c.HoldsAt own candidates l → k = l) (hwork : Working own c)
    (hlife : ∀ act ∈ life, act.IsDaily candidates) (h : Reaches c [(b, own)] life f) :
    ∃ x, f.members = [⟨b, own, x⟩] ∧ Upkeep c own candidates b x f.cloud := by
  revert hlife
  refine h.history (P := fun acts f => (∀ act ∈ acts, act.IsDaily candidates) →
    ∃ x, f.members = [⟨b, own, x⟩] ∧ Upkeep c own candidates b x f.cloud) ?_ ?_
  · intro _
    refine ⟨Scene.initial b, rfl, ⟨.unarmed, up_initial b⟩, hwork, holding_self hv hone, fun {n a} hn => ?_⟩
    obtain rfl := List.mem_singleton.1 (List.mem_of_getElem? hn)
    exact knows_ofRound finding_firstRound trivial
  · intro acts f act g _ ih ht hlife
    obtain ⟨x, hx, hup⟩ := ih fun a ha => hlife a (List.mem_append_left _ ha)
    obtain ⟨hquiet, hlaunch⟩ := hlife act (List.mem_append_right _ List.mem_cons_self)
    obtain ⟨y, hy, ⟨n, act', rfl, hcloud, hturn, hsmooth⟩ | ⟨k, call, hcloud, hserved⟩⟩ := ht.alone hx hquiet
    · refine ⟨y, hy, ?_⟩
      rw [hcloud]
      refine hup.turn (fun op hop => ?_) hturn hsmooth
      subst hop
      rcases hlaunch op rfl with rfl | rfl <;> rfl
    · refine ⟨y, hy, ?_⟩
      rw [hcloud]
      exact hup.serve (Cloud.home_home hi hv) hserved

theorem Reaches.unwinding {life rest : List Act} (hi : c.Indexed) (hv : c.Vacant) (hb : 0 < b.config.retries)
    (hup : Upkeep c own candidates b x f.cloud) (hx : f.members = [⟨b, own, x⟩]) (hended : x.Ended)
    (hf : Reaches c [(b, own)] life f) (hrest : ∀ act ∈ rest, act.IsLate candidates)
    (h : Reaches c [(b, own)] (life ++ .around 0 (.launch .shutdown) :: rest) g) :
    ∃ y s w t, g.members = [⟨b, own, y⟩] ∧ Unwinding c own candidates b x.activities.length y g.cloud s w t := by
  induction rest using List.reverseRecOn generalizing g with
  | nil =>
    obtain ⟨f', hf', hs⟩ := reaches_concat.1 h
    obtain rfl := Option.some.inj (hf.symm.trans hf')
    cases step?_turn hs with
    | @around _ _ m y hm _ hy =>
      obtain ⟨-, rfl⟩ := eq_of_alone hx hm
      obtain rfl := Option.some.inj hy
      obtain ⟨t, hdown⟩ := hup.shutdown hended
      exact ⟨_, .fresh, .nothing, t, seat_alone hx _, hdown⟩
  | append_singleton rest act ih =>
    have hsplit : life ++ Act.around 0 (.launch .shutdown) :: (rest ++ [act]) =
        (life ++ .around 0 (.launch .shutdown) :: rest) ++ [act] := by simp
    rw [hsplit] at h
    obtain ⟨e, he, hs⟩ := reaches_concat.1 h
    obtain ⟨y, s, w, t, hy, hdown⟩ := ih (fun a ha => hrest a (List.mem_append_left _ ha)) he
    obtain ⟨hquiet, hlaunch⟩ := hrest act (List.mem_append_right _ List.mem_cons_self)
    obtain ⟨y', hy', ⟨n, act', rfl, hcloud, hturn, hsmooth⟩ | ⟨k, call, hcloud, hserved⟩⟩ :=
      (step?_turn hs).alone hy hquiet
    · have hact : ∀ op, act' ≠ .launch op := by
        rintro op rfl
        cases hlaunch
      obtain ⟨s', w', t', hdown'⟩ := hdown.turn hb hact hturn hsmooth
      exact ⟨y', s', w', t', hy', by rw [hcloud]; exact hdown'⟩
    · obtain ⟨s', w', t', hdown'⟩ := hdown.serve (Cloud.home_home hi hv) hb hserved
      exact ⟨y', s', w', t', hy', by rw [hcloud]; exact hdown'⟩

/-- **A whole life restores the pool.**  One binder on a registered instance that holds at most one candidate address,
with nobody else around, collaborators that work and a cloud in which at most attaching fails.  Whatever it starts and
passes it makes, and however these overlap, it never holds more than one candidate address; nor does it while it is shut
down afterwards; and when the shutdown has ended, every interface is as it was before, but that what the instance held
then is released. -/
theorem Reaches.life_restores {life : List Act} (hi : c.Indexed) (hv : c.Vacant) (hp : c.Preregistered)
    (hqueries : c.failQueries = false) (hdetaches : c.failDetaches = false)
    (hregistered : c.instances.contains own = true) (hretries : 1 ≤ b.config.retries)
    (hone : ∀ k l, c.HoldsAt own candidates k → c.HoldsAt own candidates l → k = l)
    (hlife : ∀ act ∈ life, act.IsDaily candidates) (hf : Reaches c [(b, own)] life f) :
    (∀ k l, f.cloud.HoldsAt own candidates k → f.cloud.HoldsAt own candidates l → k = l) ∧
    ∀ rest g, f.Ended → (∀ act ∈ rest, act.IsLate candidates) →
      Reaches c [(b, own)] (life ++ .around 0 (.launch .shutdown) :: rest) g →
      (∀ k l, g.cloud.HoldsAt own candidates k → g.cloud.HoldsAt own candidates l → k = l) ∧
      (g.Ended →
        ((∀ k, ¬ c.HoldsAt own candidates k) → ∀ key, g.cloud.interfaces.get? key = c.interfaces.get? key) ∧
        ∀ key i, c.HoldsAt own candidates key → c.interfaces.get? key = some i →
          g.cloud.interfaces.get? key = some i.released ∧
            ∀ k, k ≠ key → g.cloud.interfaces.get? k = c.interfaces.get? k) := by
  have hh : Cloud.Home own candidates (c.home own candidates) := Cloud.home_home hi hv
  obtain ⟨x, hx, hup⟩ := hf.upkeep hi hv hone ⟨hregistered, hqueries, hdetaches, hp.sound⟩ hlife
  refine ⟨fun k l hk hl => hup.holding.holds.eq_of_holdsAt hh hk hl, fun rest g hended hrest hg => ?_⟩
  have hendedx : x.Ended := hended ⟨b, own, x⟩ (by rw [hx]; exact List.mem_cons_self)
  obtain ⟨y, s, w, t, hy, hdown⟩ := hf.unwinding hi hv hretries hup hx hendedx hrest hg
  refine ⟨fun k l hk hl => hdown.holds.eq_of_holdsAt hh hk hl, fun hgended => ?_⟩
  have hendedy : y.Ended := hgended ⟨b, own, y⟩ (by rw [hy]; exact List.mem_cons_self)
  obtain ⟨rfl, hsettles⟩ := hdown.down.settles hendedy
  obtain ⟨hholds, hsees⟩ := hdown.after rfl
  have hwhole : Cloud.Whole (c.home own candidates) g.cloud := hholds.whole hh hsees hsettles
  refine ⟨fun hnone key => ?_, fun key i hheld hkey => ⟨?_, fun k hk => ?_⟩⟩
  · rw [hwhole key, Cloud.home_of_not_holdsAt (hnone key)]
  · obtain ⟨j, hj, hmine, hcandidate⟩ := hheld
    obtain rfl := Option.some.inj (hkey.symm.trans hj)
    rw [hwhole key, Cloud.home_of_holdsAt hkey hmine hcandidate]
  · have hother : ¬ c.HoldsAt own candidates k := fun hk' => hk (hone k key hk' hheld)
    rw [hwhole k, Cloud.home_of_not_holdsAt hother]

/-- A free interface, and one that belongs to another instance. -/
def pool : Cloud :=
  (((Cloud.empty.addInstance "i-a" "s").addInstance "i-b" "s").addInterface (.free "eni-1" ⟨10, 0, 0, 1⟩ "s")).addInterface
    ⟨"eni-2", some ⟨10, 0, 0, 2⟩, .inUse, some ⟨"legacy-2", "i-b", 1⟩, "s"⟩

def moves (n k : Nat) : List Act := List.replicate k (.around 0 (.move n))

/-- What an activity does to learn what is attached to its instance. -/
def inquiry (n : Nat) : List Act :=
  [.around 0 (.move n), .around 0 (.answer n .metadata (.ok ⟨"i-a", "z"⟩)), .around 0 (.move n),
    .around 0 (.answer n (.serviceUrls "z") (.ok ["10.0.0.2", "10.0.0.1"])), .around 0 (.move n),
    .serve 0 n (.describeInstance "i-a")]

/-- A start that attaches the free interface, and then a pass. -/
def day : List Act :=
  .around 0 (.launch .start) :: moves 1 4 ++ inquiry 1 ++ moves 1 1 ++
    [.serve 0 1 (.describeInterfaces ⟨[⟨10, 0, 0, 2⟩, ⟨10, 0, 0, 1⟩], some .available, some "s"⟩)] ++ moves 1 1 ++
    [.serve 0 1 (.attach "eni-1" "i-a" 1)] ++ moves 1 7 ++ .around 0 (.launch .runPass) :: inquiry 2 ++ moves 2 3

/-- A shutdown, which waits for the periodic task and releases the interface. -/
def night : List Act :=
  moves 3 3 ++ moves 0 4 ++ moves 3 2 ++ inquiry 3 ++ moves 3 1 ++ [.serve 0 3 (.detach "eni-attach-00000001")] ++
    moves 3 4

theorem ended_of_all {f : Fleet} (h : (f.members.all fun m => m.scene.activities.all fun a =>
    a.role == .periodic || a.program.result?.isSome) = true) : f.Ended := by
  intro m hm a ha op hop
  have hboth := List.all_eq_true.1 (List.all_eq_true.1 h m hm) a ha
  rw [hop] at hboth
  match hp : a.program, hboth with
  | .done result, _ => exact ⟨result, rfl⟩
  | .ask _ _, hboth => cases hboth

theorem attachment?_pool {k : String} {a : Attachment} (h : pool.attachment? k = some a) :
    k = "eni-2" ∧ a.attachmentId = "legacy-2" := by
  have hall : ∀ key i, pool.interfaces.get? key = some i → ∀ a ∈ i.attachment,
      key = "eni-2" ∧ a.attachmentId = "legacy-2" := TextMap.forall_get?.2 (by decide)
  obtain ⟨i, hi, ha⟩ := Option.bind_eq_some_iff.1 h
  exact hall k i hi a ha

theorem preregistered_pool : pool.Preregistered where
  distinct hk hl _ := (attachment?_pool hk).1.trans (attachment?_pool hl).1.symm
  foreign n hk := by
    rw [(attachment?_pool hk).2]
    exact Cloud.ne_attachmentId (by decide) n

theorem life_restores_pool : ∃ f g, Reaches pool [(⟨.default, "memory"⟩, "i-a")] day f ∧ f.Ended ∧
    f.cloud.attachment? "eni-1" = some ⟨"eni-attach-00000001", "i-a", 1⟩ ∧
    Reaches pool [(⟨.default, "memory"⟩, "i-a")] (day ++ .around 0 (.launch .shutdown) :: night) g ∧ g.Ended ∧
    ∀ key, g.cloud.interfaces.get? key = pool.interfaces.get? key := by
  have hrun : ∃ f g, Reaches pool [(⟨.default, "memory"⟩, "i-a")] day f ∧
      (f.members.all fun m => m.scene.activities.all fun a => a.role == .periodic || a.program.result?.isSome) = true ∧
      f.cloud.attachment? "eni-1" = some ⟨"eni-attach-00000001", "i-a", 1⟩ ∧
      Reaches pool [(⟨.default, "memory"⟩, "i-a")] (day ++ .around 0 (.launch .shutdown) :: night) g ∧
      (g.members.all fun m => m.scene.activities.all fun a => a.role == .periodic || a.program.result?.isSome) = true :=
    ⟨_, _, rfl, rfl, rfl, rfl, rfl⟩
  obtain ⟨f, g, hf, hfended, hheld, hg, hgended⟩ := hrun
  have hurls : Candidates.ofEntries "z" ["10.0.0.2", "10.0.0.1"] = .ok ⟨[⟨10, 0, 0, 2⟩, ⟨10, 0, 0, 1⟩]⟩ := rfl
  have hday : ∀ act ∈ day, act.IsDaily ⟨[⟨10, 0, 0, 2⟩, ⟨10, 0, 0, 1⟩]⟩ := by
    simp [day, inquiry, moves, Act.IsDaily, Act.IsUndisturbed, Act.launch?, Supplies, hurls]
  have hnight : ∀ act ∈ night, act.IsLate ⟨[⟨10, 0, 0, 2⟩, ⟨10, 0, 0, 1⟩]⟩ := by
    simp [night, inquiry, moves, Act.IsLate, Act.IsUndisturbed, Act.launch?, Supplies, hurls]
  have hindexed : pool.Indexed := TextMap.forall_get?.2 (by decide)
  have hvacant : pool.Vacant := TextMap.forall_get?.2 (by decide)
  have hforeign : ∀ key i, pool.interfaces.get? key = some i → ¬ i.isHeldBy "i-a" = true :=
    TextMap.forall_get?.2 (by decide)
  have hnone : ∀ k, ¬ pool.HoldsAt "i-a" ⟨[⟨10, 0, 0, 2⟩, ⟨10, 0, 0, 1⟩]⟩ k := by
    rintro k ⟨i, hi, hmine, -⟩
    exact hforeign k i hi hmine
  have hrestores := (hf.life_restores hindexed hvacant preregistered_pool rfl rfl rfl (by decide)
    (fun k _ hk => absurd hk (hnone k)) hday).2 night g (ended_of_all hfended) hnight hg
  exact ⟨f, g, hf, ended_of_all hfended, hheld, hg, ended_of_all hgended, (hrestores.2 (ended_of_all hgended)).1 hnone⟩

end Life

end Fleet
end AddressBinder
