import AddressBinder.Proofs.Decision
import AddressBinder.Proofs.Lifecycle.Conduct
/-!
# What an attempt has found out

Every call of a binder follows from what it was told just before: it describes the instance that its metadata named,
lists the free interfaces of the subnet in the description, attaches what the decision picks out of that listing, and
detaches what the description says is held.  As a protocol the position is what was found out since the metadata were
last read (`Finding`); all operations and rounds keep to it (`finding_program`, `finding_laterRound`), whatever the
replies are.
-/
namespace AddressBinder
namespace Lifecycle

open Program

/-- What an attempt has found out so far. -/
inductive Finding where
  | nothing
  | named (m : InstanceMetadata)
  | resolved (m : InstanceMetadata) (candidates : Candidates)
  | viewed (candidates : Candidates) (me : InstanceDescription)
  | listed (candidates : Candidates) (me : InstanceDescription) (available : List Interface)
  /-- The interface is attached, which is not reported yet. -/
  | granted
  | refused (interfaceId : String) (e : Error)
  | released
  /-- A call has failed, and not one to attach. -/
  | failed

/-- What an activity may do about the attachments of its instance. -/
inductive Licence where
  /-- Attach an interface, whatever is held. -/
  | bind
  /-- Attach an interface when none with a candidate address is held. -/
  | restore
  /-- Release what is held. -/
  | release
deriving DecidableEq

namespace Finding

/-! ## What the replies teach -/

def ofMetadata : Except Error InstanceMetadata → Finding
  | .ok m => .named m
  | .error _ => .failed

def ofUrls (m : InstanceMetadata) : Except Error (List String) → Finding
  | .error _ => .failed
  | .ok urls =>
    match Candidates.ofEntries m.availabilityZone urls with
    | .error _ => .failed
    | .ok candidates => .resolved m candidates

def ofDescription (candidates : Candidates) : Except Error (Option InstanceDescription) → Finding
  | .ok (some me) => .viewed candidates me
  | _ => .failed

def ofListing (candidates : Candidates) (me : InstanceDescription) : Except Error (List Interface) → Finding
  | .ok available => .listed candidates me available
  | .error _ => .failed

def ofAttach (interfaceId : String) : Except Error String → Finding
  | .ok _ => .granted
  | .error e => .refused interfaceId e

def ofDetach : Except Error Unit → Finding
  | .ok _ => .released
  | .error _ => .failed

def ofRegistry {α : Type} (w : Finding) : Except Error α → Finding
  | .ok _ => w
  | .error _ => .failed

/-- A listing counts only for the next request. -/
def aside : Finding → Finding
  | .listed candidates me _ => .viewed candidates me
  | .granted => .nothing
  | w => w

/-! ## The protocol -/

/-- The licence to attach an interface, out of a listing that counts. -/
def Attaches (l : Licence) (interfaceId instanceId : String) (slot : Nat) : Finding → Prop
  | .listed candidates me available =>
    instanceId = me.instanceId ∧ slot = Inventory.secondarySlot ∧
      (Decision.select? available candidates).map (·.interfaceId) = some interfaceId ∧
      (l = .bind ∨ l = .restore ∧ Decision.boundInterface? me.interfaces candidates = none)
  | _ => False

def Detaches (l : Licence) (id : String) : Finding → Prop
  | .viewed candidates me =>
    l = .release ∧ (Decision.boundInterface? me.interfaces candidates).bind (·.attachmentId) = some id
  | _ => False

def Resyncs (l : Licence) : Finding → Prop
  | .viewed candidates me => l = .restore ∧ Decision.boundInterface? me.interfaces candidates = none
  | _ => False

instance (l : Licence) (i n : String) (slot : Nat) (w : Finding) : Decidable (w.Attaches l i n slot) := by
  unfold Attaches
  cases w <;> infer_instance

instance (l : Licence) (id : String) (w : Finding) : Decidable (w.Detaches l id) := by
  unfold Detaches
  cases w <;> infer_instance

instance (l : Licence) (w : Finding) : Decidable (w.Resyncs l) := by
  unfold Resyncs
  cases w <;> infer_instance

/-- What an activity with a licence may call for, and what it knows after the reply. -/
def hear (l : Licence) (w : Finding) : (c : Call) → c.Reply → Option Finding
  | .metadata, reply => some (ofMetadata reply)
  | .serviceUrls zone, reply =>
    match w with
    | .named m => if zone = m.availabilityZone then some (ofUrls m reply) else none
    | _ => none
  | .provider (.describeInstance n), reply =>
    match w with
    | .resolved m candidates => if n = m.instanceId then some (ofDescription candidates reply) else none
    | _ => none
  | .provider (.describeInterfaces filter), reply =>
    match w with
    | .viewed candidates me =>
      if filter = Inventory.availableFilter candidates me.subnetId then some (ofListing candidates me reply) else none
    | _ => none
  | .provider (.attach i n slot), reply => if w.Attaches l i n slot then some (ofAttach i reply) else none
  | .provider (.detach id), reply => if w.Detaches l id then some (ofDetach reply) else none
  | .clearRegistry, reply => if w.Resyncs l then some (w.ofRegistry reply) else none
  | .syncUp, reply => if w.Resyncs l then some (w.ofRegistry reply) else none
  | .openForTraffic _, reply => if w.Resyncs l then some (w.ofRegistry reply) else none

/-- The protocol of an activity with a licence. -/
def next? (l : Licence) : Protocol lifecycle Finding
  | w, .call c, reply => w.hear l c reply
  | w, .clock _, _ => some w.aside
  | w, .own _, _ => some w.aside

theorem lenient_next? (l : Licence) : Lenient (next? l) := ⟨fun _ _ _ _ => ⟨_, rfl⟩, fun _ _ _ => ⟨_, rfl⟩⟩

section Steps

variable {l : Licence} {w t : Finding}

theorem next?_serviceUrls {zone : String} {reply : Except Error (List String)}
    (h : next? l w (.call (.serviceUrls zone)) reply = some t) :
    ∃ m, w = .named m ∧ zone = m.availabilityZone ∧ t = ofUrls m reply := by
  cases w with
  | named m =>
    obtain ⟨hzone, ht⟩ := Option.ite_none_right_eq_some.1 h
    exact ⟨m, rfl, hzone, (Option.some.inj ht).symm⟩
  | _ => cases h

theorem next?_describeInstance {n : String} {reply : Except Error (Option InstanceDescription)}
    (h : next? l w (.call (.provider (.describeInstance n))) reply = some t) :
    ∃ m candidates, w = .resolved m candidates ∧ n = m.instanceId ∧ t = ofDescription candidates reply := by
  cases w with
  | resolved m candidates =>
    obtain ⟨hn, ht⟩ := Option.ite_none_right_eq_some.1 h
    exact ⟨m, candidates, rfl, hn, (Option.some.inj ht).symm⟩
  | _ => cases h

theorem next?_describeInterfaces {filter : InterfaceFilter} {reply : Except Error (List Interface)}
    (h : next? l w (.call (.provider (.describeInterfaces filter))) reply = some t) :
    ∃ candidates me, w = .viewed candidates me ∧ filter = Inventory.availableFilter candidates me.subnetId ∧
      t = ofListing candidates me reply := by
  cases w with
  | viewed candidates me =>
    obtain ⟨hfilter, ht⟩ := Option.ite_none_right_eq_some.1 h
    exact ⟨candidates, me, rfl, hfilter, (Option.some.inj ht).symm⟩
  | _ => cases h

theorem next?_attach {i n : String} {slot : Nat} {reply : Except Error String}
    (h : next? l w (.call (.provider (.attach i n slot))) reply = some t) :
    ∃ candidates me available, w = .listed candidates me available ∧ n = me.instanceId ∧
      slot = Inventory.secondarySlot ∧ (Decision.select? available candidates).map (·.interfaceId) = some i ∧
      (l = .bind ∨ l = .restore ∧ Decision.boundInterface? me.interfaces candidates = none) ∧ t = ofAttach i reply := by
  obtain ⟨hmay, ht⟩ := Option.ite_none_right_eq_some.1 h
  cases w with
  | listed candidates me available =>
    obtain ⟨hn, hslot, hselect, hl⟩ := hmay
    exact ⟨candidates, me, available, rfl, hn, hslot, hselect, hl, (Option.some.inj ht).symm⟩
  | _ => exact hmay.elim

theorem next?_detach {id : String} {reply : Except Error Unit}
    (h : next? l w (.call (.provider (.detach id))) reply = some t) :
    ∃ candidates me i, w = .viewed candidates me ∧ l = .release ∧
      Decision.boundInterface? me.interfaces candidates = some i ∧ i.attachmentId = some id ∧ t = ofDetach reply := by
  obtain ⟨hmay, ht⟩ := Option.ite_none_right_eq_some.1 h
  cases w with
  | viewed candidates me =>
    obtain ⟨hl, hid⟩ := hmay
    obtain ⟨i, hi, hid⟩ := Option.bind_eq_some_iff.1 hid
    exact ⟨candidates, me, i, rfl, hl, hi, hid, (Option.some.inj ht).symm⟩
  | _ => exact hmay.elim

/-- A reply tells what was asked for, and the service URLs resolve. -/
def Succeeds : (x : Call) → x.Reply → Prop
  | .serviceUrls zone, .ok (urls : List String) => ∃ candidates, Candidates.ofEntries zone urls = .ok candidates
  | _, .ok _ => True
  | _, .error _ => False

/-- What is learnt from a reply that is not the provider's. -/
inductive Learns (l : Licence) (w : Finding) : (r : Request) → r.Reply → Finding → Prop where
  | clock {r : Clock.Request} (reply : r.Reply) : Learns l w (.clock r) reply w.aside
  | own {o : Own} (reply : o.Reply) : Learns l w (.own o) reply w.aside
  | named (m : InstanceMetadata) : Learns l w (.call .metadata) (.ok m) (.named m)
  | resolved {m : InstanceMetadata} {urls : List String} {candidates : Candidates} (hw : w = .named m)
      (h : Candidates.ofEntries m.availabilityZone urls = .ok candidates) :
      Learns l w (.call (.serviceUrls m.availabilityZone)) (.ok urls) (.resolved m candidates)
  | resynced {x : Call} {reply : x.Reply} {candidates : Candidates} {me : InstanceDescription}
      (hw : w = .viewed candidates me) (hl : l = .restore) : Learns l w (.call x) reply (.viewed candidates me)
  | failed {x : Call} {reply : x.Reply} (h : ¬ Succeeds x reply) : Learns l w (.call x) reply .failed

theorem learns_ofRegistry {α : Type} {x : Call} {reply : x.Reply} {r : Except Error α}
    (hr : (∃ e, r = .error e) → ¬ Succeeds x reply)
    (h : (if w.Resyncs l then some (w.ofRegistry r) else none) = some t) : Learns l w (.call x) reply t := by
  obtain ⟨hmay, ht⟩ := Option.ite_none_right_eq_some.1 h
  obtain rfl := Option.some.inj ht
  cases w with
  | viewed candidates me =>
    cases r with
    | ok _ => exact .resynced rfl hmay.1
    | error e => exact .failed (hr ⟨e, rfl⟩)
  | _ => exact hmay.elim

/-- **Nothing else is learnt from a reply that is not the provider's.** -/
theorem learns_of_next? : ∀ {r : Request} {reply : r.Reply}, (∀ x, r ≠ .call (.provider x)) →
    next? l w r reply = some t → Learns l w r reply t
  | .clock _, reply, _, h => Option.some.inj h ▸ .clock reply
  | .own _, reply, _, h => Option.some.inj h ▸ .own reply
  | .call (.provider x), _, hr, _ => absurd rfl (hr x)
  | .call .metadata, .ok m, _, h => Option.some.inj h ▸ .named m
  | .call .metadata, .error _, _, h => Option.some.inj h ▸ .failed id
  | .call (.serviceUrls zone), reply, _, h => by
    obtain ⟨m, hw, rfl, rfl⟩ := next?_serviceUrls h
    match reply with
    | .error _ => exact .failed id
    | .ok urls =>
      unfold ofUrls
      dsimp only
      cases hc : Candidates.ofEntries m.availabilityZone urls with
      | ok candidates => exact .resolved hw hc
      | error e =>
        refine .failed ?_
        rintro ⟨candidates, hok⟩
        rw [hc] at hok
        cases hok
  | .call .clearRegistry, reply, _, h => learns_ofRegistry (by rintro ⟨e, rfl⟩; exact id) h
  | .call .syncUp, reply, _, h => learns_ofRegistry (by rintro ⟨e, rfl⟩; exact id) h
  | .call (.openForTraffic _), reply, _, h => learns_ofRegistry (by rintro ⟨e, rfl⟩; exact id) h

end Steps

end Finding

/-! ## Passes -/

section Passes

open Pass

variable {b : Binder} {l : Licence} {ctx : Context}

/-- The description that a view was made from. -/
def Context.description (ctx : Context) : InstanceDescription := ⟨ctx.me.instanceId, ctx.me.subnetId, ctx.me.interfaces⟩

def Context.finding (ctx : Context) : Finding := .viewed ctx.candidates (Context.description ctx)

/-- Where a view ends. -/
def ViewEnds : Except Error Context → Finding → Prop
  | .ok ctx, w => w = Context.finding ctx
  | .error _, w => w = .failed

theorem viewEnds_identified {m : InstanceMetadata} {candidates : Candidates} :
    ∀ reply : Except Error (Option InstanceDescription),
      ViewEnds ((Inventory.identified b.backend m reply).map fun me => ⟨me, candidates⟩)
        (Finding.ofDescription candidates reply)
  | .error _ => rfl
  | .ok none => rfl
  | .ok (some _) => rfl

/-- **A view finds out who the instance is**, which addresses its zone has, and what is attached to it. -/
theorem finding_context (w : Finding) : (context b).Keeps (withinPass (Finding.next? l)) ViewEnds w := by
  rw [context_eq]
  refine .ask Finding.ofMetadata (fun _ => rfl) fun (m : Except Error InstanceMetadata) => ?_
  match m with
  | .error _ => exact rfl
  | .ok m =>
    refine .ask (Finding.ofUrls m) (fun _ => if_pos rfl) fun (urls : Except Error (List String)) => ?_
    match urls with
    | .error _ => exact rfl
    | .ok urls =>
      unfold Finding.ofUrls
      dsimp only
      cases Candidates.ofEntries m.availabilityZone urls with
      | error e => exact rfl
      | ok candidates =>
        refine .ask (Finding.ofDescription candidates) (fun _ => if_pos rfl) fun reply => ?_
        exact viewEnds_identified reply

/-- Where a failure leaves an attempt: it is that of an attach, or of another call. -/
def FailsAt (e : Error) : Finding → Prop
  | .refused i cause => e = Inventory.attachError i cause
  | .failed => True
  | _ => False

def RestsAt : Finding → Prop
  | .nothing | .viewed .. => True
  | _ => False

/-- Where a pass ends, by its result. -/
def PassEnds {α : Type} : Except Error α → Finding → Prop
  | .error e, w => FailsAt e w
  | .ok _, w => RestsAt w

theorem finding_attach {i : Interface} {available : List Interface}
    (hi : Decision.select? available ctx.candidates = some i)
    (hl : l = .bind ∨ l = .restore ∧ ctx.boundInterface? = none) :
    (attach ctx i).Keeps (withinPass (Finding.next? l)) PassEnds
      (.listed ctx.candidates (Context.description ctx) available) := by
  obtain ⟨ip, hip, -⟩ := (Decision.chosen_of_best? hi).isCandidate
  have hmay : (Finding.listed ctx.candidates (Context.description ctx) available).Attaches l i.interfaceId
      ctx.me.instanceId Inventory.secondarySlot := ⟨rfl, rfl, by rw [hi]; rfl, hl⟩
  rw [attach_eq ctx i hip]
  refine .ask (Finding.ofAttach i.interfaceId) (fun _ => if_pos hmay) fun (reply : Except Error String) => ?_
  match reply with
  | .error _ => exact rfl
  | .ok _ => exact .ask (fun _ => .nothing) (fun _ => rfl) fun _ => .ask (fun _ => .nothing) (fun _ => rfl) fun _ => trivial

/-- **A bind attaches what its listing shows.** -/
theorem finding_bindIn (hl : l = .bind ∨ l = .restore ∧ ctx.boundInterface? = none) :
    (bindIn b ctx).Keeps (withinPass (Finding.next? l)) PassEnds (Context.finding ctx) := by
  rw [bindIn_eq]
  refine .ask (Finding.ofListing ctx.candidates (Context.description ctx)) (fun _ => if_pos rfl)
    fun (reply : Except Error (List Interface)) => ?_
  match reply with
  | .error _ => exact trivial
  | .ok available =>
    dsimp only
    cases hs : Decision.select? available ctx.candidates with
    | none => exact .ask (fun _ => Context.finding ctx) (fun _ => rfl) fun _ => trivial
    | some i => exact finding_attach hs hl

/-- What follows a view begins with what the view has found out. -/
theorem finding_of_context {α : Type} {f : Context → Program pass (Except Error α)}
    {Q : Except Error α → Finding → Prop} (herror : ∀ e, Q (.error e) .failed)
    (hf : ∀ ctx, (f ctx).Keeps (withinPass (Finding.next? l)) Q (Context.finding ctx)) (w : Finding) :
    ((context b).andThen f).Keeps (withinPass (Finding.next? l)) Q w := by
  refine keeps_andThen.2 ((finding_context w).mono fun r w hw => ?_)
  match r, hw with
  | .error e, hw => exact hw ▸ herror e
  | .ok ctx, hw => exact hw ▸ hf ctx

theorem finding_observeHeld (i : Interface) :
    (observeHeld i).Keeps (withinPass (Finding.next? l)) (fun _ w => w = Context.finding ctx) (Context.finding ctx) :=
  keeps_observeHeld (fun _ => rfl) i

theorem finding_attempt (w : Finding) : (attempt b).Keeps (withinPass (Finding.next? .restore)) PassEnds w := by
  refine finding_of_context (fun _ => trivial) (fun ctx => ?_) w
  cases hb : ctx.boundInterface? with
  | some i => exact keeps_bind.2 ((finding_observeHeld i).mono fun _ w hw => hw ▸ trivial)
  | none =>
    refine keeps_andThen.2 ((finding_bindIn (.inr ⟨rfl, hb⟩)).mono fun r w hw => ?_)
    match r, hw with
    | .error _, hw => exact hw
    | .ok (.attached ..), hw => exact hw
    | .ok .noneAvailable, hw => exact hw

theorem finding_rebind (hb : ctx.boundInterface? = none) :
    (rebind b ctx).Keeps (withinPass (Finding.next? .restore)) PassEnds (Context.finding ctx) := by
  have hmay : (Context.finding ctx).Resyncs .restore := ⟨rfl, hb⟩
  refine .ask (fun _ => Context.finding ctx) (fun _ => rfl) fun _ => ?_
  refine .ask (Context.finding ctx).ofRegistry (fun _ => if_pos hmay) fun (reply : Except Error Unit) => ?_
  match reply with
  | .error _ => exact trivial
  | .ok _ =>
    refine .ask (Context.finding ctx).ofRegistry (fun _ => if_pos hmay) fun (reply : Except Error Nat) => ?_
    match reply with
    | .error _ => exact trivial
    | .ok count =>
      refine .ask (Context.finding ctx).ofRegistry (fun _ => if_pos hmay) fun (reply : Except Error Unit) => ?_
      match reply with
      | .error _ => exact trivial
      | .ok _ =>
        refine .ask (fun _ => Context.finding ctx) (fun _ => rfl) fun _ => ?_
        refine keeps_andThen.2 ((finding_bindIn (.inr ⟨rfl, hb⟩)).mono fun r w hw => ?_)
        match r, hw with
        | .error _, hw => exact hw
        | .ok _, hw => exact hw

theorem finding_reconcile (w : Finding) : (reconcile b).Keeps (withinPass (Finding.next? .restore)) PassEnds w := by
  refine finding_of_context (fun _ => trivial) (fun ctx => ?_) w
  cases hb : ctx.boundInterface? with
  | some i => exact keeps_bind.2 ((finding_observeHeld i).mono fun _ w hw => hw ▸ trivial)
  | none => exact finding_rebind hb

/-- Where an unbind ends, by its result: nothing is held, or what was held is released. -/
def UnbindLeaves : Except Error Unbound → Finding → Prop
  | .ok .notBound, w => ∃ candidates me, w = .viewed candidates me ∧ Decision.boundInterface? me.interfaces candidates = none
  | .ok (.detached ..), w => w = .released
  | .error _, .viewed candidates me => ∃ i, Decision.boundInterface? me.interfaces candidates = some i ∧ i.attachmentId = none
  | .error _, w => w = .failed

theorem finding_unbind (w : Finding) : (unbind b).Keeps (withinPass (Finding.next? .release)) UnbindLeaves w := by
  refine finding_of_context (fun _ => rfl) (fun ctx => ?_) w
  cases hb : ctx.boundInterface? with
  | none => exact ⟨_, _, rfl, hb⟩
  | some i =>
    dsimp only
    cases hid : i.attachmentId with
    | none =>
      unfold detach
      rw [hid]
      exact ⟨i, hb, hid⟩
    | some id =>
      have hheld : Decision.boundInterface? ctx.me.interfaces ctx.candidates = some i := hb
      have hmay : (Context.finding ctx).Detaches .release id := ⟨rfl, by
        show (Decision.boundInterface? ctx.me.interfaces ctx.candidates).bind _ = _
        rw [hheld]
        exact hid⟩
      rw [detach_eq i hid]
      refine .ask Finding.ofDetach (fun _ => if_pos hmay) fun (reply : Except Error Unit) => ?_
      match reply with
      | .error _ => exact rfl
      | .ok _ => exact .ask (fun _ => .released) (fun _ => rfl) fun _ => rfl

end Passes

/-! ## Attempts that fail -/

theorem finding_startupAttempt {b : Binder} (w : Finding) : (startupAttempt b).Keeps (Finding.next? .restore)
    (fun r t => ∀ e, r = .error e → FailsAt e t) w := by
  intro (phase : Phase)
  refine ⟨w.aside, rfl, ?_⟩
  simp only [Program.done_bind]
  cases phase.isTerminal with
  | true => exact fun _ h => by cases h
  | false =>
    refine keeps_bind.2 ((keeps_ofPass (finding_attempt _)).mono fun r t ht => ?_)
    match r, ht with
    | .error _, ht =>
      intro e h
      obtain rfl := Except.error.inj h
      exact ht
    | .ok true, _ => exact fun _ h => by cases h
    | .ok false, _ => exact fun _ h => by cases h

/-- The exchanges are those of a startup attempt or a pass that fails. -/
def Fails (b : Binder) (es : List (Exchange lifecycle)) (e : Error) : Prop :=
  (startupAttempt b).Leads es (.done (.error e)) ∨ (ofPass (Pass.reconcile b)).Leads es (.done (.error e))

theorem Fails.follow {b : Binder} {es : List (Exchange lifecycle)} {e : Error} (h : Fails b es e) (w : Finding) :
    ∃ t, follow? (Finding.next? .restore) w es = some t ∧ FailsAt e t := by
  rcases h with h | h
  · obtain ⟨t, ht, hfails⟩ := (finding_startupAttempt w).follow h
    exact ⟨t, ht, hfails e rfl⟩
  · exact (keeps_ofPass (finding_reconcile w)).follow h

theorem Fails.ne_nil {b : Binder} {es : List (Exchange lifecycle)} {e : Error} (h : Fails b es e) : es ≠ [] := by
  rintro rfl
  obtain ⟨t, ht, hfails⟩ := h.follow .nothing
  obtain rfl := Option.some.inj ht
  exact hfails

/-- An attempt that fails at its call to attach has called for something before. -/
theorem Fails.attach {b : Binder} {es : List (Exchange lifecycle)} {e : Error} {key who : String} {slot : Nat}
    {reply : Except Error String} (h : Fails b (es ++ [⟨.call (.provider (.attach key who slot)), reply⟩]) e) :
    es ≠ [] ∧ ∃ cause, reply = .error cause ∧ e = Inventory.attachError key cause := by
  obtain ⟨t, ht, hfails⟩ := h.follow .nothing
  rw [follow?_append] at ht
  obtain ⟨u, hu, hu'⟩ := Option.bind_eq_some_iff.1 ht
  obtain ⟨v, hv, hv'⟩ := Option.bind_eq_some_iff.1 hu'
  obtain rfl := Option.some.inj hv'
  obtain ⟨candidates, me, available, rfl, -, -, -, -, rfl⟩ := Finding.next?_attach hv
  refine ⟨?_, ?_⟩
  · rintro rfl
    cases hu
  · cases reply with
    | ok _ => exact hfails.elim
    | error cause => exact ⟨cause, rfl, hfails⟩

/-! ## Operations and rounds -/

def Role.licence : Role → Licence
  | .operation .bind => .bind
  | .operation .shutdown | .operation .unbind => .release
  | .operation _ | .periodic => .restore

variable {b : Binder}

theorem finding_periodic : (Pass.periodic b).KeepsAlways (withinPass (Finding.next? .restore)) := by
  have hnote : ∀ n, (Pass.note n).KeepsAlways (withinPass (Finding.next? .restore)) := fun n w _ => ⟨w.aside, rfl, trivial⟩
  refine KeepsAlways.bind (fun w => (finding_reconcile w).mono fun _ _ _ => trivial) fun r => ?_
  cases r with
  | ok bound => exact (hnote _).bind fun _ => (hnote _).bind fun _ => keepsAlways_done _
  | error e => exact (hnote _).bind fun _ => (hnote _).bind fun _ => keepsAlways_done _

/-- **Every operation goes by what it has found out**, as far as its licence goes. -/
theorem finding_program (op : Operation) : (op.program b).KeepsAlways (Finding.next? (Role.operation op).licence) := by
  have hattempt : (Pass.attempt b).KeepsAlways (withinPass (Finding.next? .restore)) := fun w =>
    (finding_attempt w).mono fun _ _ _ => trivial
  have hunbind : (Pass.unbind b).KeepsAlways (withinPass (Finding.next? .release)) := fun w =>
    (finding_unbind w).mono fun _ _ _ => trivial
  cases op with
  | start => exact ((Finding.lenient_next? _).start hattempt).bind fun _ => keepsAlways_done _
  | shutdown => exact ((Finding.lenient_next? _).shutdown hunbind).bind fun _ => keepsAlways_done _
  | runPass => exact (keepsAlways_ofPass finding_periodic).bind fun _ => keepsAlways_done _
  | alreadyBound =>
    have hasks : (Pass.alreadyBound b).KeepsAlways (withinPass (Finding.next? .restore)) :=
      finding_of_context (fun _ => trivial) fun _ => trivial
    exact (keepsAlways_ofPass hasks).bind fun _ => keepsAlways_done _
  | bind =>
    have hbind : (Pass.bind b).KeepsAlways (withinPass (Finding.next? .bind)) :=
      finding_of_context (fun _ => trivial) fun _ => (finding_bindIn (.inl rfl)).mono fun _ _ _ => trivial
    exact (keepsAlways_ofPass hbind).bind fun _ => keepsAlways_done _
  | unbind => exact (keepsAlways_ofPass hunbind).bind fun _ => keepsAlways_done _

theorem finding_laterRound (delay : Nat) : (laterRound b delay).KeepsAlways (Finding.next? .restore) :=
  (Finding.lenient_next? _).laterRound finding_periodic delay

theorem finding_firstRound : (firstRound b).KeepsAlways (Finding.next? .restore) :=
  (Finding.lenient_next? _).firstRound finding_periodic

end Lifecycle
end AddressBinder
