import AddressBinder.Proofs.Fleet.Restoring
import AddressBinder.Proofs.Program.Securing
/-!
# The snapshot and the cloud

What the operations of a binder make of its snapshot and of the cloud, when each runs undisturbed: the cloud replies as
it is, the other collaborators work, and nothing else happens (`undisturbed`).  A start, a bind and a pass put down what
they find and what they attach, so they leave the snapshot as true as it was, and a pass makes it true.  An unbind
releases what is held and says nothing of it, so the snapshot goes on showing that until it is next written.
-/
namespace AddressBinder

/-- Whether an observation says which address is held. -/
def Observation.isSighting : Observation → Bool
  | .pass _ => false
  | .bound _ | .unbound | .stopped => true

namespace Cloud

variable {c d : Cloud} {own : String} {candidates : Candidates} {base : String → Option Interface} {key : String}
  {e : Interface} {a : Attachment} {ip : Ipv4}

/-- The instance holds the address, which is a candidate. -/
def HoldsAddress (d : Cloud) (own : String) (candidates : Candidates) (ip : Ipv4) : Prop :=
  ∃ key i, d.interfaces.get? key = some i ∧ i.isHeldBy own = true ∧ i.privateIp = some ip ∧ ip ∈ candidates.addresses

theorem holdsAddress_same (h : d.interfaces = c.interfaces) :
    d.HoldsAddress own candidates ip ↔ c.HoldsAddress own candidates ip := by
  unfold HoldsAddress
  rw [h]

theorem Whole.not_holdsAddress (hh : Home own candidates base) (h : Whole base d) (ip : Ipv4) :
    ¬ d.HoldsAddress own candidates ip := by
  rintro ⟨key, i, hi, hheld, hip, hmem⟩
  exact h.not_holdsAt hh key ⟨i, hi, hheld, ip, hip, hmem⟩

/-- **Of what is borrowed the instance holds the address**, and no other one. -/
theorem Lent.holdsAddress_iff (hh : Home own candidates base) (h : Lent base own candidates d key e a)
    (hip : e.privateIp = some ip) (ip' : Ipv4) : d.HoldsAddress own candidates ip' ↔ ip = ip' := by
  constructor
  · rintro ⟨k, i, hi, hheld, hip', hmem⟩
    obtain rfl := h.eq_of_holdsAt hh ⟨i, hi, hheld, ip', hip', hmem⟩
    obtain rfl := Option.some.inj (hi.symm.trans h.known)
    exact Option.some.inj (hip.symm.trans hip')
  · rintro rfl
    obtain ⟨ip', hip', hmem⟩ := h.candidate
    obtain rfl := Option.some.inj (hip.symm.trans hip')
    exact ⟨key, e, h.known, Interface.isHeldBy_iff.2 ⟨a, h.attached, h.mine⟩, hip, hmem⟩

end Cloud

/-- The snapshot shows the candidate address that the instance holds, and none if it holds none. -/
def Status.Tells (s : Status) (d : Cloud) (own : String) (candidates : Candidates) : Prop :=
  ∀ ip, s.boundAddress = some ip ↔ d.HoldsAddress own candidates ip

/-- Whether the snapshot overlooks that an unbind has released an interface: it does from then on until a sighting is put
down. -/
def Lifecycle.Role.overlooks (role : Lifecycle.Role) (before : Bool) : (r : Lifecycle.Request) → r.Reply → Bool
  | .call (.provider (.detach _)), .ok _ => before || role == .operation .unbind
  | .own (.note (.observe o)), _ => before && !o.isSighting
  | _, _ => before

namespace Fleet

open Program Lifecycle

structure Outlook where
  status : Status
  overlooks : Bool
  cloud : Cloud

/-- The replies that an activity gets while nothing else happens, and what each exchange leaves. -/
def undisturbed (own : String) (candidates : Candidates) (role : Role) : Partner lifecycle Outlook
  | w, .call (.provider x), reply, t => reply = (Cloud.serve x w.cloud).1 ∧
      t = ⟨w.status, role.overlooks w.overlooks (.call (.provider x)) reply, (Cloud.serve x w.cloud).2⟩
  | w, .call x, reply, t => Outer own (.call x) reply ∧ Supplies candidates x reply ∧ t = w
  | w, .own (.note (.observe o)), reply, t => ∃ time,
      t = ⟨w.status.observe time o, role.overlooks w.overlooks (.own (.note (.observe o))) reply, w.cloud⟩
  | w, .own (.control .beginShutdown), begins, t => begins = !w.status.phase.isTerminal ∧
      t = { w with status := if begins then w.status.move .shuttingDown else w.status }
  | w, _, _, t => t = w

def undisturbedPass (own : String) (candidates : Candidates) (role : Role) : Partner pass Outlook
  | w, .call x, reply, t => undisturbed own candidates role w (.call x) reply t
  | w, .note n, reply, t => undisturbed own candidates role w (.own (.note n)) reply t

/-- How the snapshot and the cloud stand to each other between operations: the snapshot is true; or an unbind has released
what it shows; or a shutdown that makes no attempt has struck what is still held. -/
inductive Verdict (own : String) (candidates : Candidates) (retries : Nat) (w : Outlook) : Prop where
  | telling (h : w.status.Tells w.cloud own candidates) (hseen : 0 < retries → w.overlooks = false)
  | overlooked (ip : Ipv4) (h : w.overlooks = true) (hshown : w.status.boundAddress = some ip)
      (hheld : ∀ ip, ¬ w.cloud.HoldsAddress own candidates ip)
  | struck (ip : Ipv4) (hretries : retries = 0) (hphase : w.status.phase = .stopped)
      (hshown : w.status.boundAddress = none) (hheld : w.cloud.HoldsAddress own candidates ip)

/-- The binder is between operations, on a cloud that was `c`, in which its instance held nothing. -/
structure AtEase (c : Cloud) (own : String) (candidates : Candidates) (retries : Nat) (w : Outlook) : Prop where
  home : Cloud.Home own candidates (c.home own candidates)
  nothing : ∀ k, ¬ c.HoldsAt own candidates k
  working : Working own w.cloud
  holding : Holding c own candidates w.cloud
  verdict : Verdict own candidates retries w

/-- The second outlook is like the first in all that a verdict depends on. -/
structure Outlook.Same (w t : Outlook) : Prop where
  shown : t.status.boundAddress = w.status.boundAddress
  stopped : w.status.phase = .stopped → t.status.phase = .stopped
  overlooks : t.overlooks = w.overlooks
  interfaces : t.cloud.interfaces = w.cloud.interfaces

variable {c d : Cloud} {own : String} {candidates : Candidates} {role : Role} {b : Binder} {w t : Outlook} {α : Type}
  {ip : Ipv4} {key : String} {e : Interface} {a : Attachment} {retries : Nat}

theorem Verdict.same (h : Verdict own candidates retries w) (hsame : w.Same t) : Verdict own candidates retries t := by
  have hholds : ∀ ip, t.cloud.HoldsAddress own candidates ip ↔ w.cloud.HoldsAddress own candidates ip := fun _ =>
    Cloud.holdsAddress_same hsame.interfaces
  cases h with
  | telling h hseen =>
    refine .telling (fun ip => ?_) fun hpos => hsame.overlooks.trans (hseen hpos)
    rw [hsame.shown, hholds]
    exact h ip
  | overlooked ip h hshown hheld =>
    exact .overlooked ip (hsame.overlooks.trans h) (hsame.shown.trans hshown) fun ip hip => hheld ip ((hholds ip).1 hip)
  | struck ip hretries hphase hshown hheld =>
    exact .struck ip hretries (hsame.stopped hphase) (hsame.shown.trans hshown) ((hholds ip).2 hheld)

theorem AtEase.same (h : AtEase c own candidates retries w) (hsame : w.Same t) (hwork : Working own t.cloud) :
    AtEase c own candidates retries t :=
  ⟨h.home, h.nothing, hwork, h.holding.same hsame.interfaces, h.verdict.same hsame⟩

theorem secures_ofPass {Q : α → Outlook → Prop} {p : Program pass α}
    (h : p.Secures (undisturbedPass own candidates role) Q w) :
    (ofPass p).Secures (undisturbed own candidates role) Q w := by
  refine secures_translate (fun r s => ?_) h
  cases r with
  | call _ | note _ => exact fun _ _ ht => ht

theorem maintains_ofPass {I : Outlook → Prop} {p : Program pass α}
    (h : p.Maintains (undisturbedPass own candidates role) I) :
    (ofPass p).Maintains (undisturbed own candidates role) I := fun s hs => secures_ofPass (h s hs)

/-! ## Views -/

/-- What a view of the cloud shows. -/
structure Beholds (own : String) (candidates : Candidates) (d : Cloud) (ctx : Pass.Context) : Prop where
  instanceId : ctx.me.instanceId = own
  pool : ctx.candidates = candidates
  bound : ctx.boundInterface? = Decision.boundInterface? (d.heldBy own) candidates

/-- **A view shows what is held**, and changes nothing. -/
theorem secures_context (hwork : Working own w.cloud) :
    (Pass.context b).Secures (undisturbedPass own candidates role)
      (fun r t => ∃ ctx, r = .ok ctx ∧ Beholds own candidates w.cloud ctx ∧ w.Same t ∧ Working own t.cloud) w := by
  rw [Pass.context_eq]
  rintro m _ ⟨hname, hok, rfl⟩
  match m, hname, hok with
  | .error _, _, hok => exact hok.elim
  | .ok m, hname, _ =>
    obtain rfl : m.instanceId = own := hname
    rintro urls u ⟨-, hsupplies, rfl⟩
    match urls, hsupplies with
    | .error _, hsupplies => exact hsupplies.elim
    | .ok urls, hsupplies =>
      have hcandidates : Candidates.ofEntries m.availabilityZone urls = .ok candidates := hsupplies
      dsimp only
      rw [hcandidates]
      rintro reply _ ⟨hreply, rfl⟩
      obtain ⟨subnetId, hdescribe⟩ := hwork.describe
      obtain rfl : reply = .ok (some ⟨m.instanceId, subnetId, u.cloud.heldBy m.instanceId⟩) := hreply.trans hdescribe
      exact ⟨_, rfl, ⟨rfl, rfl, rfl⟩, ⟨rfl, id, rfl, rfl⟩, hwork.serve _⟩

theorem Beholds.same {ctx : Pass.Context} (h : Beholds own candidates c ctx) (hsame : d.interfaces = c.interfaces) :
    Beholds own candidates d ctx := by
  refine ⟨h.instanceId, h.pool, ?_⟩
  rw [h.bound, Cloud.heldBy, Cloud.heldBy, hsame]

/-- **What begins with a view goes on with one that shows what is held**, and the binder is still at ease. -/
theorem AtEase.maintains_viewed {f : Pass.Context → Program pass (Except Error α)}
    (hf : ∀ ctx t, AtEase c own candidates retries t → Beholds own candidates t.cloud ctx →
      (f ctx).Secures (undisturbedPass own candidates role) (fun _ u => AtEase c own candidates retries u) t) :
    ((Pass.context b).andThen f).Maintains (undisturbedPass own candidates role) (AtEase c own candidates retries) := by
  intro w h
  refine secures_andThen.2 ((secures_context h.working).mono ?_)
  rintro _ t ⟨ctx, rfl, hctx, hsame, hwork⟩
  exact hf ctx t (h.same hsame hwork) (hctx.same hsame.interfaces)

/-- Whether something is held shows in a view. -/
theorem AtEase.beholds {ctx : Pass.Context} (h : AtEase c own candidates retries w)
    (hctx : Beholds own candidates w.cloud ctx) :
    (ctx.boundInterface? = none ∧ Cloud.Whole (c.home own candidates) w.cloud) ∨
      ∃ key e a, ctx.boundInterface? = some e ∧ Cloud.Lent (c.home own candidates) own candidates w.cloud key e a := by
  cases h.holding with
  | nothing _ hwhole => exact .inl ⟨hctx.bound.trans (hwhole.boundInterface? h.home), hwhole⟩
  | one _ hlent => exact .inr ⟨_, _, _, hctx.bound.trans (hlent.boundInterface? h.home), hlent⟩

/-! ## Binding -/

/-- **The address of what is held is put down**, and then the snapshot is true. -/
theorem AtEase.secures_held {β : Type} (h : AtEase c own candidates retries w)
    (hlent : Cloud.Lent (c.home own candidates) own candidates w.cloud key e a) (result : β) :
    ((Pass.observeHeld e).bind fun _ => .done result).Secures (undisturbedPass own candidates role)
      (fun _ t => AtEase c own candidates retries t) w := by
  obtain ⟨ip, hip, -⟩ := hlent.candidate
  unfold Pass.observeHeld
  rw [hip]
  rintro _ _ ⟨time, rfl⟩
  exact { h with
    verdict := .telling (fun ip' => Option.some_inj.trans (hlent.holdsAddress_iff h.home hip ip').symm) fun _ =>
      Bool.and_false _ }

/-- **A call to attach what is listed as free is granted, and then its address is what is held, or changes nothing.** -/
theorem AtEase.attach_cases {i : Interface} {available : List Interface} (h : AtEase c own candidates retries w)
    (hselect : Decision.select? available candidates = some i)
    (hlisted : ∀ i ∈ available, c.home own candidates i.interfaceId = some i) (hip : i.privateIp = some ip) {d : Cloud}
    (hd : d = (Cloud.serve (.attach i.interfaceId own Inventory.secondarySlot) w.cloud).2) :
    (∃ id, (Cloud.serve (.attach i.interfaceId own Inventory.secondarySlot) w.cloud).1 = .ok id ∧
      Holding c own candidates d ∧ ∀ ip', d.HoldsAddress own candidates ip' ↔ ip = ip') ∨
    (∃ e, (Cloud.serve (.attach i.interfaceId own Inventory.secondarySlot) w.cloud).1 = .error e) ∧
      d.interfaces = w.cloud.interfaces := by
  subst hd
  have hchosen := Decision.chosen_of_best? hselect
  rcases Cloud.serve_attach w.cloud i.interfaceId own Inventory.secondarySlot with
    ⟨j, hgrants, heq⟩ | ⟨-, reason, n, -, heq⟩
  · rw [heq]
    cases h.holding with
    | nothing _ hwhole =>
      have hfree : w.cloud.interfaces.get? i.interfaceId = some i :=
        (hwhole i.interfaceId).trans (hlisted i hchosen.mem)
      obtain rfl : j = i := Option.some.inj (hgrants.known.symm.trans hfree)
      have hlent := hwhole.attach hgrants hchosen.isCandidate (d := ((w.cloud.record
        (.attach j.interfaceId own Inventory.secondarySlot)).attached j.interfaceId own Inventory.secondarySlot)) rfl
      exact .inl ⟨_, rfl, .one (.inr rfl) hlent, hlent.holdsAddress_iff h.home hip⟩
    | one hslot hlent =>
      -- the slot of what is held is the one that is asked for
      have hsecond := hslot.resolve_left fun ⟨k, hk⟩ => h.nothing k hk
      exact absurd (hsecond ▸ hgrants) hlent.not_grants
  · rw [heq]
    exact .inr ⟨⟨_, rfl⟩, rfl⟩

theorem AtEase.secures_attach {ctx : Pass.Context} {i : Interface} {available : List Interface}
    (h : AtEase c own candidates retries w) (hown : ctx.me.instanceId = own)
    (hselect : Decision.select? available candidates = some i)
    (hlisted : ∀ i ∈ available, c.home own candidates i.interfaceId = some i) :
    (Pass.attach ctx i).Secures (undisturbedPass own candidates role) (fun _ t => AtEase c own candidates retries t) w := by
  obtain ⟨ip, hip, -⟩ := (Decision.chosen_of_best? hselect).isCandidate
  rw [Pass.attach_eq ctx i hip, hown]
  rintro reply _ ⟨hreply, rfl⟩
  have hwork := h.working.serve (.attach i.interfaceId own Inventory.secondarySlot)
  rcases h.attach_cases hselect hlisted hip rfl with ⟨id, hok, hholding, hholds⟩ | ⟨⟨e, herror⟩, hsame⟩
  · obtain rfl : reply = .ok id := hreply.trans hok
    rintro _ _ ⟨time, rfl⟩ _ _ rfl
    exact ⟨h.home, h.nothing, hwork, hholding,
      .telling (fun ip' => Option.some_inj.trans (hholds ip').symm) fun _ => Bool.and_false _⟩
  · obtain rfl : reply = .error e := hreply.trans herror
    exact h.same ⟨rfl, fun hs => hs, rfl, hsame⟩ hwork

/-- **A bind puts down what it attaches**, and else leaves the snapshot alone. -/
theorem AtEase.secures_bindIn {ctx : Pass.Context} (h : AtEase c own candidates retries w)
    (hown : ctx.me.instanceId = own) (hpool : ctx.candidates = candidates) :
    (Pass.bindIn b ctx).Secures (undisturbedPass own candidates role) (fun _ t => AtEase c own candidates retries t)
      w := by
  rw [Pass.bindIn_eq, hpool]
  rintro reply _ ⟨hreply, rfl⟩
  have hasked := h.same (t := ⟨w.status, w.overlooks, (Cloud.serve (.describeInterfaces
    (Inventory.availableFilter candidates ctx.me.subnetId)) w.cloud).2⟩) ⟨rfl, fun hs => hs, rfl, rfl⟩ (h.working.serve _)
  match reply, hreply with
  | .error _, _ => exact hasked
  | .ok available, hreply =>
    have hlisted := home_of_describeInterfaces h.home h.holding hreply.symm
    dsimp only
    cases hselect : Decision.select? available candidates with
    | none =>
      rintro _ _ rfl
      exact hasked
    | some i => exact hasked.secures_attach hown hselect hlisted

theorem AtEase.maintains_bind :
    (Pass.bind b).Maintains (undisturbedPass own candidates role) (AtEase c own candidates retries) :=
  maintains_viewed fun _ _ h hctx => h.secures_bindIn hctx.instanceId hctx.pool

theorem AtEase.maintains_alreadyBound :
    (Pass.alreadyBound b).Maintains (undisturbedPass own candidates role) (AtEase c own candidates retries) :=
  maintains_viewed fun _ _ h _ => h

theorem AtEase.maintains_attempt :
    (Pass.attempt b).Maintains (undisturbedPass own candidates role) (AtEase c own candidates retries) := by
  refine maintains_viewed fun ctx t h hctx => ?_
  rcases h.beholds hctx with ⟨hbound, -⟩ | ⟨key, e, a, hbound, hlent⟩
  · rw [hbound]
    refine secures_andThen.2 ((h.secures_bindIn hctx.instanceId hctx.pool).mono fun r u hu => ?_)
    rcases r with _ | _ | _ <;> exact hu
  · rw [hbound]
    exact h.secures_held hlent _

/-! ## Passes -/

/-- A call of a collaborator beside the cloud yields something, and changes nothing. -/
theorem secures_call {β : Type} {Q : Except Error β → Outlook → Prop} {x : Call}
    {f : x.Yield → Program pass (Except Error β)} (hx : ∀ call, x ≠ .provider call)
    (h : ∀ y, (f y).Secures (undisturbedPass own candidates role) Q w) :
    ((Pass.call x).andThen f).Secures (undisturbedPass own candidates role) Q w := by
  refine secures_andThen.2 ?_
  intro reply t ht
  obtain ⟨y, rfl, rfl⟩ : ∃ y, reply = .ok y ∧ t = w := by
    cases x with
    | provider call => exact absurd rfl (hx call)
    | metadata | serviceUrls _ | clearRegistry | syncUp | openForTraffic _ =>
      obtain ⟨-, hsupplies, rfl⟩ := ht
      cases reply with
      | error _ => exact hsupplies.elim
      | ok y => exact ⟨y, rfl, rfl⟩
  exact h y

/-- **A pass that finds nothing held says so first**; then the snapshot is true, and the bind leaves it so. -/
theorem AtEase.secures_rebind {ctx : Pass.Context} (h : AtEase c own candidates retries w)
    (hwhole : Cloud.Whole (c.home own candidates) w.cloud) (hown : ctx.me.instanceId = own)
    (hpool : ctx.candidates = candidates) :
    (Pass.rebind b ctx).Secures (undisturbedPass own candidates role) (fun _ t => AtEase c own candidates retries t)
      w := by
  rintro _ u ⟨time, rfl⟩
  have hseen : AtEase c own candidates retries ⟨w.status.observe time .unbound, w.overlooks && false, w.cloud⟩ := { h with
    verdict := .telling (fun ip => iff_of_false nofun (hwhole.not_holdsAddress h.home ip)) fun _ => Bool.and_false _ }
  refine secures_call nofun fun _ => secures_call nofun fun count => secures_call nofun fun _ => ?_
  rintro _ _ rfl
  refine secures_andThen.2 ((hseen.secures_bindIn hown hpool).mono fun r v hv => ?_)
  cases r <;> exact hv

theorem AtEase.maintains_reconcile :
    (Pass.reconcile b).Maintains (undisturbedPass own candidates role) (AtEase c own candidates retries) := by
  refine maintains_viewed fun ctx t h hctx => ?_
  rcases h.beholds hctx with ⟨hbound, hwhole⟩ | ⟨key, e, a, hbound, hlent⟩
  · rw [hbound]
    exact h.secures_rebind hwhole hctx.instanceId hctx.pool
  · rw [hbound]
    exact h.secures_held hlent _

theorem AtEase.maintains_periodic :
    (Pass.periodic b).Maintains (undisturbedPass own candidates role) (AtEase c own candidates retries) := by
  refine Program.maintains_bind maintains_reconcile fun r t ht => ?_
  -- the record of a pass is no sighting
  cases r with
  | ok _ | error _ =>
    rintro _ _ ⟨time, rfl⟩ _ _ rfl
    exact ht.same ⟨rfl, fun hs => hs, Bool.and_true _, rfl⟩ ht.working

/-! ## Unbinding -/

/-- **An unbind releases what is held, and tells the snapshot nothing.** -/
theorem secures_unbind (hh : Cloud.Home own candidates (c.home own candidates)) (hwork : Working own w.cloud)
    (hholding : Holding c own candidates w.cloud) :
    (Pass.unbind b).Secures (undisturbedPass own candidates role) (fun _ t => Working own t.cloud ∧
      Cloud.Whole (c.home own candidates) t.cloud ∧ (w.Same t ∨ t.status.boundAddress = w.status.boundAddress ∧
        t.overlooks = (w.overlooks || role == .operation .unbind) ∧
        ∃ key e a, Cloud.Lent (c.home own candidates) own candidates w.cloud key e a)) w := by
  refine secures_andThen.2 ((secures_context hwork).mono ?_)
  rintro _ t ⟨ctx, rfl, hctx, hsame, hworking⟩
  dsimp only
  rw [hctx.bound]
  cases hholding with
  | nothing _ hwhole =>
    rw [hwhole.boundInterface? hh]
    exact ⟨hworking, hwhole.same hsame.interfaces, .inl hsame⟩
  | @one key e a _ hlent =>
    rw [hlent.boundInterface? hh]
    dsimp only
    rw [Pass.detach_eq e hlent.attachmentId]
    rintro reply _ ⟨hreply, rfl⟩
    obtain ⟨hok, hwhole⟩ := (hlent.same hsame.interfaces).detach hworking.sound hworking.detaches
    obtain rfl : reply = .ok () := hreply.trans hok
    rintro _ _ rfl
    refine ⟨hworking.serve _, hwhole, .inr ⟨hsame.shown, ?_, key, e, a, hlent⟩⟩
    rw [← hsame.overlooks]
    rfl

/-- **An operation that is no more than an unbind** leaves the snapshot as it was when nothing was held, and else
overlooked. -/
theorem AtEase.maintains_unbind : (Pass.unbind b).Maintains (undisturbedPass own candidates (.operation .unbind))
    (AtEase c own candidates retries) := by
  intro w h
  refine (secures_unbind h.home h.working h.holding).mono ?_
  rintro _ t ⟨hwork, hwhole, hsame | ⟨hshown, hoverlooks, key, e, a, hlent⟩⟩
  · exact h.same hsame hwork
  · have hgone : ∀ ip, ¬ t.cloud.HoldsAddress own candidates ip := hwhole.not_holdsAddress h.home
    obtain ⟨ip, hip, -⟩ := hlent.candidate
    have hheld : w.cloud.HoldsAddress own candidates ip := (hlent.holdsAddress_iff h.home hip ip).2 rfl
    refine ⟨h.home, h.nothing, hwork, .nothing h.nothing hwhole, ?_⟩
    cases h.verdict with
    | telling htells _ =>
      exact .overlooked ip (hoverlooks.trans (Bool.or_true _)) (hshown.trans ((htells ip).2 hheld)) hgone
    | overlooked _ _ _ hnone => exact absurd hheld (hnone ip)
    | struck _ hretries _ hnothing _ =>
      refine .telling (fun ip' => iff_of_false ?_ (hgone ip')) fun hpos => ?_
      · rw [hshown, hnothing]
        nofun
      · omega

/-! ## Operations -/

section Quiet

variable {I : Outlook → Prop}

/-- What asks for something other than to begin a shutdown changes nothing. -/
theorem maintains_control {ctl : Control} (hctl : ctl ≠ .beginShutdown) :
    (control ctl).Maintains (undisturbed own candidates role) I := by
  intro w hw reply t ht
  cases ctl with
  | beginShutdown => exact absurd rfl hctl
  | markStarted | phase | acquire | release | arm _ | disarm | awaitExit =>
    obtain rfl : t = w := ht
    exact hw

theorem maintains_emit {event : Event} : (emit event).Maintains (undisturbed own candidates role) I := by
  rintro w hw _ _ rfl
  exact hw

theorem maintains_sleep {ms : Nat} : (Clock.sleep clock ms).Maintains (undisturbed own candidates role) I := by
  rintro w hw _ _ rfl _ _ rfl
  exact hw

theorem maintains_stopSchedule : stopSchedule.Maintains (undisturbed own candidates role) I := by
  refine maintains_bind (maintains_control nofun) fun (wasArmed : Bool) => ?_
  cases wasArmed with
  | false => exact maintains_done
  | true => exact maintains_bind (maintains_control nofun) fun _ => maintains_emit

end Quiet

theorem AtEase.maintains_startupAttempt :
    (startupAttempt b).Maintains (undisturbed own candidates role) (AtEase c own candidates retries) := by
  refine Program.maintains_bind (maintains_control nofun) fun (phase : Phase) => ?_
  split
  · exact maintains_done
  · exact Program.maintains_bind (maintains_ofPass maintains_attempt) fun _ => maintains_done

theorem AtEase.maintains_armSchedule :
    (armSchedule b).Maintains (undisturbed own candidates role) (AtEase c own candidates retries) := by
  refine Program.maintains_bind (maintains_control nofun) fun (phase : Phase) => ?_
  split
  · exact maintains_done
  · refine Program.maintains_bind (maintains_control nofun) fun (armed : Bool) => ?_
    cases armed with
    | false => exact maintains_done
    | true => exact maintains_emit

theorem AtEase.maintains_bindAndArm :
    (bindAndArm b).Maintains (undisturbed own candidates role) (AtEase c own candidates retries) := by
  refine Program.maintains_bind (Retry.maintains_run (fun _ => maintains_startupAttempt) fun _ => maintains_sleep) ?_
  intro outcome
  exact Program.maintains_bind maintains_emit fun _ => maintains_armSchedule

theorem AtEase.maintains_start :
    (start b).Maintains (undisturbed own candidates role) (AtEase c own candidates retries) := by
  refine Program.maintains_bind (maintains_control nofun) fun (startedBefore : Bool) => ?_
  cases startedBefore with
  | true => exact maintains_done
  | false =>
    refine Program.maintains_bind (maintains_control nofun) fun _ => ?_
    refine Program.maintains_bind (maintains_control nofun) fun (phase : Phase) => ?_
    refine Program.maintains_bind ?_ fun _ => maintains_control nofun
    split
    · exact maintains_done
    · exact maintains_bindAndArm

section Shutdown

variable (h : AtEase c own candidates b.config.retries w)

include h

/-- **A shutdown that makes an attempt releases what is held.** -/
theorem AtEase.secures_attempts (hretries : 0 < b.config.retries) :
    (Retry.run (policy b) (Clock.sleep clock) (fun _ => shutdownAttempt b)).Secures
      (undisturbed own candidates (.operation .shutdown))
      (fun _ t => Working own t.cloud ∧ Cloud.Whole (c.home own candidates) t.cloud) w := by
  have hattempt : ∀ {s : Outlook}, Working own s.cloud → Holding c own candidates s.cloud →
      (shutdownAttempt b).Secures (undisturbed own candidates (.operation .shutdown))
        (fun _ t => Working own t.cloud ∧ Cloud.Whole (c.home own candidates) t.cloud) s := fun hwork hholding =>
    Program.secures_bind.2 ((secures_ofPass (Fleet.secures_unbind h.home hwork hholding)).mono fun r t ht => by
      cases r <;> exact ⟨ht.1, ht.2.1⟩)
  exact Retry.secures_run_of_pos hretries (hattempt h.working h.holding)
    (fun _ s hs => hattempt hs.1 (.nothing h.nothing hs.2)) fun _ => maintains_sleep

/-- **A shutdown strikes the address in the end**, when nothing is held any more or no attempt was to be made. -/
theorem AtEase.secures_stopped {t : Outlook} (hwork : Working own t.cloud) (hholding : Holding c own candidates t.cloud)
    (hend : Cloud.Whole (c.home own candidates) t.cloud ∨ b.config.retries = 0) :
    ((ofPass (Pass.observe .stopped)).bind fun _ => emit .stopped).Secures (undisturbed own candidates role)
      (fun _ t => AtEase c own candidates b.config.retries t) t := by
  rintro _ _ ⟨time, rfl⟩ _ _ rfl
  refine ⟨h.home, h.nothing, hwork, hholding, ?_⟩
  have hgone : Cloud.Whole (c.home own candidates) t.cloud → Verdict own candidates b.config.retries
      ⟨t.status.observe time .stopped, t.overlooks && false, t.cloud⟩ := fun hwhole =>
    .telling (fun ip => iff_of_false nofun (hwhole.not_holdsAddress h.home ip)) fun _ => Bool.and_false _
  rcases hend with hwhole | hretries
  · exact hgone hwhole
  · cases hholding with
    | nothing _ hwhole => exact hgone hwhole
    | one _ hlent =>
      obtain ⟨ip, hip, -⟩ := hlent.candidate
      exact .struck ip hretries (by simp [Status.observe, Status.move, Phase.move, Phase.isTerminal]) rfl
        ((hlent.holdsAddress_iff h.home hip ip).2 rfl)

end Shutdown

theorem AtEase.maintains_stopAndUnbind : (stopAndUnbind b).Maintains (undisturbed own candidates (.operation .shutdown))
    (AtEase c own candidates b.config.retries) := by
  refine Program.maintains_bind maintains_stopSchedule fun _ w h => Program.secures_bind.2 ?_
  by_cases hretries : 0 < b.config.retries
  · refine (h.secures_attempts hretries).mono fun _ t ht => ?_
    exact h.secures_stopped ht.1 (.nothing h.nothing ht.2) (.inl ht.2)
  · have hnone : b.config.retries = 0 := by omega
    obtain ⟨outcome, hrun⟩ : ∃ outcome, Retry.run (policy b) (Clock.sleep clock) (fun _ => shutdownAttempt b) =
        .done outcome := by
      refine ⟨.exhausted (policy b).attempts none, ?_⟩
      show Retry.runFrom _ _ _ b.config.retries 1 none = _
      rw [hnone]
      rfl
    rw [hrun]
    exact h.secures_stopped h.working h.holding (.inr hnone)

theorem AtEase.maintains_shutdown : (shutdown b).Maintains (undisturbed own candidates (.operation .shutdown))
    (AtEase c own candidates b.config.retries) := by
  rintro w h begins _ ⟨hbegins, rfl⟩
  cases begins with
  | false => exact h
  | true =>
    have hup : w.status.phase.isTerminal = false := by simpa using hbegins
    have hbegun : AtEase c own candidates b.config.retries { w with status := w.status.move .shuttingDown } :=
      h.same ⟨rfl, fun hs => absurd (hs ▸ hup) nofun, rfl, rfl⟩ h.working
    have hrest : ((control .acquire).bind fun _ => (stopAndUnbind b).bind fun _ => control .release).Maintains
        (undisturbed own candidates (.operation .shutdown)) (AtEase c own candidates b.config.retries) := by
      refine Program.maintains_bind (maintains_control nofun) fun _ => ?_
      exact Program.maintains_bind maintains_stopAndUnbind fun _ => maintains_control nofun
    exact hrest _ hbegun

/-- **Every operation leaves a binder at ease.** -/
theorem AtEase.maintains_program (op : Operation) : (op.program b).Maintains (undisturbed own candidates (.operation op))
    (AtEase c own candidates b.config.retries) := by
  cases op with
  | start => exact Program.maintains_bind maintains_start fun _ => maintains_done
  | shutdown => exact Program.maintains_bind maintains_shutdown fun _ => maintains_done
  | runPass => exact Program.maintains_bind (maintains_ofPass maintains_periodic) fun _ => maintains_done
  | alreadyBound => exact Program.maintains_bind (maintains_ofPass maintains_alreadyBound) fun _ => maintains_done
  | bind => exact Program.maintains_bind (maintains_ofPass maintains_bind) fun _ => maintains_done
  | unbind => exact Program.maintains_bind (maintains_ofPass maintains_unbind) fun _ => maintains_done

end Fleet
end AddressBinder
