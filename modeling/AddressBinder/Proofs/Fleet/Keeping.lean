import AddressBinder.Proofs.Fleet.Restoring
import AddressBinder.Proofs.Fleet.Stealing
import AddressBinder.Proofs.Lifecycle.Steady
/-!
# A held address is kept

An instance holds a candidate address, and its binder is between two passes, anywhere in the life of a fleet.  From then
on the others do what they like: what they attach they attach to their own instances, and what they release is theirs,
however old their knowledge is, so the cloud describes the instance as ever (`Intact`).  So no view of its binder is lost
(`Expecting`), and the binder calls for nothing else (`Kept.turn`).
-/
namespace AddressBinder

theorem Candidates.ofEntries_zone {zone zone' : String} {entries : List String} {candidates : Candidates}
    (h : ofEntries zone entries = .ok candidates) : ofEntries zone' entries = .ok candidates := by
  unfold ofEntries at h ⊢
  split at h
  · cases h
  · rename_i hempty
    rw [if_neg hempty]
    exact h

namespace Fleet

open Program Lifecycle

/-! ## Calm acts -/

/-- What may happen while the member with a number keeps its address: the operator attaches nothing to the instance and
releases nothing, queries do not fail, and the member starts and makes passes, with collaborators that work.  The other
members do what they like. -/
def Act.IsCalm (own : String) (n : Nat) (candidates : Candidates) : Act → Prop
  | .call (.attach _ who _) => who ≠ own
  | .call (.detach _) => False
  | .call _ => True
  | .switch queries _ _ => queries = false
  | .around k (.launch op) => k = n → op.isSteady = true
  | .around k (.answer _ x reply) => k = n → Supplies candidates x reply
  | .around .. | .serve .. => True

/-- A move of the activity with a number of a member, or the answer to a call of it. -/
def Act.IsOf (n k : Nat) : Act → Prop
  | .around n' (.move k') => n' = n ∧ k' = k
  | .around n' (.answer k' _ _) => n' = n ∧ k' = k
  | .serve n' k' _ => n' = n ∧ k' = k
  | _ => False

variable {c d : Cloud} {own : String} {candidates : Candidates} {n k : Nat} {b : Binder} {w t : Finding}
  {x y before : Scene} {f g : Fleet} {act : Act}

theorem smooth_of_calm {act : Lifecycle.Act} (h : (Act.around n act).IsCalm own n candidates) :
    ∀ (k : Nat) (r : Lifecycle.Request) (reply : r.Reply), Scene.Brings act k r reply → Smooth candidates r reply
  | _, .call _, _, hb => by
    subst hb
    exact h rfl
  | _, .clock _, _, _ => trivial
  | _, .own _, _, _ => trivial

theorem spares_of_calm {call : ProviderCall} (h : (Act.call call).IsCalm own n candidates) : d.Spares own call := by
  cases call with
  | attach => exact h
  | detach => exact h.elim
  | describeInstance | describeInterfaces => trivial

/-! ## The cloud -/

/-- The cloud describes the instance as ever. -/
structure Intact (c : Cloud) (own : String) (d : Cloud) : Prop where
  registered : d.instances.contains own = true
  queries : d.failQueries = false
  held : d.heldBy own = c.heldBy own

theorem Intact.describe (h : Intact c own d) :
    ∃ subnetId, d.describeInstance own = .ok (some ⟨own, subnetId, c.heldBy own⟩) := by
  obtain ⟨subnetId, hdescribe⟩ := Cloud.describeInstance_of_contains h.registered h.queries
  rw [h.held] at hdescribe
  exact ⟨subnetId, hdescribe⟩

theorem Intact.serve {call : ProviderCall} (h : Intact c own d) (hs : d.Spares own call) :
    Intact c own (Cloud.serve call d).2 := by
  have hsame := Cloud.sameSetup_serve d call
  exact ⟨hsame.instances ▸ h.registered, hsame.failQueries.trans h.queries,
    ((Cloud.effect_serve d call).heldBy_eq hs).trans h.held⟩

/-! ## The binder -/

/-- What an activity knows whose instance keeps its address: no view was lost. -/
def Expecting (own : String) (candidates : Candidates) : Finding → Prop :=
  Informed own candidates (fun _ => True) (fun _ => False) (· = .nothing)

theorem Expecting.not_lost (h : Expecting own candidates w) : w.isLost = false := by
  cases w with
  | failed => cases h
  | _ => rfl

/-- **What collaborators that work reply loses no view.** -/
theorem Expecting.outer {r : Lifecycle.Request} {reply : r.Reply} (hw : Expecting own candidates w)
    (ho : Outer own r reply) (hs : Smooth candidates r reply) (ht : steady? b w r reply = some t) :
    Expecting own candidates t := by
  cases r with
  | clock _ =>
    obtain rfl := Option.some.inj ht
    exact hw
  | own o =>
    rcases steady?_own ht with rfl | rfl
    · exact hw
    · rfl
  | call call =>
    obtain ⟨hview, u, hu, rfl⟩ := steady?_call hw.not_lost ht
    cases call with
    | metadata =>
      cases reply with
      | error _ => exact hs.elim
      | ok m =>
        obtain rfl := Option.some.inj hu
        exact ho
    | serviceUrls zone =>
      cases reply with
      | error _ => exact hs.elim
      | ok urls =>
        obtain ⟨m, rfl, rfl, rfl⟩ := Finding.next?_serviceUrls (l := .restore) hu
        have hresolved : Candidates.ofEntries m.availabilityZone urls = .ok candidates := hs
        unfold Finding.ofUrls
        dsimp only
        rw [hresolved]
        exact ⟨hw, rfl⟩
    | provider _ => exact ho.elim
    | clearRegistry | syncUp | openForTraffic _ => cases hview

/-- **A description of the instance loses no view**, since it shows a candidate address. -/
theorem Expecting.serve {call : ProviderCall} (hbound : Decision.boundInterface? (c.heldBy own) candidates ≠ none)
    (hintact : Intact c own d) (hw : Expecting own candidates w)
    (ht : steady? b w (.call (.provider call)) (Cloud.serve call d).1 = some t) : Expecting own candidates t := by
  obtain ⟨hview, u, hu, rfl⟩ := steady?_call hw.not_lost ht
  cases call with
  | describeInstance who =>
    obtain ⟨m, cs, rfl, rfl, rfl⟩ := Finding.next?_describeInstance (l := .restore) hu
    obtain ⟨rfl, rfl⟩ := hw
    obtain ⟨subnetId, hdescribe⟩ := hintact.describe
    have hfound : (Decision.boundInterface? (c.heldBy m.instanceId) cs).isSome = true :=
      Option.isSome_iff_ne_none.2 hbound
    show Expecting m.instanceId cs (Finding.settle (Finding.ofDescription cs (d.describeInstance m.instanceId)))
    rw [hdescribe]
    unfold Finding.ofDescription Finding.settle
    dsimp only
    rw [if_pos hfound]
    exact ⟨rfl, trivial⟩
  | attach | detach | describeInterfaces => cases hview

/-! ## The fleet -/

/-- A member that keeps its address, or one on another instance. -/
inductive Fits (own : String) (candidates : Candidates) (n : Nat) (b : Binder) (before : Scene) : Nat → Member → Prop where
  | mine {x : Scene} (hx : Scene.SteadySince b (Expecting own candidates) before x) :
      Fits own candidates n b before n ⟨b, own, x⟩
  | other {k : Nat} {m : Member} (hk : k ≠ n) (hm : m.instanceId ≠ own) : Fits own candidates n b before k m

/-- Since the cloud and the scene of the member with a number were as given, the member has kept its address. -/
structure Kept (c : Cloud) (own : String) (candidates : Candidates) (n : Nat) (b : Binder) (before : Scene) (f : Fleet) :
    Prop where
  safe : Safe f
  bound : Decision.boundInterface? (c.heldBy own) candidates ≠ none
  intact : Intact c own f.cloud
  members : ∀ {k : Nat} {m : Member}, f.members[k]? = some m → Fits own candidates n b before k m
  present : n < f.members.length

namespace Kept

theorem mine (h : Kept c own candidates n b before f) :
    ∃ x, f.members[n]? = some ⟨b, own, x⟩ ∧ Scene.SteadySince b (Expecting own candidates) before x := by
  obtain ⟨m, hm⟩ : ∃ m, f.members[n]? = some m := ⟨_, List.getElem?_eq_getElem h.present⟩
  cases h.members hm with
  | @mine x hx => exact ⟨x, hm, hx⟩
  | other hk _ => exact absurd rfl hk

theorem serve {call : ProviderCall} (h : Kept c own candidates n b before f) (who : Caller)
    (hs : f.cloud.Spares own call) : Kept c own candidates n b before (f.serve who call) :=
  ⟨h.safe.serve who call, h.bound, h.intact.serve hs, h.members, h.present⟩

theorem seat {m : Member} (h : Kept c own candidates n b before f) (hm : f.members[k]? = some m)
    (hsafe : Safe (f.seat k m y)) (hy : ∀ x, k = n → m = ⟨b, own, x⟩ →
      Scene.SteadySince b (Expecting own candidates) before x →
        Scene.SteadySince b (Expecting own candidates) before y) :
    Kept c own candidates n b before (f.seat k m y) where
  safe := hsafe
  bound := h.bound
  intact := h.intact
  members hk' := by
    rcases seat_members hk' with ⟨rfl, rfl⟩ | ⟨-, hk'⟩
    · cases h.members hm with
      | mine hx => exact .mine (hy _ rfl rfl hx)
      | other hk hne => exact .other hk hne
    · exact h.members hk'
  present := by
    show n < (f.members.set k _).length
    rw [List.length_set]
    exact h.present

/-- **What a member calls for spares the instance**: the one that keeps its address only looks, and the others act for
their own. -/
theorem spares {activity : Nat} {m : Member} {call : ProviderCall} {reply : call.Reply}
    (h : Kept c own candidates n b before f) (hm : f.members[k]? = some m)
    (hy : m.scene.step? m.binder (.answer activity (.provider call) reply) = some y) : f.cloud.Spares own call := by
  cases h.members hm with
  | mine hx =>
    obtain ⟨a, p, ha, hp⟩ := Scene.asks_of_answer hy
    have hview := (hx.activities ha).isView (fun _ hw => hw.not_lost) hp
    cases call with
    | describeInstance | describeInterfaces => trivial
    | attach | detach => cases hview
  | other _ hne =>
    have hentitled : f.Entitled (.member k) call := h.safe.entitled hm hy
    have hactsFor : ∀ who, f.ActsFor (.member k) who → who ≠ own := by
      rintro who ⟨m', hm', rfl⟩
      obtain rfl := Option.some.inj (hm.symm.trans hm')
      exact hne
    cases call with
    | describeInstance | describeInterfaces => trivial
    | attach => exact hactsFor _ hentitled.attach
    | detach id =>
      intro key a ha hid
      subst hid
      exact hactsFor _ (hentitled.detach ha)

/-- **No calm act takes the address away**, and the binder makes nothing of any but that it is there. -/
theorem turn (h : Kept c own candidates n b before f) (hact : act.IsCalm own n candidates) (ht : f.Turn act g) :
    Kept c own candidates n b before g := by
  have hsafe : Safe g := h.safe.turn ht
  cases ht with
  | call call => exact h.serve .operator (spares_of_calm hact)
  | switch queries attaches detaches =>
    exact ⟨hsafe, h.bound, ⟨h.intact.registered, hact, h.intact.held⟩, h.members, h.present⟩
  | @around k act m y hm hallows hy =>
    refine h.seat hm hsafe fun x hk hmine hx => ?_
    subst hk hmine
    have hlaunch : ∀ op, act = .launch op → op.isSteady = true := by
      rintro op rfl
      exact hact rfl
    refine hx.turn (Scene.step?_turn hy) hlaunch rfl (fun _ hw => hw.not_lost) fun w t j r reply hb hw ht => ?_
    exact hw.outer (outer_of_allows hallows j r reply hb) (smooth_of_calm hact j r reply hb) ht
  | @serve k activity call m y hm hy =>
    refine (h.serve (.member k) (h.spares hm hy)).seat hm hsafe fun x hk hmine hx => ?_
    subst hk hmine
    refine hx.turn (Scene.step?_turn hy) (by simp) rfl (fun _ hw => hw.not_lost) fun w t j r reply hb hw ht => ?_
    obtain ⟨-, heq⟩ := Scene.brings_answer hb
    cases heq
    exact hw.serve h.bound h.intact ht

theorem run : ∀ {acts : List Act} {f : Fleet}, Kept c own candidates n b before f →
    (∀ act ∈ acts, act.IsCalm own n candidates) → acts.foldlM step? f = some g → Kept c own candidates n b before g
  | [], f, h, _, hg => by
    obtain rfl := Option.some.inj hg
    exact h
  | act :: acts, f, h, hcalm, hg => by
    rw [List.foldlM_cons] at hg
    obtain ⟨e, he, hg⟩ := Option.bind_eq_some_iff.1 hg
    obtain ⟨hact, hrest⟩ := List.forall_mem_cons.1 hcalm
    exact run (h.turn hact (step?_turn he)) hrest hg

/-! ## Passes come to their end -/

/-- The fleet comes to be so by calm steps of one activity of the member. -/
def Comes (own : String) (candidates : Candidates) (n k : Nat) (f g : Fleet) : Prop :=
  ∃ acts : List Act, (∀ act ∈ acts, act.IsCalm own n candidates ∧ act.IsOf n k) ∧ acts.foldlM step? f = some g

theorem comes_self (f : Fleet) : Comes own candidates n k f f := ⟨[], fun _ h => absurd h List.not_mem_nil, rfl⟩

theorem Comes.trans {e : Fleet} (h : Comes own candidates n k f e) (h' : Comes own candidates n k e g) :
    Comes own candidates n k f g := by
  obtain ⟨acts, hacts, he⟩ := h
  obtain ⟨more, hmore, hg⟩ := h'
  refine ⟨acts ++ more, List.forall_mem_append.2 ⟨hacts, hmore⟩, ?_⟩
  rw [List.foldlM_append, he]
  exact hg

theorem step {e : Fleet} (h : Kept c own candidates n b before f) (hs : f.step? act = some e)
    (hcalm : act.IsCalm own n candidates) (hof : act.IsOf n k) :
    Comes own candidates n k f e ∧ Kept c own candidates n b before e := by
  refine ⟨⟨[act], List.forall_mem_singleton.2 ⟨hcalm, hof⟩, ?_⟩, h.turn hcalm (step?_turn hs)⟩
  rw [List.foldlM_cons, hs]
  rfl

theorem around {act : Lifecycle.Act} (h : Kept c own candidates n b before f)
    (hm : f.members[n]? = some ⟨b, own, x⟩) (hy : x.step? b act = some y)
    (hallows : Member.allows ⟨b, own, x⟩ act = true) (hcalm : (Act.around n act).IsCalm own n candidates)
    (hof : (Act.around n act).IsOf n k) :
    ∃ e, Comes own candidates n k f e ∧ Kept c own candidates n b before e ∧ e.members[n]? = some ⟨b, own, y⟩ := by
  have hs : f.step? (.around n act) = some (f.seat n ⟨b, own, x⟩ y) := by
    simp [step?, hm, hallows, Member.step?, hy, Fleet.seat]
  obtain ⟨hcomes, hkept⟩ := h.step hs hcalm hof
  exact ⟨_, hcomes, hkept, List.getElem?_set_self h.present⟩

theorem served {call : ProviderCall} (h : Kept c own candidates n b before f)
    (hm : f.members[n]? = some ⟨b, own, x⟩)
    (hy : x.step? b (.answer k (.provider call) (Cloud.serve call f.cloud).1) = some y) :
    ∃ e, Comes own candidates n k f e ∧ Kept c own candidates n b before e ∧ e.members[n]? = some ⟨b, own, y⟩ := by
  have hs : f.step? (.serve n k call) = some ((f.serve (.member n) call).seat n ⟨b, own, x⟩ y) := by
    simp [step?, hm, Member.step?, hy, Fleet.seat, Fleet.serve]
  obtain ⟨hcomes, hkept⟩ := h.step (k := k) hs trivial ⟨rfl, rfl⟩
  exact ⟨_, hcomes, hkept, List.getElem?_set_self h.present⟩

/-- **A call of a member that keeps its address is answered**, and its activity goes on. -/
theorem answers {zone : String} {urls : List String} {a : Activity} {call : Call}
    {p : Lifecycle.Request.Reply (.call call) → Program lifecycle Finish}
    (hlist : Candidates.ofEntries zone urls = .ok candidates) (h : Kept c own candidates n b before f)
    (hm : f.members[n]? = some ⟨b, own, x⟩) (ha : x.activities[k]? = some a) (hp : a.program = .ask (.call call) p)
    (hpending : a.pending = true) :
    ∃ (reply : call.Reply) (e : Fleet), Comes own candidates n k f e ∧ Kept c own candidates n b before e ∧
      e.members[n]? = some ⟨b, own, x.resume b k a (.call call) reply (p reply) x.own⟩ := by
  have hview : call.isView = true := by
    cases h.members hm with
    | mine hx => exact (hx.activities ha).isView (fun _ hw => hw.not_lost) hp
    | other hk _ => exact absurd rfl hk
  have hy : ∀ reply : call.Reply, _ := fun reply => Scene.step?_answer (b := b) reply ha hp hpending
  cases call with
  | metadata =>
    exact ⟨.ok ⟨own, zone⟩, h.around hm (hy _) (beq_self_eq_true own) (fun _ => trivial) ⟨rfl, rfl⟩⟩
  | serviceUrls =>
    exact ⟨.ok urls, h.around hm (hy _) rfl (fun _ => Candidates.ofEntries_zone hlist) ⟨rfl, rfl⟩⟩
  | provider call => exact ⟨(Cloud.serve call f.cloud).1, h.served hm (hy _)⟩
  | clearRegistry | syncUp | openForTraffic => cases hview

/-- The activity with a number comes to its end by calm steps of its own. -/
def Concludes (c : Cloud) (own : String) (candidates : Candidates) (n : Nat) (b : Binder) (before : Scene) (k : Nat)
    (role : Role) (f : Fleet) : Prop :=
  ∃ g y a r, Comes own candidates n k f g ∧ Kept c own candidates n b before g ∧
    g.members[n]? = some ⟨b, own, y⟩ ∧ y.activities[k]? = some a ∧ a.role = role ∧ a.result? = some r

theorem concludes_of_comes {role : Role} {e : Fleet} (h : Comes own candidates n k f e)
    (he : Concludes c own candidates n b before k role e) : Concludes c own candidates n b before k role f := by
  obtain ⟨g, y, a, r, hmore, hrest⟩ := he
  exact ⟨g, y, a, r, h.trans hmore, hrest⟩

/-- **A pass of a member that keeps its address comes to its end.** -/
theorem concludes {zone : String} {urls : List String} (hlist : Candidates.ofEntries zone urls = .ok candidates) :
    ∀ (q : Program pass Operation.Result) {f : Fleet} {x : Scene} {a : Activity}, Kept c own candidates n b before f →
      f.members[n]? = some ⟨b, own, x⟩ → x.activities[k]? = some a → a.program = remainder q →
        Concludes c own candidates n b before k a.role f
  | .done r, f, x, a, h, hm, ha, hp => by
    have hr : a.result? = some r := by
      unfold Activity.result?
      rw [hp]
      rfl
    exact ⟨f, x, a, r, comes_self f, h, hm, ha, rfl, hr⟩
  | .ask (.note m) p, f, x, a, h, hm, ha, hp => by
    have hp : a.program = .ask (.own (.note m)) fun _ => remainder (p ()) := hp
    obtain ⟨e, hcomes, he, hm'⟩ :=
      h.around (k := k) hm (Scene.step?_note ha hp) rfl trivial ⟨rfl, rfl⟩
    have hrest := concludes hlist (p ()) he hm' (Scene.activity_resume ha) rfl
    exact concludes_of_comes hcomes hrest
  | .ask (.call call) p, f, x, a, h, hm, ha, hp => by
    have hp : a.program = .ask (.call call) fun reply => remainder (p reply) := hp
    have hanswered : ∀ {f : Fleet} {x : Scene} {a' : Activity}, Kept c own candidates n b before f →
        f.members[n]? = some ⟨b, own, x⟩ → x.activities[k]? = some a' → a'.role = a.role → a'.program = a.program →
          a'.pending = true → Concludes c own candidates n b before k a.role f := by
      intro f x a' h hm ha hrole hsame hpending
      obtain ⟨reply, e, hcomes, he, hm'⟩ := h.answers hlist hm ha (hsame.trans hp) hpending
      have hrest := concludes hlist (p reply) he hm' (Scene.activity_resume ha) rfl
      rw [← hrole]
      exact concludes_of_comes hcomes hrest
    -- the call may be under way already
    cases hpending : a.pending with
    | true => exact hanswered h hm ha rfl rfl hpending
    | false =>
      obtain ⟨e, hcomes, he, hm'⟩ :=
        h.around (k := k) hm (Scene.step?_issue ha hp hpending) rfl trivial ⟨rfl, rfl⟩
      have ha' : (x.issue k a call).activities[k]? = some { a with pending := true } :=
        List.getElem?_set_self (List.getElem?_eq_some_iff.1 ha).1
      exact concludes_of_comes hcomes (hanswered he hm' ha' rfl rfl rfl)

theorem result {a : Activity} {r : Operation.Result} (h : Kept c own candidates n b before f)
    (hm : f.members[n]? = some ⟨b, own, x⟩) (hk : before.activities.length ≤ k) (ha : x.activities[k]? = some a)
    (hrole : a.role = .operation .runPass) (hr : a.result? = some r) : r = .delay b.config.boundInterval := by
  cases h.members hm with
  | mine hx =>
    have hexpects := (hx.activities ha).result (fun _ hw => hw.not_lost) hk hr
    rw [hrole] at hexpects
    exact Finish.operation.inj hexpects
  | other hne _ => exact absurd rfl hne

end Kept

/-- A member that rests on an instance with a candidate address begins to keep it. -/
theorem Reaches.kept {crew : List (Binder × String)} {life : List Act} (hf : Reaches c crew life f)
    (hc : c.Preregistered) (hm : f.members[n]? = some ⟨b, own, x⟩) (hx : x.rests = true)
    (hothers : ∀ (k : Nat) (m : Member), f.members[k]? = some m → k ≠ n → m.instanceId ≠ own)
    (hregistered : f.cloud.instances.contains own = true) (hqueries : f.cloud.failQueries = false)
    (hheld : ∃ key, f.cloud.HoldsAt own candidates key) : Kept f.cloud own candidates n b x f where
  safe := hf.induction (safe_initial hc.sound crew) Safe.turn
  bound := by
    obtain ⟨key, hkey⟩ := hheld
    exact hkey.boundInterface?_ne_none
  intact := ⟨hregistered, hqueries, rfl⟩
  members {k m} hk := by
    by_cases hkn : k = n
    · subst hkn
      obtain rfl := Option.some.inj (hm.symm.trans hk)
      obtain ⟨acts, hacts⟩ := hf.scene k _ hm
      exact .mine (hacts.steadySince_self hx rfl)
    · exact .other hkn (hothers k m hk hkn)
  present := (List.getElem?_eq_some_iff.1 hm).1

/-- **A held address is kept.**  At any moment in the life of a fleet, let an instance hold a candidate address and its
binder be between two passes.  Whatever the binders of other instances do from then on, whatever attaching and releasing
fails for them, and however many passes the binder makes meanwhile: what is attached to the instance stays exactly as it
is; the binder calls for nothing but views and tells of each pass that it found the address; and each of the passes that
it is told to make returns the bound interval, to which it comes by steps of its own. -/
theorem Reaches.keeps_held_address {crew : List (Binder × String)} {life rest : List Act} {zone : String}
    {urls : List String} (hc : c.Preregistered) (hf : Reaches c crew life f)
    (hm : f.members[n]? = some ⟨b, own, x⟩) (hx : x.rests = true)
    (hothers : ∀ (k : Nat) (m : Member), f.members[k]? = some m → k ≠ n → m.instanceId ≠ own)
    (hregistered : f.cloud.instances.contains own = true) (hqueries : f.cloud.failQueries = false)
    (hlist : Candidates.ofEntries zone urls = .ok candidates) (hheld : ∃ key, f.cloud.HoldsAt own candidates key)
    (hrest : ∀ act ∈ rest, act.IsCalm own n candidates) (hg : Reaches c crew (life ++ rest) g) :
    g.cloud.heldBy own = f.cloud.heldBy own ∧
    ∃ y lines, g.members[n]? = some ⟨b, own, y⟩ ∧ y.log = x.log ++ lines ∧ (∀ l ∈ lines, l.IsSteady b) ∧
      ∀ k a, x.activities.length ≤ k → y.activities[k]? = some a → a.role = .operation .runPass →
        (∀ r, a.result? = some r → r = .delay b.config.boundInterval) ∧
        ∃ more e z, (∀ act ∈ more, act.IsCalm own n candidates ∧ act.IsOf n k) ∧
          Reaches c crew (life ++ rest ++ more) e ∧ e.members[n]? = some ⟨b, own, z⟩ ∧
          z.result? k = some (.delay b.config.boundInterval) := by
  have hkept : Kept f.cloud own candidates n b x f := hf.kept hc hm hx hothers hregistered hqueries hheld
  have hkept : Kept f.cloud own candidates n b x g := by
    obtain ⟨f', hf', hrun⟩ := reaches_append.1 hg
    obtain rfl := Option.some.inj (hf.symm.trans hf')
    exact hkept.run hrest hrun
  obtain ⟨y, hy, hsteady⟩ := hkept.mine
  obtain ⟨lines, hlog, hlines⟩ := hsteady.log
  refine ⟨hkept.intact.held, y, lines, hy, hlog, hlines, fun k a hk ha hrole => ⟨fun r => ?_, ?_⟩⟩
  · exact hkept.result hy hk ha hrole
  · obtain ⟨q, hq⟩ := hsteady.passes hk ha .runPass hrole rfl
    obtain ⟨e, z, a', r, ⟨more, hmore, hrun⟩, he, hz, ha', hrole', hr⟩ := hkept.concludes hlist q hy ha hq
    refine ⟨more, e, z, hmore, reaches_append.2 ⟨g, hg, hrun⟩, hz, ?_⟩
    obtain rfl := he.result hz hk ha' (hrole'.trans hrole) hr
    unfold Scene.result?
    rw [ha']
    exact hr

/-- A binder on another instance shuts down, and describes its instance. -/
def departure : List Act :=
  .around 1 (.launch .shutdown) :: List.replicate 4 (.around 1 (.move 1)) ++
    [.around 1 (.answer 1 .metadata (.ok ⟨"i-b", "z"⟩)), .around 1 (.move 1),
      .around 1 (.answer 1 (.serviceUrls "z") (.ok ["10.0.0.2", "10.0.0.1"])), .around 1 (.move 1),
      .serve 1 1 (.describeInstance "i-b"), .around 1 (.move 1)]

/-- A pass, during which the other binder releases its interface. -/
def nextPass : List Act :=
  departure ++ .around 0 (.launch .runPass) :: inquiry 3 ++ .serve 1 1 (.detach "legacy-2") :: moves 3 3

/-- A binder that has attached the free interface keeps it while the other one leaves. -/
theorem keeps_held_address_in_pool : ∃ f g y,
    Reaches pool [(⟨.default, "memory"⟩, "i-a"), (⟨.default, "memory"⟩, "i-b")] day f ∧
    f.cloud.attachment? "eni-1" = some ⟨"eni-attach-00000001", "i-a", 1⟩ ∧
    Reaches pool [(⟨.default, "memory"⟩, "i-a"), (⟨.default, "memory"⟩, "i-b")] (day ++ nextPass) g ∧
    g.cloud.attachment? "eni-2" = none ∧ g.cloud.heldBy "i-a" = f.cloud.heldBy "i-a" ∧
    g.members[0]? = some ⟨⟨.default, "memory"⟩, "i-a", y⟩ ∧
    y.result? 3 = some (.delay Config.default.boundInterval) := by
  have hrun : ∃ f x g y i a,
      Reaches pool [(⟨.default, "memory"⟩, "i-a"), (⟨.default, "memory"⟩, "i-b")] day f ∧
      f.cloud.attachment? "eni-1" = some ⟨"eni-attach-00000001", "i-a", 1⟩ ∧
      f.members[0]? = some ⟨⟨.default, "memory"⟩, "i-a", x⟩ ∧ x.rests = true ∧ x.activities.length = 3 ∧
      f.members.map (·.instanceId) = ["i-a", "i-b"] ∧ f.cloud.instances.contains "i-a" = true ∧
      f.cloud.failQueries = false ∧ f.cloud.interfaces.get? "eni-1" = some i ∧ i.isHeldBy "i-a" = true ∧
      i.privateIp = some ⟨10, 0, 0, 1⟩ ∧
      Reaches pool [(⟨.default, "memory"⟩, "i-a"), (⟨.default, "memory"⟩, "i-b")] (day ++ nextPass) g ∧
      g.cloud.attachment? "eni-2" = none ∧ g.members[0]? = some ⟨⟨.default, "memory"⟩, "i-a", y⟩ ∧
      y.activities[3]? = some a ∧ a.role = .operation .runPass ∧ a.result?.isSome = true :=
    ⟨_, _, _, _, _, _, rfl, rfl, rfl, rfl, rfl, rfl, rfl, rfl, rfl, rfl, rfl, rfl, rfl, rfl, rfl, rfl, rfl⟩
  obtain ⟨f, x, g, y, i, a, hf, heni, hm, hx, hlength, hids, hregistered, hqueries, hi, hmine, hip, hg, hgone, hy, ha,
    hrole, hended⟩ := hrun
  have hurls : Candidates.ofEntries "z" ["10.0.0.2", "10.0.0.1"] = .ok ⟨[⟨10, 0, 0, 2⟩, ⟨10, 0, 0, 1⟩]⟩ := rfl
  have hcalm : ∀ act ∈ nextPass, act.IsCalm "i-a" 0 ⟨[⟨10, 0, 0, 2⟩, ⟨10, 0, 0, 1⟩]⟩ := by
    simp [nextPass, departure, inquiry, moves, Act.IsCalm, Supplies, hurls, Operation.isSteady]
  have hothers : ∀ (k : Nat) (m : Member), f.members[k]? = some m → k ≠ 0 → m.instanceId ≠ "i-a" := by
    intro k m hk hne
    have hid : (f.members.map (·.instanceId))[k]? = some m.instanceId := by rw [List.getElem?_map, hk, Option.map_some]
    rw [hids] at hid
    cases k with
    | zero => exact absurd rfl hne
    | succ k =>
      cases k with
      | zero =>
        rw [← Option.some.inj hid]
        decide
      | succ k => cases hid
  have hheld : ∃ key, f.cloud.HoldsAt "i-a" ⟨[⟨10, 0, 0, 2⟩, ⟨10, 0, 0, 1⟩]⟩ key :=
    ⟨"eni-1", i, hi, hmine, ⟨10, 0, 0, 1⟩, hip, by decide⟩
  obtain ⟨hkeeps, y', -, hy', -, -, hpasses⟩ := Reaches.keeps_held_address preregistered_pool hf hm hx hothers
    hregistered hqueries hurls hheld hcalm hg
  obtain rfl : y = y' := by
    have hsame := Option.some.inj (hy.symm.trans hy')
    exact (Member.mk.inj hsame).2.2
  refine ⟨f, g, y, hf, heni, hg, hgone, hkeeps, hy, ?_⟩
  obtain ⟨r, hr⟩ := Option.isSome_iff_exists.1 hended
  obtain rfl := (hpasses 3 a (Nat.le_of_eq hlength) ha hrole).1 r hr
  unfold Scene.result?
  rw [ha]
  exact hr

end Fleet
end AddressBinder
