import AddressBinder.Proofs.Cloud.Lending
import AddressBinder.Proofs.Pass.Journey
/-!
# The way of an unbind

An unbind takes a view and releases what the decision picks out of it (`Unbinding.Goes`): it asks for at most one
detachment, by the attachment id of the interface whose address is the best candidate of those that its own view lists.
Over a cloud (`OnCloud`) that interface always has an id, and where the ids tell the attachments apart, a release frees
that interface and nothing else.
-/
namespace AddressBinder

/-- The ids of the attachments of a cloud tell them apart. -/
def Cloud.Distinct (c : Cloud) : Prop := ∀ {k l : String} {a a' : Attachment}, c.attachment? k = some a →
  c.attachment? l = some a' → a.attachmentId = a'.attachmentId → k = l

namespace Pass

open Program

/-- The candidates are those that the URLs of the zone name. -/
def Evidence.Resolved (v : Evidence) : Prop :=
  Candidates.ofEntries v.metadata.availabilityZone v.urls = .ok v.candidates

/-- The interface that an unbind is to release: of those that the view lists, the first with the best candidate address. -/
def Evidence.Picks (v : Evidence) (i : Interface) : Prop := v.Resolved ∧ Decision.Chosen v.candidates v.me.interfaces i

def detachment (id : String) (reply : Except Error Unit) : Called := ⟨.provider (.detach id), reply⟩

/-- An attempt to unbind: its calls with the replies, and what it returned. -/
structure Unbinding where
  calls : List Called
  result : Except Error Unbound

namespace Unbinding

/-- What an unbind that asked for a detachment returns. -/
def released (i : Interface) (id : String) : Except Error Unit → Except Error Unbound
  | .ok _ => .ok (.detached i.interfaceId id)
  | .error e => .error (Inventory.detachError id e)

/-- How an attempt to unbind may go. -/
inductive Goes (b : Binder) : Unbinding → Prop where
  /-- A call of the view gave nothing to go on with. -/
  | unseen (init : List Called) (last : Called) (e : Error) (hlength : init.length < 3)
      (hlast : failure? b last.1 last.2 = some e)
      (hasks : ∀ c ∈ init ++ [last], c.1.isAttach = false ∧ c.1.isDetach = false) : Goes b ⟨init ++ [last], .error e⟩
  | notBound (v : Evidence) (hv : v.Resolved) (hnone : ∀ i ∈ v.me.interfaces, ¬ Decision.IsCandidate v.candidates i) :
      Goes b ⟨v.view, .ok .notBound⟩
  | unattached (v : Evidence) (i : Interface) (hi : v.Picks i) (hid : i.attachmentId = none) :
      Goes b ⟨v.view, .error (noAttachment i)⟩
  | asked (v : Evidence) (i : Interface) (id : String) (reply : Except Error Unit) (hi : v.Picks i)
      (hid : i.attachmentId = some id) : Goes b ⟨v.view ++ [detachment id reply], released i id reply⟩

end Unbinding

variable {b : Binder} {es : List (Exchange pass)} {v : Evidence} {t : Unbinding}

theorem view_asks (v : Evidence) : ∀ c ∈ v.view, c.1.isAttach = false ∧ c.1.isDetach = false := by
  simp [Evidence.view, Call.isAttach, Call.isDetach]

/-- A view that fails is at most three calls, of which the last gave nothing to go on with. -/
theorem unseen_of_context {e : Error} (h : (context b).Leads es (.done (.error e))) :
    Unbinding.Goes b ⟨calls es, .error e⟩ := by
  obtain ⟨j, hgoes⟩ : ∃ j, Goes b [] j (.failed e) (calls es) := goes_context h
  have hcalm : ((calls es).any fun c => c.1.isDecisive) = false := by
    rcases calls_context h with ⟨-, -, hcalm⟩ | ⟨v, hv, -⟩
    · exact hcalm
    · cases hv
  obtain ⟨init, last, hcalls, -, hlast⟩ := hgoes.succeeds fun c hc => absurd hc List.not_mem_nil
  have hlength : init.length < 3 := by
    refine Nat.lt_of_not_le fun hle => ?_
    -- the fourth call would be the listing
    have hlisted : ((calls es).map Sigma.fst)[3]? = some j.listing.1 := by
      have hat := hgoes.prefix_calls.getElem (i := 3) (by rw [hcalls]; simp; omega)
      rw [List.getElem?_eq_getElem (by rw [hcalls]; simp; omega), hat]
      rfl
    rw [List.getElem?_map, Option.map_eq_some_iff] at hlisted
    obtain ⟨c, hc, hlisting⟩ := hlisted
    have hdecisive := List.any_eq_false.1 hcalm c (List.mem_of_getElem? hc)
    rw [hlisting] at hdecisive
    exact hdecisive rfl
  rw [hcalls]
  have hdetaches := hgoes.not_isDetach fun c hc => absurd hc List.not_mem_nil
  refine .unseen init last e hlength hlast fun c hc => ⟨?_, hdetaches c (hcalls ▸ hc)⟩
  have hcalm := List.any_eq_false.1 hcalm c (hcalls ▸ hc)
  obtain ⟨c, reply⟩ := c
  cases c with
  | provider call => cases call <;> first | rfl | exact absurd rfl hcalm
  | _ => rfl

/-- **An unbind, call by call.** -/
theorem goes_unbind {r : Except Error Unbound} (h : (unbind b).Leads es (.done r)) : Unbinding.Goes b ⟨calls es, r⟩ := by
  rcases leads_andThen h with ⟨e, rfl, hc⟩ | ⟨ctx, es, es', rfl, hc, hrest⟩
  · exact unseen_of_context hc
  rcases calls_context hc with ⟨e, he, -⟩ | ⟨v, hv, hresolved, hview⟩
  · cases he
  obtain rfl : ctx = v.context := Except.ok.inj hv
  rw [calls_append, hview]
  cases hbound : v.context.boundInterface? with
  | none =>
    simp only [hbound] at hrest
    obtain ⟨rfl, rfl⟩ := leads_done.1 hrest
    rw [calls_nil, List.append_nil]
    exact .notBound v hresolved (Decision.best?_eq_none.1 hbound)
  | some i =>
    have hi : v.Picks i := ⟨hresolved, Decision.chosen_of_best? hbound⟩
    simp only [hbound] at hrest
    cases hid : i.attachmentId with
    | none =>
      unfold detach at hrest
      rw [hid] at hrest
      obtain ⟨rfl, rfl⟩ := leads_done.1 hrest
      rw [calls_nil, List.append_nil]
      exact .unattached v i hi hid
    | some id =>
      rw [detach_eq i hid] at hrest
      obtain ⟨(reply : Except Error Unit), es', rfl, hd⟩ := leads_ask.1 hrest
      cases reply with
      | error e =>
        obtain ⟨rfl, rfl⟩ := leads_done.1 hd
        exact .asked v i id (.error e) hi hid
      | ok _ =>
        obtain ⟨_, es', rfl, hdone⟩ := leads_ask.1 hd
        obtain ⟨rfl, rfl⟩ := leads_done.1 hdone
        exact .asked v i id (.ok ()) hi hid

namespace Unbinding

/-- **A detachment is the last call of its attempt**, comes right after the view, and names what is picked out of that. -/
theorem Goes.detachment (h : t.Goes b) {j : Nat} {c : Called} (hc : t.calls[j]? = some c)
    (hdetach : c.1.isDetach = true) : ∃ (v : Evidence) (i : Interface) (id : String) (reply : Except Error Unit),
      t.calls = v.view ++ [Pass.detachment id reply] ∧ j = v.view.length ∧ c = Pass.detachment id reply ∧
      v.Picks i ∧ i.attachmentId = some id ∧ t.result = released i id reply := by
  have hview : ∀ v : Evidence, c ∉ v.view := fun v hmem => by
    rw [(view_asks v c hmem).2] at hdetach
    cases hdetach
  cases h with
  | unseen init last e hlength hlast hasks =>
    rw [(hasks c (List.mem_of_getElem? hc)).2] at hdetach
    cases hdetach
  | notBound v | unattached v => exact absurd (List.mem_of_getElem? hc) (hview v)
  | asked v i id reply hi hid =>
    rcases Lifecycle.getElem?_concat_cases hc with ⟨rfl, rfl⟩ | hmem
    · exact ⟨v, i, id, reply, rfl, rfl, rfl, hi, hid, rfl⟩
    · exact absurd (List.mem_of_getElem? hmem) (hview v)

theorem Goes.detachments_le (h : t.Goes b) : (t.calls.filter fun c => c.1.isDetach).length ≤ 1 := by
  have hnone : ∀ {cs : List Called}, (∀ c ∈ cs, c.1.isAttach = false ∧ c.1.isDetach = false) →
      (cs.filter fun c => c.1.isDetach) = [] := fun hasks =>
    List.filter_eq_nil_iff.2 fun c hc => by simp [(hasks c hc).2]
  cases h with
  | unseen init last e hlength hlast hasks => simp [hnone hasks]
  | notBound v | unattached v => simp [hnone (view_asks v)]
  | asked v i id reply hi hid =>
    rw [List.filter_append, hnone (view_asks v), List.nil_append]
    exact List.length_filter_le _ [Pass.detachment id reply]

/-- A list of calls that begins with a view shows what the view saw. -/
theorem eq_of_view_prefix {v w : Evidence} {rest : List Called} (h : v.view <+: w.view ++ rest) :
    v.metadata = w.metadata ∧ v.urls = w.urls ∧ v.me = w.me := by
  obtain ⟨more, h⟩ := h
  obtain ⟨vm, vu, vc, vme, va⟩ := v
  obtain ⟨wm, wu, wc, wme, wa⟩ := w
  simp only [Evidence.view, List.cons_append, List.nil_append, List.cons.injEq] at h
  obtain ⟨hm, hu, hd, -⟩ := h
  cases hm
  cases hu
  cases hd
  exact ⟨rfl, rfl, rfl⟩

theorem Goes.picks_of_view {w : Evidence} {i : Interface} (hw : w.Picks i) (hv : v.Resolved)
    {rest : List Called} (h : v.view <+: w.view ++ rest) : v.Picks i := by
  obtain ⟨hm, hu, hme⟩ := eq_of_view_prefix h
  obtain ⟨hresolved, hchosen⟩ := hw
  have hcandidates : v.candidates = w.candidates := by
    unfold Evidence.Resolved at hv hresolved
    rw [hm, hu, hresolved] at hv
    exact (Except.ok.inj hv).symm
  exact ⟨hv, by rwa [hcandidates, hme]⟩

/-- **An attempt whose view shows no candidate address is over with it**, and has not failed. -/
theorem Goes.notBound_of_view (h : t.Goes b) (hv : v.Resolved) (hview : v.view <+: t.calls)
    (hnone : ∀ i ∈ v.me.interfaces, ¬ Decision.IsCandidate v.candidates i) : t = ⟨v.view, .ok .notBound⟩ := by
  have hpicks : ∀ {i}, ¬ v.Picks i := fun hi => hnone _ hi.2.mem hi.2.isCandidate
  cases h with
  | unseen init last e hlength hlast hasks =>
    have hall : v.view = init ++ [last] := hview.eq_of_length_le (by simp [Evidence.view]; omega)
    have hdescribed : v.view.getLast? = some last := by rw [hall, List.getLast?_concat]
    cases hdescribed
    cases hlast
  | notBound w hw hnone' =>
    have hlength : v.view.length = w.view.length := rfl
    rw [hview.eq_of_length hlength]
  | unattached w i hi hid =>
    have hview : v.view <+: w.view ++ [] := by rwa [List.append_nil]
    exact absurd (picks_of_view hi hv hview) hpicks
  | asked w i id reply hi hid => exact absurd (picks_of_view hi hv hview) hpicks

end Unbinding

/-! ## Over a cloud -/

/-- In the calls, the provider is a cloud, first `c` and in the end `d`; the other collaborators answer what they like. -/
def OnCloud : Cloud → List Called → Cloud → Prop
  | c, [], d => d = c
  | c, ⟨.provider call, reply⟩ :: cs, d => reply = (Cloud.serve call c).1 ∧ OnCloud (Cloud.serve call c).2 cs d
  | c, _ :: cs, d => OnCloud c cs d

section OnCloud

variable {c d : Cloud} {cs cs' : List Called}

theorem onCloud_append : ∀ (c : Cloud) (cs : List Called), OnCloud c (cs ++ cs') d ↔ ∃ m, OnCloud c cs m ∧ OnCloud m cs' d
  | c, [] => by simp [OnCloud]
  | c, ⟨.provider call, reply⟩ :: cs => by
    simp only [List.cons_append, OnCloud, onCloud_append _ cs, and_assoc, exists_and_left]
  | c, ⟨.metadata, _⟩ :: cs => onCloud_append c cs
  | c, ⟨.serviceUrls _, _⟩ :: cs => onCloud_append c cs
  | c, ⟨.clearRegistry, _⟩ :: cs => onCloud_append c cs
  | c, ⟨.syncUp, _⟩ :: cs => onCloud_append c cs
  | c, ⟨.openForTraffic _, _⟩ :: cs => onCloud_append c cs

/-- Calls that neither attach nor detach leave everything but the journal as it is. -/
theorem OnCloud.same (h : OnCloud c cs d) (hasks : ∀ x ∈ cs, x.1.isAttach = false ∧ x.1.isDetach = false) :
    d.interfaces = c.interfaces ∧ d.instances = c.instances := by
  induction cs generalizing c with
  | nil =>
    obtain rfl := h
    exact ⟨rfl, rfl⟩
  | cons x cs ih =>
    obtain ⟨hx, hcs⟩ := List.forall_mem_cons.1 hasks
    obtain ⟨x, reply⟩ := x
    cases x with
    | provider call =>
      obtain ⟨-, hrest⟩ := h
      obtain ⟨hsame, hinstances⟩ := ih hrest hcs
      cases call with
      | describeInstance _ | describeInterfaces _ => exact ⟨hsame, hinstances⟩
      | attach => cases hx.1
      | detach => cases hx.2
    | _ => exact ih h hcs

/-- **A view of a cloud** shows the interfaces that it says are attached to the instance. -/
theorem OnCloud.view (h : OnCloud c v.view d) : v.me.interfaces = c.heldBy v.metadata.instanceId := by
  obtain ⟨hdescribed, -⟩ : _ ∧ _ := h
  have hdescribed : c.describeInstance v.metadata.instanceId = .ok (some v.me) := hdescribed.symm
  obtain ⟨-, subnet, -, hme⟩ := Cloud.describeInstance_eq_ok.1 hdescribed
  rw [hme]

/-- **What is picked out of a view of a cloud** is an interface of the cloud, and it has an attachment id. -/
theorem OnCloud.picks {i : Interface} (h : OnCloud c v.view d) (hi : v.Picks i) :
    ∃ key id, c.interfaces.get? key = some i ∧ i.attachmentId = some id := by
  have hmem := hi.2.mem
  rw [h.view] at hmem
  obtain ⟨key, a, hkey, ha, -⟩ := Cloud.mem_heldBy.1 hmem
  exact ⟨key, a.attachmentId, hkey, by rw [Interface.attachmentId, ha]; rfl⟩

/-- **A detachment by the id of an interface** releases it and nothing else, or fails and changes no interface. -/
theorem OnCloud.detachment {key id : String} {i : Interface} {reply : Except Error Unit} (hdistinct : c.Distinct)
    (hi : c.interfaces.get? key = some i) (hid : i.attachmentId = some id) (h : OnCloud c [Pass.detachment id reply] d) :
    (reply = .ok () ∧ (d.interfaces.get? key = some { i with status := .available, attachment := none } ∧
        ∀ k, k ≠ key → d.interfaces.get? k = c.interfaces.get? k) ∨
      (∃ e, reply = .error e) ∧ d.interfaces = c.interfaces) ∧ d.instances = c.instances := by
  obtain ⟨rfl, rfl⟩ : _ ∧ _ := h
  refine ⟨?_, (Cloud.sameSetup_serve c (.detach id)).instances⟩
  rcases Cloud.serve_detach c id with ⟨key', j, hj, hjd, heq⟩ | ⟨⟨reason, heq⟩, -⟩
  · -- the id stands for no other attachment
    obtain rfl : key' = key := by
      obtain ⟨a, ha, rfl⟩ := Option.map_eq_some_iff.1 hjd
      obtain ⟨a', ha', hsame⟩ := Option.map_eq_some_iff.1 hid
      have hthere : c.attachment? key' = some a := by rw [Cloud.attachment?, hj]; exact ha
      have hhere : c.attachment? key = some a' := by rw [Cloud.attachment?, hi]; exact ha'
      exact hdistinct hthere hhere hsame.symm
    rw [heq]
    refine .inl ⟨rfl, ?_, fun k hk => ?_⟩
    · exact (TextMap.get?_modify_of hi Interface.released key').trans (if_pos rfl)
    · exact (TextMap.get?_modify_of hi Interface.released k).trans (if_neg hk)
  · rw [heq]
    exact .inr ⟨⟨_, rfl⟩, rfl⟩

/-- What an attempt that unbinds over a cloud makes of it: exactly the interface that it has released is free. -/
structure Frees (c d : Cloud) (t : Unbinding) : Prop where
  released : ∀ interfaceId id, t.result = .ok (.detached interfaceId id) → ∃ (v : Evidence) (i : Interface) (key : String),
    v.view <+: t.calls ∧ v.Picks i ∧ c.interfaces.get? key = some i ∧ i.interfaceId = interfaceId ∧
      i.attachmentId = some id ∧ d.interfaces.get? key = some { i with status := .available, attachment := none } ∧
      ∀ k, k ≠ key → d.interfaces.get? k = c.interfaces.get? k
  others : (∀ interfaceId id, t.result ≠ .ok (.detached interfaceId id)) → d.interfaces = c.interfaces
  attached : ∀ (v : Evidence) (i : Interface), v.view <+: t.calls → v.Picks i → i.attachmentId ≠ none
  instances : d.instances = c.instances

theorem Frees.of_same {r : Except Error Unbound} (hr : ∀ interfaceId id, r ≠ .ok (.detached interfaceId id))
    (hsame : d.interfaces = c.interfaces ∧ d.instances = c.instances)
    (hattached : ∀ (v : Evidence) (i : Interface), v.view <+: cs → v.Picks i → i.attachmentId ≠ none) :
    Frees c d ⟨cs, r⟩ :=
  ⟨fun interfaceId id h => absurd h (hr interfaceId id), fun _ => hsame.1, hattached, hsame.2⟩

/-- **An unbind over a cloud** whose ids tell the attachments apart frees the interface that it picks, and that one
alone. -/
theorem Unbinding.Goes.frees (h : t.Goes b) (hdistinct : c.Distinct) (hc : OnCloud c t.calls d) : Frees c d t := by
  have hattached : ∀ (v : Evidence) (i : Interface), v.view <+: t.calls → v.Picks i → i.attachmentId ≠ none := by
    rintro v i ⟨rest, hcalls⟩ hi
    rw [← hcalls] at hc
    obtain ⟨m, hm, -⟩ := (onCloud_append _ _).1 hc
    obtain ⟨key, id, -, hid⟩ := hm.picks hi
    rw [hid]
    exact Option.some_ne_none id
  cases h with
  | unseen init last e hlength hlast hasks => exact .of_same nofun (hc.same hasks) hattached
  | notBound v hv hnone => exact .of_same nofun (hc.same (view_asks v)) hattached
  | unattached v i hi hid => exact .of_same nofun (hc.same (view_asks v)) hattached
  | asked v i id reply hi hid =>
    obtain ⟨m, hm, hdetach⟩ := (onCloud_append _ _).1 hc
    obtain ⟨hsame, hinstances⟩ := hm.same (view_asks v)
    obtain ⟨key, -, hkey, -⟩ := hm.picks hi
    have hdistinct' : m.Distinct := fun {k l a a'} hk hl hid => by
      unfold Cloud.attachment? at hk hl
      rw [hsame] at hk hl
      exact hdistinct hk hl hid
    obtain ⟨hended, hkept⟩ := hdetach.detachment hdistinct' (hsame ▸ hkey) hid
    rw [hsame] at hended
    rcases hended with ⟨rfl, hfree, hrest⟩ | ⟨⟨e, rfl⟩, hnothing⟩
    · refine ⟨?_, fun hno => absurd rfl (hno i.interfaceId id), hattached, hkept.trans hinstances⟩
      intro interfaceId id' hresult
      obtain ⟨rfl, rfl⟩ := Unbound.detached.inj (Except.ok.inj hresult)
      exact ⟨v, i, key, List.prefix_append _ _, hi, hkey, rfl, hid, hfree, hrest⟩
    · exact .of_same nofun ⟨hnothing, hkept.trans hinstances⟩ hattached

end OnCloud

end Pass
end AddressBinder
