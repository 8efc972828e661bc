import AddressBinder.Proofs.Decision
import AddressBinder.Proofs.Lifecycle.Part
/-!
# When an attempt attaches, and what

An attempt to be bound is told by its calls: a view, for a periodic pass the registry, and then the listing of the free
interfaces, after which at most one interface is attached (`Decided`).  Whether there is one and which it is follows from
what the calls yielded, whatever the collaborators answer (`Decided.attaches`, `Decided.favoured`).
-/
namespace AddressBinder

abbrev Called := (c : Call) × c.Reply

/-- Whether the call asks for free interfaces or for an attachment. -/
def Call.isDecisive : Call → Bool
  | .provider (.describeInterfaces _) => true
  | .provider (.attach ..) => true
  | _ => false

namespace Pass

open Program

def calls (es : List (Exchange pass)) : List Called := es.filterMap fun
  | ⟨.call c, reply⟩ => some ⟨c, reply⟩
  | ⟨.note _, _⟩ => none

@[simp] theorem calls_nil : calls [] = [] := rfl

@[simp] theorem calls_call (c : Call) (reply : c.Reply) (es : List (Exchange pass)) :
    calls (⟨.call c, reply⟩ :: es) = ⟨c, reply⟩ :: calls es := rfl

@[simp] theorem calls_note (n : Note) (reply : Unit) (es : List (Exchange pass)) :
    calls (⟨.note n, reply⟩ :: es) = calls es := rfl

@[simp] theorem calls_append (es es' : List (Exchange pass)) : calls (es ++ es') = calls es ++ calls es' :=
  List.filterMap_append

/-- What an attempt has seen when it decides. -/
structure Evidence where
  metadata : InstanceMetadata
  urls : List String
  candidates : Candidates
  me : InstanceDescription
  available : List Interface

namespace Evidence

/-- The calls of the view, all successful. -/
def view (v : Evidence) : List Called :=
  [⟨.metadata, .ok v.metadata⟩, ⟨.serviceUrls v.metadata.availabilityZone, .ok v.urls⟩,
    ⟨.provider (.describeInstance v.metadata.instanceId), .ok (some v.me)⟩]

def listing (v : Evidence) : Called :=
  ⟨.provider (.describeInterfaces (Inventory.availableFilter v.candidates v.me.subnetId)), .ok v.available⟩

/-- The evidence is in favour of an attachment: the candidates are those of the zone, none of their addresses is held,
and one is free. -/
structure Favours (v : Evidence) : Prop where
  resolved : Candidates.ofEntries v.metadata.availabilityZone v.urls = .ok v.candidates
  unheld : ∀ i ∈ v.me.interfaces, ¬ Decision.IsCandidate v.candidates i
  free : ∃ i ∈ v.available, Decision.IsCandidate v.candidates i

def attachment (v : Evidence) (i : Interface) (reply : Except Error String) : Called :=
  ⟨.provider (.attach i.interfaceId v.me.instanceId 1), reply⟩

end Evidence

/-- The calls by which a pass fills the registry again, all successful. -/
def registry (count : Nat) : List Called :=
  [⟨.clearRegistry, .ok ()⟩, ⟨.syncUp, .ok count⟩, ⟨.openForTraffic count, .ok ()⟩]

/-! ## The calls of the parts -/

variable {b : Binder}

/-- **A view, call by call.** -/
theorem calls_context {es : List (Exchange pass)} {r : Except Error Context} (h : (context b).Leads es (.done r)) :
    (∃ e, r = .error e ∧ ((calls es).any fun c => c.1.isDecisive) = false) ∨
      ∃ v : Evidence,
        r = .ok ⟨⟨v.me.instanceId, v.metadata.availabilityZone, v.me.subnetId, v.me.interfaces⟩, v.candidates⟩ ∧
        Candidates.ofEntries v.metadata.availabilityZone v.urls = .ok v.candidates ∧ calls es = v.view := by
  rw [context_eq] at h
  obtain ⟨(m : Except Error InstanceMetadata), es, rfl, hm⟩ := leads_ask.1 h
  match m, hm with
  | .error e, hm =>
    obtain ⟨rfl, rfl⟩ := leads_done.1 hm
    exact .inl ⟨e, rfl, rfl⟩
  | .ok m, hm =>
    obtain ⟨(urls : Except Error (List String)), es, rfl, hu⟩ := leads_ask.1 hm
    match urls, hu with
    | .error e, hu =>
      obtain ⟨rfl, rfl⟩ := leads_done.1 hu
      exact .inl ⟨e, rfl, rfl⟩
    | .ok urls, hu =>
      dsimp only at hu
      cases hc : Candidates.ofEntries m.availabilityZone urls with
      | error e =>
        rw [hc] at hu
        obtain ⟨rfl, rfl⟩ := leads_done.1 hu
        exact .inl ⟨e, rfl, rfl⟩
      | ok candidates =>
        rw [hc] at hu
        obtain ⟨(d : Except Error (Option InstanceDescription)), es, rfl, hd⟩ := leads_ask.1 hu
        obtain ⟨rfl, rfl⟩ := leads_done.1 hd
        match d with
        | .error e => exact .inl ⟨_, rfl, rfl⟩
        | .ok none => exact .inl ⟨_, rfl, rfl⟩
        | .ok (some d) => exact .inr ⟨⟨m, urls, candidates, d, []⟩, rfl, hc, rfl⟩

/-- What follows the listing of the free interfaces. -/
def Concludes (candidates : Candidates) (instanceId : String) (rest : List Called) :
    Except Error (List Interface) → Prop
  | .error _ => rest = []
  | .ok available =>
    match Decision.select? available candidates with
    | none => rest = []
    | some i => ∃ reply, rest = [⟨.provider (.attach i.interfaceId instanceId 1), reply⟩]

/-- **A bind, call by call**: what is attached is what the decision picks, and it has an address. -/
theorem calls_bindIn {ctx : Context} {es : List (Exchange pass)} {r : Except Error Bound}
    (h : (bindIn b ctx).Leads es (.done r)) :
    ∃ (reply : Except Error (List Interface)) (rest : List Called), Concludes ctx.candidates ctx.me.instanceId rest reply ∧
      calls es = ⟨.provider (.describeInterfaces (Inventory.availableFilter ctx.candidates ctx.me.subnetId)), reply⟩ ::
        rest := by
  rw [bindIn_eq] at h
  obtain ⟨(reply : Except Error (List Interface)), es, rfl, hl⟩ := leads_ask.1 h
  refine ⟨reply, calls es, ?_, rfl⟩
  match reply, hl with
  | .error e, hl =>
    obtain ⟨rfl, rfl⟩ := leads_done.1 hl
    rfl
  | .ok available, hl =>
    unfold Concludes
    dsimp only at hl ⊢
    cases hs : Decision.select? available ctx.candidates with
    | none =>
      rw [hs] at hl
      obtain ⟨_, es, rfl, hn⟩ := leads_ask.1 hl
      obtain ⟨rfl, rfl⟩ := leads_done.1 hn
      rfl
    | some i =>
      rw [hs] at hl
      obtain ⟨ip, hip, -⟩ := (Decision.chosen_of_best? hs).isCandidate
      dsimp only at hl
      rw [attach_eq ctx i hip] at hl
      obtain ⟨(reply : Except Error String), es, rfl, ha⟩ := leads_ask.1 hl
      refine ⟨reply, ?_⟩
      match reply, ha with
      | .error e, ha =>
        obtain ⟨rfl, rfl⟩ := leads_done.1 ha
        rfl
      | .ok id, ha =>
        obtain ⟨_, es, rfl, ho⟩ := leads_ask.1 ha
        obtain ⟨_, es, rfl, he⟩ := leads_ask.1 ho
        obtain ⟨rfl, rfl⟩ := leads_done.1 he
        rfl

theorem calls_bindIn_andThen {ctx : Context} {f : Bound → Program pass (Except Error Bool)} {es : List (Exchange pass)}
    {r : Except Error Bool} (hf : ∀ x, ∃ y, f x = .done y) (h : ((bindIn b ctx).andThen f).Leads es (.done r)) :
    ∃ (reply : Except Error (List Interface)) (rest : List Called), Concludes ctx.candidates ctx.me.instanceId rest reply ∧
      calls es = ⟨.provider (.describeInterfaces (Inventory.availableFilter ctx.candidates ctx.me.subnetId)), reply⟩ ::
        rest := by
  rcases leads_andThen h with ⟨e, -, hb⟩ | ⟨x, es, es', rfl, hb, hd⟩
  · exact calls_bindIn hb
  · obtain ⟨y, hy⟩ := hf x
    rw [hy] at hd
    obtain ⟨rfl, -⟩ := leads_done.1 hd
    rw [List.append_nil]
    exact calls_bindIn hb

/-! ## The calls of an attempt -/

/-- How the calls of an attempt go, where `mid` are those between the view and the listing: the attempt ends before the
listing, or the view finds no candidate address held and the listing concludes it. -/
inductive Decided (mid : List Called → Prop) : List Called → Prop where
  | undecided {cs : List Called} (h : (cs.any fun c => c.1.isDecisive) = false) : Decided mid cs
  | decided (v : Evidence) (k rest : List Called) (reply : Except Error (List Interface)) (hk : mid k)
      (hr : Candidates.ofEntries v.metadata.availabilityZone v.urls = .ok v.candidates)
      (hu : ∀ i ∈ v.me.interfaces, ¬ Decision.IsCandidate v.candidates i)
      (hrest : Concludes v.candidates v.me.instanceId rest reply) :
      Decided mid (v.view ++ k ++
        ⟨.provider (.describeInterfaces (Inventory.availableFilter v.candidates v.me.subnetId)), reply⟩ :: rest)

theorem calls_observeHeld {i : Interface} {es : List (Exchange pass)} {u : Unit}
    (h : (observeHeld i).Leads es (.done u)) : calls es = [] := by
  unfold observeHeld at h
  cases hip : i.privateIp with
  | none =>
    rw [hip] at h
    obtain ⟨rfl, -⟩ := leads_done.1 h
    rfl
  | some ip =>
    rw [hip] at h
    obtain ⟨_, es, rfl, hd⟩ := leads_ask.1 h
    obtain ⟨rfl, -⟩ := leads_done.1 hd
    rfl

/-- An attempt is decided when its view finds nothing held and the rest of its calls conclude it, or never come to. -/
theorem decided_andThen {mid : List Called → Prop} {f : Context → Program pass (Except Error Bool)}
    {es : List (Exchange pass)} {r : Except Error Bool} (h : ((context b).andThen f).Leads es (.done r))
    (hf : ∀ ctx es, (f ctx).Leads es (.done r) →
      ((calls es).any fun c => c.1.isDecisive) = false ∨
        ctx.boundInterface? = none ∧ ∃ k reply rest, mid k ∧ Concludes ctx.candidates ctx.me.instanceId rest reply ∧
          calls es = k ++ ⟨.provider (.describeInterfaces
            (Inventory.availableFilter ctx.candidates ctx.me.subnetId)), reply⟩ :: rest) :
    Decided mid (calls es) := by
  rcases leads_andThen h with ⟨e, -, hc⟩ | ⟨ctx, es, es', rfl, hc, hrest⟩
  · rcases calls_context hc with ⟨-, -, hq⟩ | ⟨v, hv, -⟩
    · exact .undecided hq
    · cases hv
  · rcases calls_context hc with ⟨e, he, -⟩ | ⟨v, hv, hr, hcalls⟩
    · cases he
    · obtain rfl := Except.ok.inj hv
      rw [calls_append, hcalls]
      rcases hf _ _ hrest with hq | ⟨hnone, k, reply, rest, hk, hconcl, hcalls'⟩
      · refine .undecided ?_
        rw [List.any_append, hq]
        rfl
      · rw [hcalls', ← List.append_assoc]
        exact .decided v k rest reply hk hr (Decision.best?_eq_none.1 hnone) hconcl

theorem decided_attempt {es : List (Exchange pass)} {r : Except Error Bool} (h : (attempt b).Leads es (.done r)) :
    Decided (· = []) (calls es) := by
  refine decided_andThen h fun ctx es hrest => ?_
  cases hbound : ctx.boundInterface? with
  | some i =>
    rw [hbound] at hrest
    obtain ⟨_, es, es', rfl, ho, hd⟩ := leads_bind.1 hrest
    obtain ⟨rfl, -⟩ := leads_done.1 hd
    rw [List.append_nil, calls_observeHeld ho]
    exact .inl rfl
  | none =>
    rw [hbound] at hrest
    obtain ⟨reply, rest, hconcl, hcalls⟩ := calls_bindIn_andThen (fun x => by cases x <;> exact ⟨_, rfl⟩) hrest
    exact .inr ⟨rfl, [], reply, rest, rfl, hconcl, hcalls⟩

theorem decided_reconcile {es : List (Exchange pass)} {r : Except Error Bool} (h : (reconcile b).Leads es (.done r)) :
    Decided (fun k => ∃ count, k = registry count) (calls es) := by
  refine decided_andThen h fun ctx es hrest => ?_
  cases hbound : ctx.boundInterface? with
  | some i =>
    rw [hbound] at hrest
    obtain ⟨_, es, es', rfl, ho, hd⟩ := leads_bind.1 hrest
    obtain ⟨rfl, -⟩ := leads_done.1 hd
    rw [List.append_nil, calls_observeHeld ho]
    exact .inl rfl
  | none =>
    rw [hbound] at hrest
    obtain ⟨_, es, rfl, hclear⟩ := leads_ask.1 hrest
    obtain ⟨(u : Except Error Unit), es, rfl, hsync⟩ := leads_ask.1 hclear
    match u, hsync with
    | .error e, hsync =>
      obtain ⟨rfl, -⟩ := leads_done.1 hsync
      exact .inl rfl
    | .ok (), hsync =>
      obtain ⟨(count : Except Error Nat), es, rfl, hopen⟩ := leads_ask.1 hsync
      match count, hopen with
      | .error e, hopen =>
        obtain ⟨rfl, -⟩ := leads_done.1 hopen
        exact .inl rfl
      | .ok count, hopen =>
        obtain ⟨(u : Except Error Unit), es, rfl, hemit⟩ := leads_ask.1 hopen
        match u, hemit with
        | .error e, hemit =>
          obtain ⟨rfl, -⟩ := leads_done.1 hemit
          exact .inl rfl
        | .ok (), hemit =>
          obtain ⟨_, es, rfl, hbind⟩ := leads_ask.1 hemit
          obtain ⟨reply, rest, hconcl, hcalls⟩ := calls_bindIn_andThen (fun x => ⟨_, rfl⟩) hbind
          exact .inr ⟨rfl, registry count, reply, rest, ⟨count, rfl⟩, hconcl, congrArg (registry count ++ ·) hcalls⟩

theorem decided_periodic {es : List (Exchange pass)} {delay : Nat} (h : (periodic b).Leads es (.done delay)) :
    Decided (fun k => ∃ count, k = registry count) (calls es) := by
  obtain ⟨r, es, es', rfl, hr, hc⟩ := leads_bind.1 h
  have hnone : calls es' = [] := by
    cases r with
    | error e =>
      obtain ⟨_, es', rfl, hn⟩ := leads_ask.1 hc
      obtain ⟨_, es', rfl, hd⟩ := leads_ask.1 hn
      obtain ⟨rfl, -⟩ := leads_done.1 hd
      rfl
    | ok bound =>
      obtain ⟨_, es', rfl, hn⟩ := leads_ask.1 hc
      obtain ⟨_, es', rfl, hd⟩ := leads_ask.1 hn
      obtain ⟨rfl, -⟩ := leads_done.1 hd
      rfl
  rw [calls_append, hnone, List.append_nil]
  exact decided_reconcile hr

/-! ## When, and what -/

section Decided

variable {mid : List Called → Prop} {n : Nat} {cs : List Called} {v : Evidence} {k : List Called}

theorem Evidence.eq_of_view {v w : Evidence} (h : v.view = w.view) :
    v.metadata = w.metadata ∧ v.urls = w.urls ∧ v.me = w.me := by
  obtain ⟨m, urls, candidates, me, available⟩ := v
  obtain ⟨m', urls', candidates', me', available'⟩ := w
  obtain ⟨hm, h⟩ := List.cons.inj h
  cases hm
  obtain ⟨hu, h⟩ := List.cons.inj h
  cases hu
  obtain ⟨hd, -⟩ := List.cons.inj h
  cases hd
  exact ⟨rfl, rfl, rfl⟩

/-- **Evidence in favour is followed by one attachment**, of the first of the best of the free interfaces. -/
theorem Decided.attaches (h : Decided mid cs) (hmid : ∀ k, mid k → k.length = n) (hk : mid k) (hv : v.Favours)
    (hpre : v.view ++ k ++ [v.listing] <+: cs) :
    ∃ i reply, Decision.Chosen v.candidates v.available i ∧ cs = v.view ++ k ++ [v.listing, v.attachment i reply] := by
  obtain ⟨t, ht⟩ := hpre
  cases h with
  | undecided h =>
    rw [← ht, List.any_append, List.any_append] at h
    simp [Evidence.listing, Call.isDecisive] at h
  | decided w k' rest reply hk' hr hu hrest =>
    rw [List.append_assoc] at ht
    obtain ⟨hviews, hlist⟩ := List.append_inj ht (by simp [Evidence.view, hmid k hk, hmid k' hk'])
    obtain ⟨hview, rfl⟩ := List.append_inj hviews rfl
    obtain ⟨v, urls, candidates, me, available⟩ := v
    obtain ⟨w, urls', candidates', me', available'⟩ := w
    obtain ⟨rfl, rfl, rfl⟩ := Evidence.eq_of_view hview
    obtain rfl : candidates = candidates' := Except.ok.inj (hv.resolved.symm.trans hr)
    obtain ⟨heq, rfl⟩ := List.cons.inj hlist
    cases heq
    obtain ⟨i, hi, hc⟩ := hv.free
    dsimp only [Concludes] at hrest
    cases hs : Decision.select? available candidates with
    | none => exact absurd hc (Decision.best?_eq_none.1 hs i hi)
    | some j =>
      rw [hs] at hrest
      obtain ⟨reply, rfl⟩ := hrest
      exact ⟨j, reply, Decision.chosen_of_best? hs, rfl⟩

theorem isDecisive_of_isAttach : ∀ {c : Call}, c.isAttach = true → c.isDecisive = true
  | .provider (.attach ..), _ => rfl

theorem any_isAttach (h : (cs.any fun c => c.1.isDecisive) = false) : (cs.any fun c => c.1.isAttach) = false := by
  rw [List.any_eq_false] at h ⊢
  exact fun c hc ha => h c hc (isDecisive_of_isAttach ha)

/-- **An attachment is preceded by evidence in favour.** -/
theorem Decided.favoured (h : Decided mid cs) (hmid : ∀ k, mid k → (k.any fun c => c.1.isDecisive) = false)
    (ha : (cs.any fun c => c.1.isAttach) = true) :
    ∃ (v : Evidence) (k : List Called), mid k ∧ v.Favours ∧ v.view ++ k ++ [v.listing] <+: cs := by
  cases h with
  | undecided h =>
    rw [any_isAttach h] at ha
    cases ha
  | decided w k rest reply hk hr hu hrest =>
    have hnone : rest = [] → False := by
      rintro rfl
      rw [List.any_append, List.any_append, any_isAttach (hmid k hk)] at ha
      cases ha
    match reply, hrest with
    | .error e, hrest => exact (hnone hrest).elim
    | .ok available, hrest =>
      dsimp only [Concludes] at hrest
      cases hs : Decision.select? available w.candidates with
      | none =>
        rw [hs] at hrest
        exact (hnone hrest).elim
      | some i =>
        obtain ⟨before, after, -, hl, -⟩ := Decision.chosen_of_best? hs
        have hi : i ∈ available := by
          rw [hl]
          exact List.mem_append_right _ List.mem_cons_self
        refine ⟨⟨w.metadata, w.urls, w.candidates, w.me, available⟩, k, hk, ⟨hr, hu, i, hi, ?_⟩, rest, ?_⟩
        · exact (Decision.chosen_of_best? hs).isCandidate
        · rw [List.append_assoc]
          rfl

end Decided

end Pass

namespace Lifecycle

open Program Pass

def calls (es : List (Exchange lifecycle)) : List Called := es.filterMap fun
  | ⟨.call c, reply⟩ => some ⟨c, reply⟩
  | _ => none

theorem calls_ofPass {α : Type} {a : α} : ∀ {p : Program pass α} {es : List (Exchange lifecycle)},
    (ofPass p).Leads es (.done a) → ∃ es', p.Leads es' (.done a) ∧ calls es = Pass.calls es'
  | .done a', es, h => by
    obtain ⟨rfl, rfl⟩ := leads_done.1 h
    exact ⟨[], .nil _, rfl⟩
  | .ask (.call c) k, es, h => by
    obtain ⟨(reply : c.Reply), es, rfl, hk⟩ := leads_ask.1 h
    obtain ⟨es', hes', hcalls⟩ := calls_ofPass (p := k reply) hk
    exact ⟨_, .cons (σ := pass) (r := .call c) reply hes', congrArg (List.cons (⟨c, reply⟩ : Called)) hcalls⟩
  | .ask (.note n) k, es, h => by
    obtain ⟨(reply : Unit), es, rfl, hk⟩ := leads_ask.1 h
    obtain ⟨es', hes', hcalls⟩ := calls_ofPass (p := k reply) hk
    exact ⟨_, .cons (σ := pass) (r := .note n) reply hes', hcalls⟩

variable {b : Binder} {es : List (Exchange lifecycle)}

theorem decided_startupAttempt {phase : Phase} {r : Except Error (Attempt Bool)}
    (h : (startupAttempt b).Leads (⟨.own (.control .phase), phase⟩ :: es) (.done r)) (hphase : phase.isTerminal = false) :
    Decided (· = []) (calls es) := by
  obtain ⟨(phase' : Phase), es', heq, hrest⟩ := leads_ask.1 h
  cases heq
  simp only [Program.done_bind, hphase, Bool.false_eq_true, if_false] at hrest
  obtain ⟨o, es, es', rfl, hp, hd⟩ := leads_bind.1 hrest
  obtain ⟨rfl, -⟩ := leads_done.1 hd
  obtain ⟨es', hes', hcalls⟩ := calls_ofPass hp
  rw [List.append_nil, hcalls]
  exact decided_attempt hes'

theorem decided_scheduledPass {r : Option Nat} (h : (scheduledPass b).Leads es (.done r)) :
    Decided (fun k => ∃ count, k = registry count) (calls es) := by
  obtain ⟨delay, es, es', rfl, hp, hd⟩ := leads_bind.1 h
  obtain ⟨rfl, -⟩ := leads_done.1 hd
  obtain ⟨es', hes', hcalls⟩ := calls_ofPass hp
  rw [List.append_nil, hcalls]
  exact decided_periodic hes'

/-- **The attach decision**, whatever the collaborators answer.  A startup attempt that does not find shutdown begun asks
for an attachment just when all its calls before succeeded, its view finds no candidate address held, and its listing
has a free one; then it asks once, at slot 1, for the first of the best of the listing, and that is its last call.  A
periodic pass does just so when it has also cleared and filled the registry and let the peers in between.  What the
decision picks always has an address. -/
theorem attach_decision (b : Binder) :
    (∀ (phase : Phase) (es : List (Exchange lifecycle)) (r : Except Error (Attempt Bool)),
      (startupAttempt b).Leads (⟨.own (.control .phase), phase⟩ :: es) (.done r) → phase.isTerminal = false →
        (((calls es).any fun c => c.1.isAttach) = true ↔
          ∃ v : Evidence, v.Favours ∧ v.view ++ [v.listing] <+: calls es) ∧
        ∀ v : Evidence, v.Favours → v.view ++ [v.listing] <+: calls es →
          ∃ i reply, Decision.Chosen v.candidates v.available i ∧
            calls es = v.view ++ [v.listing, v.attachment i reply]) ∧
    (∀ (es : List (Exchange lifecycle)) (r : Option Nat), (scheduledPass b).Leads es (.done r) →
        (((calls es).any fun c => c.1.isAttach) = true ↔
          ∃ (v : Evidence) (count : Nat), v.Favours ∧ v.view ++ registry count ++ [v.listing] <+: calls es) ∧
        ∀ (v : Evidence) (count : Nat), v.Favours → v.view ++ registry count ++ [v.listing] <+: calls es →
          ∃ i reply, Decision.Chosen v.candidates v.available i ∧
            calls es = v.view ++ registry count ++ [v.listing, v.attachment i reply]) ∧
    ∀ (candidates : Candidates) (available : List Interface) (i : Interface),
      Decision.select? available candidates = some i → i.privateIp ≠ none := by
  refine ⟨fun phase es r h hphase => ?_, fun es r h => ?_, fun candidates available i hi => ?_⟩
  · have hd := decided_startupAttempt h hphase
    have hattaches : ∀ v : Evidence, v.Favours → v.view ++ [v.listing] <+: calls es →
        ∃ i reply, Decision.Chosen v.candidates v.available i ∧
          calls es = v.view ++ [v.listing, v.attachment i reply] := fun v hv hpre =>
      hd.attaches (n := 0) (k := []) (fun k hk => by rw [hk]; rfl) rfl hv hpre
    refine ⟨⟨fun ha => ?_, fun ⟨v, hv, hpre⟩ => ?_⟩, hattaches⟩
    · obtain ⟨v, k, rfl, hv, hpre⟩ := hd.favoured (fun k hk => by rw [hk]; rfl) ha
      exact ⟨v, hv, hpre⟩
    · obtain ⟨i, reply, -, hcalls⟩ := hattaches v hv hpre
      rw [hcalls]
      rfl
  · have hd := decided_scheduledPass h
    have hattaches : ∀ (v : Evidence) (count : Nat), v.Favours → v.view ++ registry count ++ [v.listing] <+: calls es →
        ∃ i reply, Decision.Chosen v.candidates v.available i ∧
          calls es = v.view ++ registry count ++ [v.listing, v.attachment i reply] := fun v count hv hpre =>
      hd.attaches (n := 3) (k := registry count) (fun k ⟨_, hk⟩ => by rw [hk]; rfl) ⟨count, rfl⟩ hv hpre
    refine ⟨⟨fun ha => ?_, fun ⟨v, count, hv, hpre⟩ => ?_⟩, hattaches⟩
    · obtain ⟨v, k, ⟨count, rfl⟩, hv, hpre⟩ := hd.favoured (fun k ⟨_, hk⟩ => by rw [hk]; rfl) ha
      exact ⟨v, count, hv, hpre⟩
    · obtain ⟨i, reply, -, hcalls⟩ := hattaches v count hv hpre
      rw [hcalls]
      rfl
  · obtain ⟨ip, hip, -⟩ := (Decision.chosen_of_best? hi).isCandidate
    rw [hip]
    nofun

/-- An instance with nothing attached, and two free interfaces, of which the second has the first address. -/
def twoFree : Evidence where
  metadata := ⟨"i-1", "a"⟩
  urls := ["10.0.0.1", "10.0.0.2"]
  candidates := ⟨[⟨10, 0, 0, 1⟩, ⟨10, 0, 0, 2⟩]⟩
  me := ⟨"i-1", "s", []⟩
  available := [.free "eni-2" ⟨10, 0, 0, 2⟩ "s", .free "eni-1" ⟨10, 0, 0, 1⟩ "s"]

/-- A startup attempt that sees them. -/
def twoFreeRun : List (Exchange lifecycle) :=
  [⟨.call .metadata, .ok ⟨"i-1", "a"⟩⟩, ⟨.call (.serviceUrls "a"), .ok ["10.0.0.1", "10.0.0.2"]⟩,
    ⟨.call (.provider (.describeInstance "i-1")), .ok (some ⟨"i-1", "s", []⟩)⟩,
    ⟨.call (.provider (.describeInterfaces ⟨[⟨10, 0, 0, 1⟩, ⟨10, 0, 0, 2⟩], some .available, some "s"⟩)),
      .ok [.free "eni-2" ⟨10, 0, 0, 2⟩ "s", .free "eni-1" ⟨10, 0, 0, 1⟩ "s"]⟩,
    ⟨.call (.provider (.attach "eni-1" "i-1" 1)), .ok "eni-attach-1"⟩,
    ⟨.own (.note (.observe (.bound ⟨10, 0, 0, 1⟩))), ()⟩,
    ⟨.own (.note (.emit (.attached "eni-1" ⟨10, 0, 0, 1⟩ "eni-attach-1"))), ()⟩]

theorem attach_decision_of_two_free : ∃ i reply, Decision.Chosen twoFree.candidates twoFree.available i ∧
    calls twoFreeRun = twoFree.view ++ [twoFree.listing, twoFree.attachment i reply] := by
  have hrun : (startupAttempt ⟨.default, "memory"⟩).Leads (⟨.own (.control .phase), Phase.unbound⟩ :: twoFreeRun)
      (.done (.ok (.done true))) := by
    refine .cons _ (.cons _ (.cons _ ?_))
    exact .cons _ (.cons _ (.cons _ (.cons _ (.cons _ (.nil _)))))
  have hfavours : twoFree.Favours :=
    ⟨rfl, nofun, _, List.mem_cons_self, ⟨10, 0, 0, 2⟩, rfl, List.mem_cons_of_mem _ List.mem_cons_self⟩
  exact ((attach_decision ⟨.default, "memory"⟩).1 .unbound twoFreeRun _ hrun rfl).2 twoFree hfavours ⟨_, rfl⟩

end Lifecycle
end AddressBinder
