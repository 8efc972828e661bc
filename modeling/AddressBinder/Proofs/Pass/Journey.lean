import AddressBinder.Proofs.Lifecycle.Memoryless
/-!
# The way of a pass

A pass calls its collaborators one after the other, and each call is made of what the ones before yielded
(`Journey.calls`).  Where a run leaves that way it ends, and there are four ends (`Goes`): a call that gave nothing to go
on with, a candidate address that is held, no interface that is free, or the last call done.  What a pass returns and
records is read off the end alone (`runs_of_pass`).
-/
namespace AddressBinder
namespace Pass

open Program

/-! ## Failed calls -/

/-- The failure of a call of the provider, as the inventory reports it. -/
def reported (backend : String) : ProviderCall → Error → Error
  | .describeInstance _ | .describeInterfaces _ => Inventory.queryError backend
  | .attach interfaceId .. => Inventory.attachError interfaceId
  | .detach attachmentId => Inventory.detachError attachmentId

/-- The failure that a pass ends with when the reply to a call gives it nothing to go on with.  The addresses of a zone
have to resolve to candidates, and the instance has to be there. -/
def failure? (b : Binder) : (c : Call) → c.Reply → Option Error
  | .serviceUrls zone, .ok urls =>
    match Candidates.ofEntries zone urls with
    | .error e => some e
    | .ok _ => none
  | .provider (.describeInstance id), .ok none => some (.notFound ("instance " ++ id))
  | .provider call, .error e => some (reported b.backend call e)
  | _, .error e => some e
  | _, .ok _ => none

/-- Whether a call asked for an attachment and got it. -/
def isGrant : Called → Bool
  | ⟨.provider (.attach ..), .ok _⟩ => true
  | _ => false

/-! ## The way -/

/-- What a pass comes by that goes all the way. -/
structure Journey extends Evidence where
  chosen : Interface
  attachmentId : String
deriving Inhabited

namespace Journey

/-- The calls of a pass that goes all the way, with `mid` between the view and the listing. -/
def calls (j : Journey) (mid : List Called) : List Called :=
  j.view ++ mid ++ [j.listing, j.attachment j.chosen (.ok j.attachmentId)]

/-- What has to be the case for the first `n` calls to be made: the candidates are those that the URLs of the zone name,
no candidate address is held, and the interface is the first of the best of those that are free. -/
structure Sound (j : Journey) (mid : List Called) (n : Nat) : Prop where
  resolved : 3 ≤ n → Candidates.ofEntries j.metadata.availabilityZone j.urls = .ok j.candidates
  unheld : 4 ≤ n → ∀ i ∈ j.me.interfaces, ¬ Decision.IsCandidate j.candidates i
  chosen : mid.length + 5 ≤ n → Decision.Chosen j.candidates j.available j.chosen

end Journey

/-- How a pass ends. -/
inductive Ending where
  /-- A call gave nothing to go on with. -/
  | failed (e : Error)
  /-- A candidate address is held. -/
  | held
  /-- No interface qualifies. -/
  | noneFree
  | attached
deriving DecidableEq

/-- Some calls are those of a journey as far as it came: up to a call that failed, or to one of the places where the way
may end. -/
inductive Goes (b : Binder) (mid : List Called) (j : Journey) : Ending → List Called → Prop where
  | failed (before after : List Called) (c : Called) (hcalls : j.calls mid = before ++ c :: after) (reply : c.1.Reply)
      (e : Error) (hfailure : failure? b c.1 reply = some e) (hsound : j.Sound mid (before.length + 1)) :
      Goes b mid j (.failed e) (before ++ [⟨c.1, reply⟩])
  | held (hsound : j.Sound mid 3) (i : Interface) (hi : i ∈ j.me.interfaces)
      (hcandidate : Decision.IsCandidate j.candidates i) : Goes b mid j .held j.view
  | noneFree (hsound : j.Sound mid (mid.length + 4)) (hnone : ∀ i ∈ j.available, ¬ Decision.IsCandidate j.candidates i) :
      Goes b mid j .noneFree (j.view ++ mid ++ [j.listing])
  | attached (hsound : j.Sound mid (mid.length + 5)) : Goes b mid j .attached (j.calls mid)

namespace Ending

/-- The failure that a pass ended with, if it failed. -/
def error? : Ending → Option Error
  | .failed e => some e
  | _ => none

/-- Whether the instance holds a candidate address in the end. -/
def isBound : Ending → Bool
  | .held | .attached => true
  | _ => false

/-- What an attempt to be bound returns. -/
def attempted : Ending → Except Error Bool
  | .failed e => .error e
  | .held | .attached => .ok true
  | .noneFree => .ok false

/-- What a reconciliation returns. -/
def reconciled : Ending → Except Error Bool
  | .failed e => .error e
  | .held => .ok true
  | .noneFree | .attached => .ok false

/-- What a bind returns about its end. -/
def OfBound : Except Error Bound → Ending → Prop
  | .error e, ending => ending = .failed e
  | .ok (.attached ..), ending => ending = .attached
  | .ok .noneAvailable, ending => ending = .noneFree

end Ending

/-! ## The way of the parts -/

section Parts

variable {b : Binder} {mid : List Called} {es : List (Exchange pass)} {v : Evidence}

/-- **A view that fails**, call by call. -/
theorem goes_context {e : Error} (h : (context b).Leads es (.done (.error e))) :
    ∃ j, Goes b mid j (.failed e) (calls es) := by
  rw [context_eq] at h
  obtain ⟨(m : Except Error InstanceMetadata), es, rfl, hm⟩ := leads_ask.1 h
  match m, hm with
  | .error e', hm =>
    obtain ⟨rfl, heq⟩ := leads_done.1 hm
    cases heq
    exact ⟨default, .failed [] _ ⟨.metadata, _⟩ rfl (.error e) e rfl ⟨by simp, by simp, by simp⟩⟩
  | .ok m, hm =>
    obtain ⟨(urls : Except Error (List String)), es, rfl, hu⟩ := leads_ask.1 hm
    let j : Journey := { (default : Journey) with metadata := m }
    match urls, hu with
    | .error e', hu =>
      obtain ⟨rfl, heq⟩ := leads_done.1 hu
      cases heq
      exact ⟨j, .failed [_] _ ⟨.serviceUrls m.availabilityZone, _⟩ rfl (.error e) e rfl ⟨by simp, by simp, by simp⟩⟩
    | .ok urls, hu =>
      dsimp only at hu
      cases hc : Candidates.ofEntries m.availabilityZone urls with
      | error e' =>
        rw [hc] at hu
        obtain ⟨rfl, heq⟩ := leads_done.1 hu
        cases heq
        refine ⟨j, .failed [_] _ ⟨.serviceUrls m.availabilityZone, _⟩ rfl (.ok urls) e ?_ ⟨by simp, by simp, by simp⟩⟩
        simp only [failure?, hc]
      | ok candidates =>
        rw [hc] at hu
        obtain ⟨(d : Except Error (Option InstanceDescription)), es, rfl, hd⟩ := leads_ask.1 hu
        let j : Journey := { (default : Journey) with metadata := m, urls, candidates }
        obtain ⟨rfl, heq⟩ := leads_done.1 hd
        match d with
        | .error e' =>
          cases heq
          exact ⟨j, .failed [_, _] _ ⟨.provider (.describeInstance m.instanceId), _⟩ rfl (.error e') _ rfl
            ⟨fun _ => hc, by simp, by simp⟩⟩
        | .ok none =>
          cases heq
          exact ⟨j, .failed [_, _] _ ⟨.provider (.describeInstance m.instanceId), _⟩ rfl (.ok none) _ rfl
            ⟨fun _ => hc, by simp, by simp⟩⟩
        | .ok (some _) => cases heq

/-- What a view leaves for a bind. -/
def Evidence.context (v : Evidence) : Context :=
  ⟨⟨v.me.instanceId, v.metadata.availabilityZone, v.me.subnetId, v.me.interfaces⟩, v.candidates⟩

/-- The evidence of a view in which no candidate address is held. -/
structure Evidence.Unheld (v : Evidence) : Prop where
  resolved : Candidates.ofEntries v.metadata.availabilityZone v.urls = .ok v.candidates
  unheld : ∀ i ∈ v.me.interfaces, ¬ Decision.IsCandidate v.candidates i

/-- **A bind, call by call**, after a view in which no candidate address is held. -/
theorem goes_bindIn (mid : List Called) {r : Except Error Bound} (hv : v.Unheld) (h : (bindIn b v.context).Leads es (.done r)) :
    ∃ j ending, Goes b mid j ending (v.view ++ mid ++ calls es) ∧ Ending.OfBound r ending := by
  rw [bindIn_eq] at h
  obtain ⟨(reply : Except Error (List Interface)), es, rfl, hl⟩ := leads_ask.1 h
  have hlength : (v.view ++ mid).length = mid.length + 3 := by
    simp only [Evidence.view, List.length_append, List.length_cons, List.length_nil]
    omega
  cases reply with
  | error e =>
    obtain ⟨rfl, rfl⟩ := leads_done.1 hl
    refine ⟨⟨v, default, default⟩, _, .failed (v.view ++ mid) _ v.listing rfl (.error e) _ rfl ?_, rfl⟩
    exact ⟨fun _ => hv.resolved, fun _ => hv.unheld, by rw [hlength]; omega⟩
  | ok available =>
    let w : Evidence := { v with available }
    dsimp only at hl
    cases hs : Decision.select? available v.candidates with
    | none =>
      simp only [Evidence.context, hs] at hl
      obtain ⟨_, es, rfl, hn⟩ := leads_ask.1 hl
      obtain ⟨rfl, rfl⟩ := leads_done.1 hn
      refine ⟨⟨w, default, default⟩, .noneFree, .noneFree ?_ (Decision.best?_eq_none.1 hs), rfl⟩
      exact ⟨fun _ => hv.resolved, fun _ => hv.unheld, by omega⟩
    | some i =>
      simp only [Evidence.context, hs] at hl
      have hchosen := Decision.chosen_of_best? hs
      obtain ⟨ip, hip, -⟩ := hchosen.isCandidate
      rw [attach_eq _ i hip] at hl
      obtain ⟨(reply : Except Error String), es, rfl, ha⟩ := leads_ask.1 hl
      cases reply with
      | error e =>
        obtain ⟨rfl, rfl⟩ := leads_done.1 ha
        have hcalls : Journey.calls ⟨w, i, default⟩ mid =
            (v.view ++ mid ++ [w.listing]) ++ [w.attachment i (.ok default)] := by
          rw [List.append_assoc]
          rfl
        have hgoes : Goes b mid ⟨w, i, default⟩ _ ((v.view ++ mid ++ [w.listing]) ++ [w.attachment i (.error e)]) :=
          .failed _ [] _ hcalls (.error e) _ rfl ⟨fun _ => hv.resolved, fun _ => hv.unheld, fun _ => hchosen⟩
        rw [List.append_assoc] at hgoes
        exact ⟨_, _, hgoes, rfl⟩
      | ok id =>
        obtain ⟨_, es, rfl, ho⟩ := leads_ask.1 ha
        obtain ⟨_, es, rfl, he⟩ := leads_ask.1 ho
        obtain ⟨rfl, rfl⟩ := leads_done.1 he
        refine ⟨⟨w, i, id⟩, .attached, ?_, rfl⟩
        exact .attached ⟨fun _ => hv.resolved, fun _ => hv.unheld, fun _ => hchosen⟩

theorem calls_held {i : Interface} {r r' : Except Error Bool}
    (h : ((observeHeld i).bind fun _ => .done r').Leads es (.done r)) : calls es = [] ∧ r = r' := by
  obtain ⟨_, es, es', rfl, ho, hd⟩ := leads_bind.1 h
  obtain ⟨rfl, rfl⟩ := leads_done.1 hd
  rw [List.append_nil]
  exact ⟨calls_observeHeld ho, rfl⟩

theorem Evidence.Unheld.boundInterface? (h : v.Unheld) : v.context.boundInterface? = none :=
  Decision.best?_eq_none.2 h.unheld

/-- **What begins with a view** fails there, or finds a candidate address held and is over, or goes on without one. -/
theorem goes_andThen {M : List Called → Prop} {R : Ending → Except Error Bool}
    {f : Context → Program pass (Except Error Bool)} {r : Except Error Bool} (hmid : ∃ mid, M mid)
    (hfailed : ∀ e, R (.failed e) = .error e) (hheld : R .held = .ok true)
    (hsome : ∀ ctx i, ctx.boundInterface? = some i → f ctx = (observeHeld i).bind fun _ => .done (.ok true))
    (hnone : ∀ (v : Evidence) es, v.Unheld → (f v.context).Leads es (.done r) →
      ∃ mid j ending, M mid ∧ Goes b mid j ending (v.view ++ calls es) ∧ r = R ending)
    (h : ((Pass.context b).andThen f).Leads es (.done r)) :
    ∃ mid j ending, M mid ∧ Goes b mid j ending (calls es) ∧ r = R ending := by
  obtain ⟨mid, hmid⟩ := hmid
  rcases leads_andThen h with ⟨e, rfl, hc⟩ | ⟨ctx, es, es', rfl, hc, hrest⟩
  · obtain ⟨j, hj⟩ := goes_context hc
    exact ⟨mid, j, _, hmid, hj, (hfailed e).symm⟩
  · rcases calls_context hc with ⟨e, he, -⟩ | ⟨v, hv, hresolved, hview⟩
    · cases he
    · obtain rfl : ctx = v.context := Except.ok.inj hv
      rw [calls_append, hview]
      cases hbound : v.context.boundInterface? with
      | none => exact hnone v es' ⟨hresolved, Decision.best?_eq_none.1 hbound⟩ hrest
      | some i =>
        rw [hsome _ i hbound] at hrest
        obtain ⟨hcalls, rfl⟩ := calls_held hrest
        have hchosen := Decision.chosen_of_best? hbound
        rw [hcalls, List.append_nil]
        refine ⟨mid, ⟨v, default, default⟩, .held, hmid, .held ?_ i hchosen.mem hchosen.isCandidate, hheld.symm⟩
        exact ⟨fun _ => hresolved, by omega, by omega⟩

/-- **An attempt to be bound, call by call.** -/
theorem goes_attempt {r : Except Error Bool} (h : (attempt b).Leads es (.done r)) :
    ∃ j ending, Goes b [] j ending (calls es) ∧ r = ending.attempted := by
  have hbind : ∀ (v : Evidence) (es : List (Exchange pass)) (f : Bound → Program pass (Except Error Bool)),
      (∀ x ending, Ending.OfBound (.ok x) ending → f x = .done ending.attempted) → v.Unheld →
      ((bindIn b v.context).andThen f).Leads es (.done r) →
      ∃ mid j ending, mid = [] ∧ Goes b mid j ending (v.view ++ calls es) ∧ r = ending.attempted := by
    intro v es f hf hv h
    rcases leads_andThen h with ⟨e, rfl, hb⟩ | ⟨x, es, es', rfl, hb, hd⟩
    · obtain ⟨j, ending, hgoes, rfl⟩ := goes_bindIn [] hv hb
      exact ⟨[], j, _, rfl, hgoes, rfl⟩
    · obtain ⟨j, ending, hgoes, hending⟩ := goes_bindIn [] hv hb
      rw [hf x ending hending] at hd
      obtain ⟨rfl, hr⟩ := leads_done.1 hd
      rw [List.append_nil] at hgoes ⊢
      exact ⟨[], j, ending, rfl, hgoes, hr⟩
  obtain ⟨_, j, ending, rfl, hgoes, hr⟩ := goes_andThen (M := (· = [])) (R := Ending.attempted) ⟨[], rfl⟩
    (fun _ => rfl) rfl (fun ctx i hi => by rw [hi]) (fun v es hv h => by
      rw [hv.boundInterface?] at h
      refine hbind v es _ (fun x ending hending => ?_) hv h
      cases x with
      | attached | noneAvailable =>
        obtain rfl : ending = _ := hending
        rfl) h
  exact ⟨j, ending, hgoes, hr⟩

/-- **A rebind, call by call**, after a view in which no candidate address is held. -/
theorem goes_rebind {r : Except Error Bool} (hv : v.Unheld) (h : (rebind b v.context).Leads es (.done r)) :
    ∃ count j ending, Goes b (registry count) j ending (v.view ++ calls es) ∧ r = ending.reconciled := by
  have hsound : ∀ {n : Nat} {mid : List Called}, n ≤ mid.length + 4 → Journey.Sound ⟨v, default, default⟩ mid n :=
    fun hn => ⟨fun _ => hv.resolved, fun _ => hv.unheld, by omega⟩
  obtain ⟨_, es, rfl, hclear⟩ := leads_ask.1 h
  obtain ⟨(cleared : Except Error Unit), es, rfl, hsync⟩ := leads_ask.1 hclear
  cases cleared with
  | error e =>
    obtain ⟨rfl, rfl⟩ := leads_done.1 hsync
    exact ⟨default, _, _, .failed v.view _ ⟨.clearRegistry, _⟩ rfl (.error e) e rfl (hsound (by simp [Evidence.view, registry])), rfl⟩
  | ok _ =>
    obtain ⟨(filled : Except Error Nat), es, rfl, hopen⟩ := leads_ask.1 hsync
    cases filled with
    | error e =>
      obtain ⟨rfl, rfl⟩ := leads_done.1 hopen
      exact ⟨default, _, _, .failed (v.view ++ [_]) _ ⟨.syncUp, _⟩ rfl (.error e) e rfl (hsound (by simp [Evidence.view, registry])), rfl⟩
    | ok count =>
      obtain ⟨(opened : Except Error Unit), es, rfl, hemit⟩ := leads_ask.1 hopen
      cases opened with
      | error e =>
        obtain ⟨rfl, rfl⟩ := leads_done.1 hemit
        exact ⟨count, _, _, .failed (v.view ++ [_, _]) _ ⟨.openForTraffic count, _⟩ rfl (.error e) e rfl
          (hsound (by simp [Evidence.view, registry])), rfl⟩
      | ok _ =>
        obtain ⟨_, es, rfl, hbind⟩ := leads_ask.1 hemit
        rcases leads_andThen hbind with ⟨e, rfl, hb⟩ | ⟨x, es, es', rfl, hb, hd⟩
        · obtain ⟨j, ending, hgoes, rfl⟩ := goes_bindIn (registry count) hv hb
          exact ⟨count, j, _, hgoes, rfl⟩
        · obtain ⟨rfl, rfl⟩ := leads_done.1 hd
          obtain ⟨j, ending, hgoes, hending⟩ := goes_bindIn (registry count) hv hb
          refine ⟨count, j, ending, by rwa [List.append_nil], ?_⟩
          cases x with
          | attached | noneAvailable =>
            obtain rfl : ending = _ := hending
            rfl

/-- **A reconciliation, call by call.** -/
theorem goes_reconcile {r : Except Error Bool} (h : (reconcile b).Leads es (.done r)) :
    ∃ count j ending, Goes b (registry count) j ending (calls es) ∧ r = ending.reconciled := by
  obtain ⟨_, j, ending, ⟨count, rfl⟩, hgoes, hr⟩ :=
    goes_andThen (M := fun mid => ∃ count, mid = registry count) (R := Ending.reconciled) ⟨_, 0, rfl⟩ (fun _ => rfl) rfl
      (fun ctx i hi => by rw [hi]) (fun v es hv h => by
        rw [hv.boundInterface?] at h
        obtain ⟨count, j, ending, hgoes, hr⟩ := goes_rebind hv h
        exact ⟨_, j, ending, ⟨count, rfl⟩, hgoes, hr⟩) h
  exact ⟨count, j, ending, hgoes, hr⟩

end Parts

/-! ## What the way tells -/

theorem Journey.succeeds {b : Binder} {mid : List Called} {j : Journey} (hmid : ∀ c ∈ mid, failure? b c.1 c.2 = none)
    (h : Candidates.ofEntries j.metadata.availabilityZone j.urls = .ok j.candidates) :
    ∀ c ∈ j.calls mid, failure? b c.1 c.2 = none := by
  intro c hc
  simp only [calls, Evidence.view, List.mem_append, List.mem_cons, List.not_mem_nil, or_false] at hc
  rcases hc with ((rfl | rfl | rfl) | hc) | rfl | rfl
  · rfl
  · simp only [failure?, h]
  · rfl
  · exact hmid c hc
  · rfl
  · rfl

theorem registry_succeeds {b : Binder} (count : Nat) : ∀ c ∈ registry count, failure? b c.1 c.2 = none := by
  intro c hc
  simp only [registry, List.mem_cons, List.not_mem_nil, or_false] at hc
  rcases hc with rfl | rfl | rfl <;> rfl

namespace Goes

variable {b : Binder} {mid : List Called} {j : Journey} {ending : Ending} {cs : List Called}

/-- The calls made are the first of the way. -/
theorem prefix_calls (h : Goes b mid j ending cs) : cs.map Sigma.fst <+: (j.calls mid).map Sigma.fst := by
  cases h with
  | failed before after c hcalls reply e hfailure hsound =>
    rw [hcalls]
    exact ⟨after.map Sigma.fst, by simp⟩
  | held =>
    unfold Journey.calls
    rw [List.append_assoc]
    exact (List.prefix_append _ _).map _
  | noneFree => exact ⟨[(j.attachment j.chosen (.ok j.attachmentId)).1], by simp [Journey.calls]⟩
  | attached => exact List.prefix_rfl

/-- **All calls succeed, but for one that fails and is the last.** -/
theorem succeeds (hmid : ∀ c ∈ mid, failure? b c.1 c.2 = none) (h : Goes b mid j ending cs) :
    ∃ init last, cs = init ++ [last] ∧ (∀ c ∈ init, failure? b c.1 c.2 = none) ∧
      failure? b last.1 last.2 = ending.error? := by
  cases h with
  | failed before after c hcalls reply e hfailure hsound =>
    refine ⟨before, _, rfl, fun d hd => ?_, hfailure⟩
    match before, hcalls, hsound, hd with
    | [d'], hcalls, hsound, hd =>
      obtain rfl := List.mem_singleton.1 hd
      obtain ⟨rfl, -⟩ := List.cons.inj hcalls
      rfl
    | d₁ :: d₂ :: rest, hcalls, hsound, hd =>
      refine Journey.succeeds hmid (hsound.resolved (by simp)) d ?_
      rw [hcalls]
      exact List.mem_append_left _ hd
  | held hsound =>
    have hall := Journey.succeeds hmid (hsound.resolved (Nat.le_refl 3))
    exact ⟨[_, _], _, rfl, fun d hd => hall d (List.mem_append_left _ (List.mem_append_left _
      (List.mem_append_left [_] hd))), rfl⟩
  | noneFree hsound =>
    have hall := Journey.succeeds hmid (hsound.resolved (by omega))
    exact ⟨_, _, rfl, fun d hd => hall d (List.mem_append_left _ hd), rfl⟩
  | attached hsound =>
    have hall := Journey.succeeds hmid (hsound.resolved (by omega))
    refine ⟨j.view ++ mid ++ [j.listing], j.attachment j.chosen (.ok j.attachmentId), ?_, fun d hd => hall d ?_, rfl⟩
    · simp [Journey.calls]
    · simp only [Journey.calls, List.mem_append, List.mem_cons, List.not_mem_nil, or_false] at hd ⊢
      grind

theorem resolved (h : Goes b mid j ending cs) (hlength : 3 ≤ cs.length) :
    Candidates.ofEntries j.metadata.availabilityZone j.urls = .ok j.candidates := by
  cases h with
  | failed before after c hcalls reply e hfailure hsound => exact hsound.resolved (by simpa using hlength)
  | held hsound | noneFree hsound | attached hsound => exact hsound.resolved (by omega)

/-- **A listing asks for the available interfaces of the subnet with the addresses that were resolved**, of which there
is one. -/
theorem listing (hmid : ∀ c ∈ mid, c.1.isDecisive = false) (h : Goes b mid j ending cs) {filter : InterfaceFilter}
    {reply : (Call.provider (.describeInterfaces filter)).Reply}
    (hc : ⟨.provider (.describeInterfaces filter), reply⟩ ∈ cs) :
    filter = ⟨j.candidates.addresses, some .available, some j.me.subnetId⟩ ∧ filter.privateIps ≠ [] ∧
      Candidates.ofEntries j.metadata.availabilityZone j.urls = .ok j.candidates := by
  have hmem : Call.provider (.describeInterfaces filter) ∈ cs.map Sigma.fst := List.mem_map_of_mem hc
  have hfilter : filter = ⟨j.candidates.addresses, some .available, some j.me.subnetId⟩ := by
    obtain ⟨c, hc, heq⟩ := List.mem_map.1 (h.prefix_calls.mem hmem)
    simp only [Journey.calls, Evidence.view, List.mem_append, List.mem_cons, List.not_mem_nil, or_false] at hc
    rcases hc with ((rfl | rfl | rfl) | hc) | rfl | rfl
    · cases heq
    · cases heq
    · cases heq
    · have hnot := hmid c hc
      rw [heq] at hnot
      cases hnot
    · cases heq
      rfl
    · cases heq
  have hlength : 3 ≤ cs.length := by
    refine Nat.le_of_not_lt fun hlt => ?_
    have hfirst : cs.map Sigma.fst <+: [.metadata, .serviceUrls j.metadata.availabilityZone] :=
      List.prefix_of_prefix_length_le h.prefix_calls ⟨_, rfl⟩ (by simpa using Nat.le_of_lt_succ hlt)
    simpa using hfirst.mem hmem
  have hresolved := h.resolved hlength
  exact ⟨hfilter, by rw [hfilter]; exact addresses_ne_nil hresolved, hresolved⟩

/-- A way without detachments goes without them. -/
theorem not_isDetach (hmid : ∀ c ∈ mid, c.1.isDetach = false) (h : Goes b mid j ending cs) :
    ∀ c ∈ cs, c.1.isDetach = false := by
  intro c hc
  obtain ⟨d, hd, heq⟩ := List.mem_map.1 (h.prefix_calls.mem (List.mem_map_of_mem (f := Sigma.fst) hc))
  rw [← heq]
  simp only [Journey.calls, Evidence.view, List.mem_append, List.mem_cons, List.not_mem_nil, or_false] at hd
  rcases hd with ((rfl | rfl | rfl) | hd) | rfl | rfl
  · rfl
  · rfl
  · rfl
  · exact hmid d hd
  · rfl
  · rfl

/-- **A call that attaches is the last one**, and the instance is bound in the end. -/
theorem grants (h : Goes b [] j ending cs) : (∀ c ∈ cs.dropLast, isGrant c = false) ∧
    (ending.isBound = false → ∀ c ∈ cs, isGrant c = false) := by
  have hway : ∀ c ∈ (j.calls []).dropLast, isGrant c = false := by
    simp [Journey.calls, Evidence.view, Evidence.listing, isGrant]
  cases h with
  | failed before after c hcalls reply e hfailure hsound =>
    have hbefore : ∀ d ∈ before, isGrant d = false := fun d hd => hway d (by
      rw [hcalls, List.dropLast_append_of_ne_nil (List.cons_ne_nil _ _)]
      exact List.mem_append_left _ hd)
    refine ⟨by simpa using hbefore, fun _ d hd => ?_⟩
    rcases List.mem_append.1 hd with hd | hd
    · exact hbefore d hd
    · obtain rfl := List.mem_singleton.1 hd
      -- a call that attached has not failed
      obtain ⟨call, yielded⟩ := c
      unfold isGrant
      split
      · rename_i heq
        cases heq
        cases hfailure
      · rfl
  | held => exact ⟨by simp [Evidence.view, isGrant], fun h => by cases h⟩
  | noneFree => exact ⟨by simp [Evidence.view, isGrant], fun _ => by simp [Evidence.view, Evidence.listing, isGrant]⟩
  | attached => exact ⟨hway, fun h => by cases h⟩

end Goes

theorem registry_asks (count : Nat) : ∀ c ∈ registry count, c.1.isDecisive = false ∧ c.1.isDetach = false := by
  intro c hc
  simp only [registry, List.mem_cons, List.not_mem_nil, or_false] at hc
  rcases hc with rfl | rfl | rfl <;> exact ⟨rfl, rfl⟩

/-! ## What a pass records -/

/-- The result of a pass that a request records. -/
def Request.record? : Request → Option (Option String)
  | .note (.observe (.pass failure)) => some failure
  | _ => none

/-- The results of passes that are recorded, each with the text of its failure if it failed. -/
def recorded (es : List (Exchange pass)) : List (Option String) := es.filterMap fun e => e.1.record?

/-- Anything may come but the record of a result. -/
def unrecorded : Protocol pass Unit := fun _ r _ => if r.record?.isSome then none else some ()

theorem recorded_of_follow? {t : Unit} : ∀ {es : List (Exchange pass)}, follow? unrecorded () es = some t → recorded es = []
  | [], _ => rfl
  | e :: es, h => by
    obtain ⟨u, hu, h⟩ := Option.bind_eq_some_iff.1 h
    unfold recorded
    rw [List.filterMap_cons]
    cases hr : e.1.record? with
    | none => exact recorded_of_follow? h
    | some failure =>
      unfold unrecorded at hu
      rw [hr] at hu
      cases hu

theorem keeps_reconcile (b : Binder) : (reconcile b).Keeps unrecorded (fun _ _ => True) () := by
  have hbinds : ∀ n, Binds unrecorded n () () () := fun n =>
    ⟨fun _ _ => rfl, fun _ _ _ => rfl, fun _ => rfl, fun _ _ _ => rfl, fun _ => rfl⟩
  unfold reconcile
  refine keeps_andThen.2 ((keeps_context (s := ()) ⟨fun _ => rfl, fun _ _ _ _ _ => rfl⟩).mono fun r _ _ => ?_)
  match r with
  | .error _ => trivial
  | .ok ctx =>
    dsimp only
    cases ctx.boundInterface? with
    | some i => exact keeps_bind.2 ((keeps_observeHeld (fun _ => rfl) i).mono fun _ _ _ => trivial)
    | none =>
      refine (keeps_rebind (r := ()) ?_ (hbinds _)).mono fun _ _ _ => trivial
      exact ⟨rfl, fun _ => rfl, fun _ => rfl, fun _ _ => rfl, fun _ => rfl⟩

/-- How a run of a pass goes: its calls are those of the way up to an end, and the end tells what it returns and what it
records. -/
theorem goes_periodic {b : Binder} {es : List (Exchange pass)} {delay : Nat} (h : (periodic b).Leads es (.done delay)) :
    ∃ count j ending, Goes b (registry count) j ending (calls es) ∧ delay = nextDelay b (ending = .held) ∧
      recorded es = [ending.error?.map Error.message] := by
  obtain ⟨r, es, es', rfl, hr, hc⟩ := leads_bind.1 h
  obtain ⟨count, j, ending, hgoes, rfl⟩ := goes_reconcile hr
  obtain ⟨t, ht, -⟩ := (keeps_reconcile b).follow hr
  have hcut : recorded (es ++ es') = recorded es' := by
    unfold recorded
    rw [List.filterMap_append]
    exact congrArg (· ++ _) (recorded_of_follow? ht)
  rw [calls_append, hcut]
  cases ending with
  | failed | held | noneFree | attached =>
    obtain ⟨_, es', rfl, hn⟩ := leads_ask.1 hc
    obtain ⟨_, es', rfl, hd⟩ := leads_ask.1 hn
    obtain ⟨rfl, rfl⟩ := leads_done.1 hd
    exact ⟨count, j, _, by rwa [calls_note, calls_note, calls_nil, List.append_nil], rfl, rfl⟩

end Pass

namespace Collaborators

open Program Pass

variable {ω : Collaborators} {α : Type}

/-- A program goes through a run in which its collaborators answer. -/
theorem exists_leads (ω : Collaborators) : ∀ (p : Program pass α) (cs : List Called), ω.Gave cs →
    ∃ es a, p.Leads es (.done a) ∧ ω.Gave (cs ++ calls es)
  | .done a, cs, h => ⟨[], a, .nil _, by rwa [calls_nil, List.append_nil]⟩
  | .ask (.note n) k, cs, h => by
    obtain ⟨es, a, hes, hgave⟩ := exists_leads ω (k ()) cs h
    exact ⟨_, a, .cons (σ := pass) (r := .note n) () hes, hgave⟩
  | .ask (.call c) k, cs, h => by
    obtain ⟨es, a, hes, hgave⟩ := exists_leads ω (k (ω cs c)) _ (gave_concat.2 ⟨h, rfl⟩)
    rw [List.append_assoc] at hgave
    exact ⟨_, a, .cons (σ := pass) (r := .call c) (ω cs c) hes, hgave⟩

/-- **There is one run in which its collaborators answer.** -/
theorem leads_unique {a a' : α} : ∀ {p : Program pass α} {cs : List Called} {es es' : List (Exchange pass)},
    p.Leads es (.done a) → ω.Gave (cs ++ calls es) → p.Leads es' (.done a') → ω.Gave (cs ++ calls es') →
      es' = es ∧ a' = a
  | .done _, _, _, _, h, _, h', _ => by
    obtain ⟨rfl, rfl⟩ := leads_done.1 h
    exact leads_done.1 h'
  | .ask (.note n) k, _, _, _, h, hgave, h', hgave' => by
    obtain ⟨_, es, rfl, hk⟩ := leads_ask.1 h
    obtain ⟨_, es', rfl, hk'⟩ := leads_ask.1 h'
    obtain ⟨rfl, rfl⟩ := leads_unique hk hgave hk' hgave'
    exact ⟨rfl, rfl⟩
  | .ask (.call c) k, cs, _, _, h, hgave, h', hgave' => by
    obtain ⟨(reply : c.Reply), es, rfl, hk⟩ := leads_ask.1 h
    obtain ⟨(reply' : c.Reply), es', rfl, hk'⟩ := leads_ask.1 h'
    obtain rfl : reply = ω cs c := hgave cs c reply _ rfl
    obtain rfl : reply' = ω cs c := hgave' cs c reply' _ rfl
    rw [calls_call, List.append_cons] at hgave hgave'
    obtain ⟨rfl, rfl⟩ := leads_unique hk hgave hk' hgave'
    exact ⟨rfl, rfl⟩

end Collaborators

namespace Pass

open Program

/-- **A pass, call by call.**  Whatever its collaborators answer, there is one run of the pass with those answers.  Its
calls are the first of eight, each made of what the ones before yielded.  All but the last succeed.  The last one fails;
or it describes the instance, which holds a candidate address; or it lists the interfaces, none of which qualifies; or it
is the attachment.  A listing asks for what was resolved, which is never empty.  Nothing is detached; the pass returns
the bound interval just when it ended because an address is held; and it records one result, a failure with its text just
when a call failed or the addresses did not resolve. -/
theorem runs_of_pass (b : Binder) (ω : Collaborators) :
    ∃ es delay, ((periodic b).Leads es (.done delay) ∧ ω.Gave (calls es)) ∧
      (∀ es' delay', (periodic b).Leads es' (.done delay') → ω.Gave (calls es') → es' = es ∧ delay' = delay) ∧
      ∃ count j ending, Goes b (registry count) j ending (calls es) ∧
        (calls es).map Sigma.fst <+: [.metadata, .serviceUrls j.metadata.availabilityZone,
          .provider (.describeInstance j.metadata.instanceId), .clearRegistry, .syncUp, .openForTraffic count,
          .provider (.describeInterfaces ⟨j.candidates.addresses, some .available, some j.me.subnetId⟩),
          .provider (.attach j.chosen.interfaceId j.me.instanceId 1)] ∧
        (∃ init last, calls es = init ++ [last] ∧ (∀ c ∈ init, failure? b c.1 c.2 = none) ∧
          failure? b last.1 last.2 = ending.error?) ∧
        (∀ filter reply, ⟨.provider (.describeInterfaces filter), reply⟩ ∈ calls es →
          filter = ⟨j.candidates.addresses, some .available, some j.me.subnetId⟩ ∧ filter.privateIps ≠ [] ∧
            Candidates.ofEntries j.metadata.availabilityZone j.urls = .ok j.candidates) ∧
        (∀ c ∈ calls es, c.1.isDetach = false) ∧
        (delay = if ending = .held then b.config.boundInterval else b.config.unboundInterval) ∧
        recorded es = [ending.error?.map Error.message] := by
  obtain ⟨es, delay, hes, hgave⟩ := ω.exists_leads (periodic b) [] Collaborators.gave_nil
  obtain ⟨count, j, ending, hgoes, hdelay, hrecorded⟩ := goes_periodic hes
  refine ⟨es, delay, ⟨hes, hgave⟩, fun es' delay' hes' hgave' => Collaborators.leads_unique hes hgave hes' hgave',
    count, j, ending, hgoes, hgoes.prefix_calls, hgoes.succeeds (registry_succeeds count), fun filter reply => ?_,
    hgoes.not_isDetach fun c hc => (registry_asks count c hc).2, ?_, hrecorded⟩
  · exact hgoes.listing fun c hc => (registry_asks count c hc).1
  · simpa [nextDelay] using hdelay

/-- A pass that goes all the way. -/
example : ((periodic ⟨.default, "memory"⟩).run Lifecycle.obliging.serve []).2.map Sigma.fst =
    [.metadata, .serviceUrls "a", .provider (.describeInstance "i-1"), .clearRegistry, .syncUp, .openForTraffic 2,
      .provider (.describeInterfaces ⟨[⟨10, 0, 0, 1⟩], some .available, some "s"⟩),
      .provider (.attach "eni-1" "i-1" 1)] := by rfl

end Pass
end AddressBinder
