import AddressBinder.Proofs.Cloud.History
import AddressBinder.Proofs.Cloud.Refusal
import AddressBinder.Proofs.Decision.Ranking
import AddressBinder.Proofs.Pass.Requests
import AddressBinder.Proofs.Program.Serving
/-!
# What a bind attaches

A bind against a cloud that others use as well (`Shared`): before each of its calls they may have done anything to the
cloud.  The bind leaves it to the cloud to list the interfaces with a candidate address only, and yet it attaches the
best of all that are available in the subnet of the instance, as they stand when it lists them, and finds none exactly
when there is none (`bind_attaches_best`).
-/
namespace AddressBinder
namespace Pass

open Decision (IsCandidate IsEarliestBest)

/-- A cloud that others use as well, and what they do before each of the coming calls; nothing when the list is over. -/
structure Shared where
  cloud : Cloud
  others : List (List Cloud.Act)

namespace Shared

/-- The cloud as the next call finds it. -/
def turn (s : Shared) : Cloud := s.cloud.after (s.others.headD [])

/-- What a call makes of it. -/
def next (s : Shared) (x : ProviderCall) : Shared := ⟨(Cloud.serve x s.turn).2, s.others.tail⟩

/-- Serves the calls of the provider from the cloud, while the other collaborators answer what they like. -/
def serve (answer : (x : Call) → x.Reply) : (r : Request) → Shared → r.Reply × Shared
  | .call (.provider x), s => ((Cloud.serve x s.turn).1, s.next x)
  | .call .metadata, s => (answer .metadata, s)
  | .call (.serviceUrls zone), s => (answer (.serviceUrls zone), s)
  | .call .clearRegistry, s => (answer .clearRegistry, s)
  | .call .syncUp, s => (answer .syncUp, s)
  | .call (.openForTraffic count), s => (answer (.openForTraffic count), s)
  | .note _, s => ((), s)

/-- Once the instance is described. -/
def described (s : Shared) (m : InstanceMetadata) : Shared := s.next (.describeInstance m.instanceId)

/-- The cloud as the listing finds it. -/
def listing (s : Shared) (m : InstanceMetadata) : Cloud := (s.described m).turn

/-- Once the interfaces are listed; what the listing is asked for makes no difference. -/
def listed (s : Shared) (m : InstanceMetadata) : Shared := (s.described m).next (.describeInterfaces default)

end Shared

/-- The interfaces of a cloud that are available in a subnet, by their ids. -/
def availableIn (c : Cloud) (subnet : String) : List Interface :=
  c.interfaces.values.filter fun i => i.status == .available && i.subnetId == subnet

/-- A bind comes to know what its choice depends on. -/
structure Oriented (answer : (x : Call) → x.Reply) (s : Shared) (m : InstanceMetadata) (candidates : Candidates)
    (subnet : String) : Prop where
  metadata : answer .metadata = .ok m
  resolved : ∃ urls, answer (.serviceUrls m.availabilityZone) = .ok urls ∧
    Candidates.ofEntries m.availabilityZone urls = .ok candidates
  described : s.turn.failQueries = false
  registered : s.turn.instances.get? m.instanceId = some subnet

variable {b : Binder} {answer : (x : Call) → x.Reply} {s : Shared} {m : InstanceMetadata} {candidates : Candidates}
  {subnet : String} {ctx : Context} {i : Interface}

/-! ## The view -/

/-- What a bind has found when it makes its choice. -/
def contextOf (s : Shared) (m : InstanceMetadata) (candidates : Candidates) (subnet : String) : Context :=
  ⟨⟨m.instanceId, m.availabilityZone, subnet, s.turn.heldBy m.instanceId⟩, candidates⟩

theorem Oriented.run_context (h : Oriented answer s m candidates subnet) :
    (context b).run (Shared.serve answer) s = (.ok (contextOf s m candidates subnet), s.described m) := by
  obtain ⟨urls, hurls, hresolved⟩ := h.resolved
  have hdescribed : s.turn.describeInstance m.instanceId =
      .ok (some ⟨m.instanceId, subnet, s.turn.heldBy m.instanceId⟩) :=
    Cloud.describeInstance_eq_ok.2 ⟨h.described, subnet, h.registered, rfl⟩
  rw [context_eq]
  simp only [Program.run, Shared.serve, h.metadata, hurls, hresolved, Cloud.serve, hdescribed]
  rfl

theorem exists_error_of_not_oriented (h : ∀ m candidates subnet, ¬ Oriented answer s m candidates subnet) :
    ∃ e t, (context b).run (Shared.serve answer) s = (.error e, t) := by
  rw [context_eq]
  simp only [Program.run, Shared.serve]
  cases hm : answer .metadata with
  | error e => exact ⟨e, s, rfl⟩
  | ok m =>
    simp only [Program.run, Shared.serve]
    cases hurls : answer (.serviceUrls m.availabilityZone) with
    | error e => exact ⟨e, s, rfl⟩
    | ok urls =>
      dsimp only
      cases hresolved : Candidates.ofEntries m.availabilityZone urls with
      | error e => exact ⟨e, s, rfl⟩
      | ok candidates =>
        simp only [Program.run, Shared.serve, Cloud.serve, Cloud.describeInstance]
        cases hfails : s.turn.failQueries with
        | true => exact ⟨_, _, rfl⟩
        | false =>
          cases hsubnet : s.turn.instances.get? m.instanceId with
          | none => exact ⟨_, _, rfl⟩
          | some subnet => exact absurd ⟨hm, ⟨urls, hurls, hresolved⟩, hfails, hsubnet⟩ (h m candidates subnet)

/-! ## The choice -/

/-- The cloud may be asked for all that is available in the subnet, or only for what has a candidate address. -/
theorem select?_listing (c : Cloud) (candidates : Candidates) (subnet : String) :
    Decision.select? (c.interfaces.values.filter (Inventory.availableFilter candidates subnet).admits) candidates =
      Decision.select? (availableIn c subnet) candidates := by
  have hplain : InterfaceFilter.admits ⟨[], some .available, some subnet⟩ =
      fun i : Interface => i.status == .available && i.subnetId == subnet := by
    funext i
    simp [InterfaceFilter.admits]
  unfold Inventory.availableFilter availableIn
  rw [Decision.select?_filter, hplain]

/-- How the choice of a bind turns out once it knows what its choice depends on, in a given state. -/
inductive Chooses (ctx : Context) (s : Shared) : Except Error Bound → Shared → Prop where
  | unlisted {e : Error} (hfails : s.turn.failQueries = true) : Chooses ctx s (.error e) (s.next (.describeInterfaces default))
  | exhausted (hworks : s.turn.failQueries = false)
      (hnone : Decision.select? (availableIn s.turn ctx.me.subnetId) ctx.candidates = none) :
      Chooses ctx s (.ok .noneAvailable) (s.next (.describeInterfaces default))
  | refused {i : Interface} {e e' : Error} {t : Shared} (hworks : s.turn.failQueries = false)
      (hi : Decision.select? (availableIn s.turn ctx.me.subnetId) ctx.candidates = some i)
      (ht : t = s.next (.describeInterfaces default))
      (hreply : (Cloud.serve (.attach i.interfaceId ctx.me.instanceId Inventory.secondarySlot) t.turn).1 = .error e') :
      Chooses ctx s (.error e) (t.next (.attach i.interfaceId ctx.me.instanceId Inventory.secondarySlot))
  | attached {i : Interface} {ip : Ipv4} {id : String} {t : Shared} (hworks : s.turn.failQueries = false)
      (hi : Decision.select? (availableIn s.turn ctx.me.subnetId) ctx.candidates = some i) (hip : i.privateIp = some ip)
      (ht : t = s.next (.describeInterfaces default))
      (hreply : (Cloud.serve (.attach i.interfaceId ctx.me.instanceId Inventory.secondarySlot) t.turn).1 = .ok id) :
      Chooses ctx s (.ok (.attached i.interfaceId ip id))
        (t.next (.attach i.interfaceId ctx.me.instanceId Inventory.secondarySlot))

theorem chooses_bindIn (b : Binder) (answer : (x : Call) → x.Reply) (ctx : Context) (s : Shared) :
    Chooses ctx s ((bindIn b ctx).run (Shared.serve answer) s).1 ((bindIn b ctx).run (Shared.serve answer) s).2 := by
  rw [bindIn_eq]
  simp only [Program.run, Shared.serve, Cloud.serve, Cloud.describeInterfaces]
  cases hworks : s.turn.failQueries with
  | true => exact .unlisted hworks
  | false =>
    simp only [Bool.false_eq_true, if_false]
    rw [select?_listing]
    cases hselect : Decision.select? (availableIn s.turn ctx.me.subnetId) ctx.candidates with
    | none => exact .exhausted hworks hselect
    | some i =>
      obtain ⟨ip, hip, -⟩ := (Decision.chosen_of_best? hselect).isCandidate
      dsimp only
      rw [attach_eq ctx i hip]
      have hnext : s.next (.describeInterfaces (Inventory.availableFilter ctx.candidates ctx.me.subnetId)) =
          s.next (.describeInterfaces default) := rfl
      simp only [Program.run, Shared.serve, hnext]
      generalize ht : s.next (.describeInterfaces default) = t
      cases hreply : (Cloud.serve (.attach i.interfaceId ctx.me.instanceId Inventory.secondarySlot) t.turn).1 with
      | error e => exact .refused hworks hselect ht.symm hreply
      | ok id => exact .attached hworks hselect hip ht.symm hreply

variable {r : Except Error Bound} {t : Shared} {id att : String} {ip : Ipv4}

theorem Chooses.eq_noneAvailable_iff (h : Chooses ctx s r t) : r = .ok .noneAvailable ↔
    s.turn.failQueries = false ∧ Decision.select? (availableIn s.turn ctx.me.subnetId) ctx.candidates = none := by
  constructor
  · rintro rfl
    cases h with
    | exhausted hworks hnone => exact ⟨hworks, hnone⟩
  · rintro ⟨hworks, hnone⟩
    cases h with
    | unlisted hfails =>
      rw [hworks] at hfails
      cases hfails
    | exhausted => rfl
    | refused _ hi =>
      rw [hnone] at hi
      cases hi
    | attached _ hi =>
      rw [hnone] at hi
      cases hi

theorem Chooses.eq_attached_iff (h : Chooses ctx s r t) : r = .ok (.attached id ip att) ↔
    s.turn.failQueries = false ∧ ∃ i, Decision.select? (availableIn s.turn ctx.me.subnetId) ctx.candidates = some i ∧
      i.interfaceId = id ∧ i.privateIp = some ip ∧
      (Cloud.serve (.attach id ctx.me.instanceId Inventory.secondarySlot) (s.next (.describeInterfaces default)).turn).1 =
        .ok att := by
  constructor
  · rintro rfl
    cases h with
    | attached hworks hi hip ht hreply =>
      subst ht
      exact ⟨hworks, _, hi, rfl, hip, hreply⟩
  · rintro ⟨hworks, i, hi, rfl, hip, hreply⟩
    cases h with
    | unlisted hfails =>
      rw [hworks] at hfails
      cases hfails
    | exhausted _ hnone =>
      rw [hnone] at hi
      cases hi
    | refused _ hi' ht hreply' =>
      subst ht
      obtain rfl := Option.some.inj (hi.symm.trans hi')
      rw [hreply] at hreply'
      cases hreply'
    | attached _ hi' hip' ht hreply' =>
      subst ht
      obtain rfl := Option.some.inj (hi.symm.trans hi')
      obtain rfl := Option.some.inj (hip.symm.trans hip')
      obtain rfl := Except.ok.inj (hreply.symm.trans hreply')
      rfl

/-- What is reported to be attached is attached. -/
theorem Chooses.attachment? (h : Chooses ctx s (.ok (.attached id ip att)) t) :
    t.cloud.attachment? id = some ⟨att, ctx.me.instanceId, Inventory.secondarySlot⟩ := by
  cases h with
  | @attached i _ _ u _ _ _ _ hreply =>
    obtain ⟨j, hj, rfl, hd⟩ := Cloud.Grants.of_serve_ok hreply
    unfold Shared.next
    dsimp only
    rw [hd, Cloud.attachment?, (hj.changed _).entry]
    rfl

/-! ## The whole bind -/

theorem Oriented.run_bind (h : Oriented answer s m candidates subnet) : (bind b).run (Shared.serve answer) s =
    (bindIn b (contextOf s m candidates subnet)).run (Shared.serve answer) (s.described m) :=
  Program.run_andThen_of_ok h.run_context

/-- **A bind that succeeds has come to a choice**, and the choice has succeeded. -/
theorem bind_eq_ok {bound : Bound} : ((bind b).run (Shared.serve answer) s).1 = .ok bound ↔
    ∃ m candidates subnet, Oriented answer s m candidates subnet ∧
      ((bindIn b (contextOf s m candidates subnet)).run (Shared.serve answer) (s.described m)).1 = .ok bound := by
  constructor
  · intro h
    by_cases horiented : ∃ m candidates subnet, Oriented answer s m candidates subnet
    · obtain ⟨m, candidates, subnet, horiented⟩ := horiented
      rw [horiented.run_bind] at h
      exact ⟨m, candidates, subnet, horiented, h⟩
    · simp only [not_exists] at horiented
      obtain ⟨e, t, hcontext⟩ := exists_error_of_not_oriented (b := b) horiented
      unfold bind at h
      rw [Program.run_andThen, hcontext] at h
      cases h
  · rintro ⟨m, candidates, subnet, horiented, h⟩
    rw [horiented.run_bind]
    exact h

theorem Shared.indexed_turn (h : s.cloud.Indexed) : s.turn.Indexed := h.after _

theorem Shared.indexed_listing (h : s.cloud.Indexed) (m : InstanceMetadata) : (s.listing m).Indexed :=
  Shared.indexed_turn ((Cloud.effect_serve s.turn (.describeInstance m.instanceId)).indexed (Shared.indexed_turn h))

theorem get?_of_select? {c : Cloud} (hc : c.Indexed) (h : Decision.select? (availableIn c subnet) candidates = some i) :
    c.interfaces.get? i.interfaceId = some i := by
  have hlisted : i ∈ c.interfaces.values := (List.mem_filter.1 (Decision.chosen_of_best? h).mem).1
  obtain ⟨key, hkey⟩ := TextMap.mem_values.1 hlisted
  rw [hc key i hkey]
  exact hkey

theorem bind_eq_noneAvailable : ((bind b).run (Shared.serve answer) s).1 = .ok .noneAvailable ↔
    ∃ m candidates subnet, Oriented answer s m candidates subnet ∧ (s.listing m).failQueries = false ∧
      ∀ i ∈ availableIn (s.listing m) subnet, ¬ IsCandidate candidates i := by
  refine bind_eq_ok.trans (exists_congr fun m => exists_congr fun candidates => exists_congr fun subnet => ?_)
  rw [(chooses_bindIn b answer _ _).eq_noneAvailable_iff]
  exact and_congr_right fun _ => and_congr_right fun _ => Decision.best?_eq_none

theorem bind_eq_attached (hs : s.cloud.Indexed) : ((bind b).run (Shared.serve answer) s).1 = .ok (.attached id ip att) ↔
    ∃ m candidates subnet i, Oriented answer s m candidates subnet ∧ (s.listing m).failQueries = false ∧
      IsEarliestBest candidates (availableIn (s.listing m) subnet) i ∧ (s.listing m).interfaces.get? id = some i ∧
      i.privateIp = some ip ∧
      (Cloud.serve (.attach id m.instanceId Inventory.secondarySlot) (s.listed m).turn).1 = .ok att := by
  refine bind_eq_ok.trans (exists_congr fun m => exists_congr fun candidates => exists_congr fun subnet => ?_)
  have hindexed : (s.listing m).Indexed := Shared.indexed_listing hs m
  rw [(chooses_bindIn b answer _ _).eq_attached_iff]
  constructor
  · rintro ⟨horiented, hworks, i, hi, rfl, hip, hreply⟩
    exact ⟨i, horiented, hworks, Decision.select?_eq_some.1 hi, get?_of_select? hindexed hi, hip, hreply⟩
  · rintro ⟨i, horiented, hworks, hi, hget, hip, hreply⟩
    exact ⟨horiented, hworks, i, Decision.select?_eq_some.2 hi, hindexed id i hget, hip, hreply⟩

/-- What a bind reports to be attached is attached to the instance. -/
theorem attachment?_of_bind (hm : answer .metadata = .ok m)
    (h : ((bind b).run (Shared.serve answer) s).1 = .ok (.attached id ip att)) :
    ((bind b).run (Shared.serve answer) s).2.cloud.attachment? id =
      some ⟨att, m.instanceId, Inventory.secondarySlot⟩ := by
  obtain ⟨m', candidates, subnet, horiented, hbound⟩ := bind_eq_ok.1 h
  obtain rfl := Except.ok.inj (hm.symm.trans horiented.metadata)
  have hchooses := chooses_bindIn b answer (contextOf s m candidates subnet) (s.described m)
  rw [hbound] at hchooses
  rw [horiented.run_bind]
  exact hchooses.attachment?

/-- **A bind attaches the best of all that is available**: what is selected is the same whether the cloud is asked for the
interfaces with a candidate address or for all; so a bind against a cloud that others use as well finds nothing exactly
when no interface that is available in the subnet has a candidate address as the cloud is listed, and what it attaches is
the first of the best of them. -/
theorem bind_attaches_best :
    (∀ (candidates : Candidates) (status : Option InterfaceStatus) (subnet : Option String) (l : List Interface),
      Decision.select? (l.filter (InterfaceFilter.admits ⟨candidates.addresses, status, subnet⟩)) candidates =
        Decision.select? (l.filter (InterfaceFilter.admits ⟨[], status, subnet⟩)) candidates) ∧
    ∀ (b : Binder) (answer : (x : Call) → x.Reply) (history : List Cloud.Act) (others : List (List Cloud.Act)),
      let s : Shared := ⟨Cloud.empty.after history, others⟩
      let run := (bind b).run (Shared.serve answer) s
      (run.1 = .ok .noneAvailable ↔ ∃ m candidates subnet, Oriented answer s m candidates subnet ∧
        (s.listing m).failQueries = false ∧ ∀ i ∈ availableIn (s.listing m) subnet, ¬ IsCandidate candidates i) ∧
      (∀ id ip att, run.1 = .ok (.attached id ip att) ↔ ∃ m candidates subnet i, Oriented answer s m candidates subnet ∧
        (s.listing m).failQueries = false ∧ IsEarliestBest candidates (availableIn (s.listing m) subnet) i ∧
        (s.listing m).interfaces.get? id = some i ∧ i.privateIp = some ip ∧
        (Cloud.serve (.attach id m.instanceId Inventory.secondarySlot) (s.listed m).turn).1 = .ok att) ∧
      ∀ m id ip att, answer .metadata = .ok m → run.1 = .ok (.attached id ip att) →
        run.2.cloud.attachment? id = some ⟨att, m.instanceId, Inventory.secondarySlot⟩ := by
  refine ⟨Decision.select?_filter, fun b answer history others => ?_⟩
  exact ⟨bind_eq_noneAvailable, fun id ip att => bind_eq_attached (Cloud.indexed_after history),
    fun m id ip att hm h => attachment?_of_bind hm h⟩

/-! ## A bind that another one gets ahead of -/

/-- Two interfaces with the addresses of a pool, and one with its first address in another subnet. -/
def stocked : List Cloud.Act :=
  [.addInstance "i-1" "s", .addInstance "i-2" "s", .addInterface (.free "eni-1" ⟨10, 0, 0, 1⟩ "s"),
    .addInterface (.free "eni-2" ⟨10, 0, 0, 2⟩ "s"), .addInterface (.free "eni-0" ⟨10, 0, 0, 1⟩ "t")]

/-- After the description and before the listing, another instance attaches the interface that is best. -/
def overtaking : List (List Cloud.Act) := [[], [.call (.attach "eni-1" "i-2" 1)]]

/-- Collaborators of the instance i-1 of a zone with two addresses, beside the provider. -/
def twoAddresses : (x : Call) → x.Reply
  | .metadata => .ok ⟨"i-1", "a"⟩
  | .serviceUrls _ => .ok ["10.0.0.1", "10.0.0.2"]
  | .provider _ => .error (.providerQuery "memory" "not asked")
  | .clearRegistry => .ok ()
  | .syncUp => .ok 0
  | .openForTraffic _ => .ok ()

/-- The bind of the instance, with its result and what it leaves. -/
def overtaken : Except Error Bound × Shared :=
  (bind ⟨default, "memory"⟩).run (Shared.serve twoAddresses) ⟨Cloud.empty.after stocked, overtaking⟩

theorem bind_attaches_best_overtaken :
    twoAddresses .metadata = .ok ⟨"i-1", "a"⟩ ∧
    overtaken.1 = .ok (.attached "eni-2" ⟨10, 0, 0, 2⟩ "eni-attach-00000002") ∧
    overtaken.2.cloud.attachment? "eni-2" = some ⟨"eni-attach-00000002", "i-1", 1⟩ := by
  have hmetadata : twoAddresses .metadata = .ok ⟨"i-1", "a"⟩ := rfl
  have hbound : overtaken.1 = .ok (.attached "eni-2" ⟨10, 0, 0, 2⟩ "eni-attach-00000002") := by rfl
  obtain ⟨-, -, hattached⟩ := bind_attaches_best.2 ⟨default, "memory"⟩ twoAddresses stocked overtaking
  exact ⟨hmetadata, hbound, hattached _ _ _ _ hmetadata hbound⟩

end Pass
end AddressBinder
