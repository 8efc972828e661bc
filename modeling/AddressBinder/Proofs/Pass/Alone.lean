import AddressBinder.Proofs.Cloud.Entries
import AddressBinder.Proofs.Decision
import AddressBinder.Proofs.Pass.Requests
import AddressBinder.Proofs.Program.Serving
/-!
# A pass that nothing interrupts

A pass whose collaborators answer at once and do not fail, while nobody else calls the cloud: what it makes of the cloud
is a function (`Runner.pass`).  When the instance holds no candidate address the pass calls for the interface that the
decision picks out of the free ones of the subnet, or for none when there is none (`Runner.pass_eq`).
-/
namespace AddressBinder

namespace Pass

/-- A binder, and what its collaborators beside the cloud answer. -/
structure Runner where
  binder : Binder
  metadata : InstanceMetadata
  urls : List String
  /-- How many entries the peer registry is filled with. -/
  peers : Nat
deriving Inhabited

namespace Runner

def instanceId (p : Runner) : String := p.metadata.instanceId

def answer (p : Runner) : (x : Call) → Cloud → x.Reply × Cloud
  | .metadata, c => (.ok p.metadata, c)
  | .serviceUrls _, c => (.ok p.urls, c)
  | .provider call, c => Cloud.serve call c
  | .clearRegistry, c => (.ok (), c)
  | .syncUp, c => (.ok p.peers, c)
  | .openForTraffic _, c => (.ok (), c)

def serve (p : Runner) : (r : Request) → Cloud → r.Reply × Cloud
  | .call x, c => p.answer x c
  | .note _, c => ((), c)

/-- The cloud after a periodic pass of the binder. -/
def pass (p : Runner) (c : Cloud) : Cloud := ((periodic p.binder).run p.serve c).2

variable {p : Runner} {c : Cloud} {candidates : Candidates} {subnet : String}

/-- What the pass has found when it binds. -/
def view (p : Runner) (c : Cloud) (candidates : Candidates) (subnet : String) : Context :=
  ⟨⟨p.instanceId, p.metadata.availabilityZone, subnet, c.heldBy p.instanceId⟩, candidates⟩

theorem run_context (hresolves : Candidates.ofEntries p.metadata.availabilityZone p.urls = .ok candidates)
    (hregistered : c.instances.get? p.instanceId = some subnet) (hworks : c.failQueries = false) :
    (context p.binder).run p.serve c = (.ok (p.view c candidates subnet), c.record (.describeInstance p.instanceId)) := by
  have hdescribed : c.describeInstance p.instanceId =
      .ok (some ⟨p.instanceId, subnet, c.heldBy p.instanceId⟩) :=
    Cloud.describeInstance_eq_ok.2 ⟨hworks, subnet, hregistered, rfl⟩
  rw [context_eq]
  simp only [Program.run, serve, answer, hresolves, Cloud.serve]
  have hname : p.metadata.instanceId = p.instanceId := rfl
  rw [hname, hdescribed]
  rfl

theorem run_attach {ctx : Context} {i : Interface} (hi : Decision.IsCandidate ctx.candidates i) :
    ((attach ctx i).run p.serve c).2 =
      (Cloud.serve (.attach i.interfaceId ctx.me.instanceId Inventory.secondarySlot) c).2 := by
  obtain ⟨ip, hip, -⟩ := hi
  rw [attach_eq ctx i hip]
  simp only [Program.run, serve, answer]
  cases (Cloud.serve (.attach i.interfaceId ctx.me.instanceId Inventory.secondarySlot) c).1 <;> rfl

/-- The interfaces that a pass may choose from. -/
def choice (c : Cloud) (candidates : Candidates) (subnet : String) : List Interface :=
  c.interfaces.values.filter (Inventory.availableFilter candidates subnet).admits

/-- The cloud after the call to attach the interface that is chosen, if one is. -/
def attachTo (instanceId : String) (c : Cloud) : Option Interface → Cloud
  | none => c
  | some i => (Cloud.serve (.attach i.interfaceId instanceId Inventory.secondarySlot) c).2

theorem run_bindIn {ctx : Context} (hworks : c.failQueries = false) :
    ((bindIn p.binder ctx).run p.serve c).2 = attachTo ctx.me.instanceId (c.record .describeInterfaces)
      (Decision.select? (choice c ctx.candidates ctx.me.subnetId) ctx.candidates) := by
  have hlisted : c.describeInterfaces (Inventory.availableFilter ctx.candidates ctx.me.subnetId) =
      .ok (choice c ctx.candidates ctx.me.subnetId) := Cloud.describeInterfaces_eq_ok.2 ⟨hworks, rfl⟩
  rw [bindIn_eq]
  simp only [Program.run, serve, answer, Cloud.serve]
  rw [hlisted]
  dsimp only
  cases hs : Decision.select? (choice c ctx.candidates ctx.me.subnetId) ctx.candidates with
  | none => rfl
  | some i => exact run_attach (Decision.chosen_of_best? hs).isCandidate

theorem run_rebind {ctx : Context} : ((rebind p.binder ctx).run p.serve c).2 = ((bindIn p.binder ctx).run p.serve c).2 := by
  have hbinds : (rebind p.binder ctx).run p.serve c =
      ((bindIn p.binder ctx).andThen fun _ => .done (.ok false)).run p.serve c := rfl
  rw [hbinds]
  exact Program.run_andThen_snd _ _ _ _ fun _ _ => rfl

/-- **A pass that finds no candidate address held calls for what the decision picks**, and for nothing when it picks
nothing. -/
theorem pass_eq (hresolves : Candidates.ofEntries p.metadata.availabilityZone p.urls = .ok candidates)
    (hregistered : c.instances.get? p.instanceId = some subnet) (hworks : c.failQueries = false)
    (hunbound : Decision.boundInterface? (c.heldBy p.instanceId) candidates = none) :
    p.pass c = attachTo p.instanceId ((c.record (.describeInstance p.instanceId)).record .describeInterfaces)
      (Decision.select? (choice c candidates subnet) candidates) := by
  have hview : (p.view c candidates subnet).boundInterface? = none := hunbound
  have hreconciled : ((reconcile p.binder).run p.serve c).2 = attachTo p.instanceId
      ((c.record (.describeInstance p.instanceId)).record .describeInterfaces)
      (Decision.select? (choice c candidates subnet) candidates) := by
    unfold reconcile
    rw [Program.run_andThen, run_context hresolves hregistered hworks]
    dsimp only
    rw [hview]
    exact run_rebind.trans (run_bindIn hworks)
  unfold pass periodic
  rw [Program.run_bind, ← hreconciled]
  cases ((reconcile p.binder).run p.serve c).1 <;> rfl

end Runner
end Pass
end AddressBinder
