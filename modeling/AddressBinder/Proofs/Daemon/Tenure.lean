import AddressBinder.Proofs.Candidate.Resolution
import AddressBinder.Proofs.Daemon.Acceptance
import AddressBinder.Proofs.Daemon.Pool
import AddressBinder.Proofs.Pass.Requests
/-!
# The tenure of an address

A daemon with a fixed identity and URLs that are written down learns nothing new after it is set up, and its cloud is its
own.  So its start attaches an interface of the first address (`ends_starting`), its passes find it held (`upheld_tenant`),
and its shutdown gives it back (`ends_stopping`), after which the cloud is as it was filled.
-/
namespace AddressBinder
namespace Simulation

open Daemon Lifecycle Cloud

def Instant.onCloud (s : Instant) (c : Cloud) : Instant := { s with cloud := c }

def Instant.noted (s : Instant) (n : Note) : Instant := s.own (s.state.note s.clock n)

/-- The interfaces of a daemon's pool, by their ids. -/
abbrev seeds (metadata : InstanceMetadata) (subnetId : String) (ips : List Ipv4) : String → Option Interface :=
  (pooled metadata.instanceId subnetId ips).interfaces.get?

/-- The collaborators of a daemon with a fixed identity and URLs that are written down. -/
def fixedWiring (metadata : InstanceMetadata) (urls : TextMap (List String)) (resolver : Option String) : Wiring :=
  ⟨.fixed metadata, .static urls, resolver⟩

section Passes

variable {metadata : InstanceMetadata} {urls : TextMap (List String)} (resolver : Option String) {subnetId : String}
  {candidates : Candidates} {b : Binder} {s : Instant}

/-- What a pass knows once it has looked at the instance. -/
def Instant.view (s : Instant) (metadata : InstanceMetadata) (subnetId : String) (candidates : Candidates) : Pass.Context :=
  ⟨⟨metadata.instanceId, metadata.availabilityZone, subnetId, s.cloud.heldBy metadata.instanceId⟩, candidates⟩

def Instant.viewed (s : Instant) (metadata : InstanceMetadata) : Instant :=
  s.onCloud (s.cloud.record (.describeInstance metadata.instanceId))

/-- The cloud answers what is asked about the instance. -/
structure Describes (c : Cloud) (metadata : InstanceMetadata) (subnetId : String) : Prop where
  registered : c.instances.get? metadata.instanceId = some subnetId
  queries : c.failQueries = false

variable (hurls : Candidates.ofEntries metadata.availabilityZone (Discovery.staticUrls urls metadata.availabilityZone) =
  .ok candidates) (hs : Describes s.cloud metadata subnetId)

include hurls hs

theorem run_context : (Pass.context b).run (Instant.servePass (fixedWiring metadata urls resolver)) s =
    (.ok (s.view metadata subnetId candidates), s.viewed metadata) := by
  have hdescribed : s.cloud.describeInstance metadata.instanceId =
      .ok (some ⟨metadata.instanceId, subnetId, s.cloud.heldBy metadata.instanceId⟩) :=
    Cloud.describeInstance_eq_ok.2 ⟨hs.queries, subnetId, hs.registered, rfl⟩
  have hidentity : s.call (fixedWiring metadata urls resolver) .metadata = (.ok metadata, s) := rfl
  have hlisted : s.call (fixedWiring metadata urls resolver) (.serviceUrls metadata.availabilityZone) =
      (.ok (Discovery.staticUrls urls metadata.availabilityZone), s) := rfl
  have hlooked : s.call (fixedWiring metadata urls resolver) (.provider (.describeInstance metadata.instanceId)) =
      (.ok (some ⟨metadata.instanceId, subnetId, s.cloud.heldBy metadata.instanceId⟩), s.viewed metadata) :=
    Prod.ext hdescribed rfl
  rw [Pass.context_eq]
  simp only [Program.run, Instant.servePass, hidentity, hlisted, hurls, hlooked]
  rfl

/-- The instant once a pass has looked for a free interface too. -/
def Instant.searched (s : Instant) (metadata : InstanceMetadata) : Instant :=
  (s.viewed metadata).onCloud ((s.viewed metadata).cloud.record .describeInterfaces)

/-- The instant once a pass has found nothing held and attached an interface, which led to the cloud. -/
def Instant.taking (s : Instant) (metadata : InstanceMetadata) (c : Cloud) (interfaceId : String) (ip : Ipv4)
    (id : String) : Instant :=
  (((s.searched metadata).onCloud c).noted (.observe (.bound ip))).noted (.emit (.attached interfaceId ip id))

/-- An attempt that finds nothing held attaches what is chosen. -/
theorem run_attempt {i : Interface} {ip : Ipv4} {id : String} {d : Cloud}
    (hunbound : Decision.boundInterface? (s.cloud.heldBy metadata.instanceId) candidates = none)
    (hchosen : Decision.select? (s.cloud.interfaces.values.filter (Inventory.availableFilter candidates subnetId).admits)
      candidates = some i) (hip : i.privateIp = some ip)
    (hattach : Cloud.serve (.attach i.interfaceId metadata.instanceId Inventory.secondarySlot)
      (s.searched metadata).cloud = (.ok id, d)) :
    (Pass.attempt b).run (Instant.servePass (fixedWiring metadata urls resolver)) s =
      (.ok true, s.taking metadata d i.interfaceId ip id) := by
  have hview : (s.view metadata subnetId candidates).boundInterface? = none := hunbound
  have hfree : Cloud.describeInterfaces (s.viewed metadata).cloud (Inventory.availableFilter candidates subnetId) =
      .ok (s.cloud.interfaces.values.filter (Inventory.availableFilter candidates subnetId).admits) :=
    Cloud.describeInterfaces_eq_ok.2 ⟨hs.queries, rfl⟩
  have hlisted : (s.viewed metadata).call (fixedWiring metadata urls resolver)
      (.provider (.describeInterfaces (Inventory.availableFilter candidates subnetId))) =
      (.ok (s.cloud.interfaces.values.filter (Inventory.availableFilter candidates subnetId).admits),
        s.searched metadata) :=
    Prod.ext hfree rfl
  have hattached : (s.searched metadata).call (fixedWiring metadata urls resolver)
      (.provider (.attach i.interfaceId metadata.instanceId Inventory.secondarySlot)) =
      (.ok id, (s.searched metadata).onCloud d) :=
    congrArg (fun r => (r.1, (s.searched metadata).onCloud r.2)) hattach
  have hbind : (Pass.bindIn b (s.view metadata subnetId candidates)).run
      (Instant.servePass (fixedWiring metadata urls resolver)) (s.viewed metadata) =
      (.ok (.attached i.interfaceId ip id), s.taking metadata d i.interfaceId ip id) := by
    rw [Pass.bindIn_eq]
    simp only [Program.run, Instant.servePass, Instant.view, hlisted, hchosen]
    rw [Pass.attach_eq _ _ hip]
    simp only [Program.run, Instant.servePass, hattached]
    rfl
  unfold Pass.attempt
  rw [Program.run_andThen_of_ok (run_context resolver hurls hs)]
  simp only [hview]
  rw [Program.run_andThen_of_ok hbind]
  rfl

/-- A periodic pass that finds an interface held observes its address. -/
theorem run_periodic {i : Interface} {ip : Ipv4}
    (hbound : Decision.boundInterface? (s.cloud.heldBy metadata.instanceId) candidates = some i)
    (hip : i.privateIp = some ip) :
    (Pass.periodic b).run (Instant.servePass (fixedWiring metadata urls resolver)) s =
      (b.config.boundInterval, (((s.viewed metadata).noted (.observe (.bound ip))).noted (.observe (.pass none))).noted
        (.emit (.passCompleted true b.config.boundInterval))) := by
  have hview : (s.view metadata subnetId candidates).boundInterface? = some i := hbound
  have hreconcile : (Pass.reconcile b).run (Instant.servePass (fixedWiring metadata urls resolver)) s =
      (.ok true, (s.viewed metadata).noted (.observe (.bound ip))) := by
    unfold Pass.reconcile
    rw [Program.run_andThen_of_ok (run_context resolver hurls hs)]
    simp only [hview, Pass.observeHeld, hip]
    rfl
  unfold Pass.periodic
  rw [Program.run_bind, hreconcile]
  rfl

/-- An unbind that finds an interface held releases its attachment. -/
theorem run_unbind {i : Interface} {id : String} {d : Cloud}
    (hbound : Decision.boundInterface? (s.cloud.heldBy metadata.instanceId) candidates = some i)
    (hid : i.attachmentId = some id) (hdetach : Cloud.serve (.detach id) (s.viewed metadata).cloud = (.ok (), d)) :
    (Pass.unbind b).run (Instant.servePass (fixedWiring metadata urls resolver)) s =
      (.ok (.detached i.interfaceId id), ((s.viewed metadata).onCloud d).noted (.emit (.detached i.interfaceId id))) := by
  have hview : (s.view metadata subnetId candidates).boundInterface? = some i := hbound
  have hdetached : (s.viewed metadata).call (fixedWiring metadata urls resolver) (.provider (.detach id)) =
      (.ok (), (s.viewed metadata).onCloud d) :=
    congrArg (fun r => (r.1, (s.viewed metadata).onCloud r.2)) hdetach
  unfold Pass.unbind
  rw [Program.run_andThen_of_ok (run_context resolver hurls hs)]
  simp only [hview]
  rw [Pass.detach_eq i hid]
  simp only [Program.run, Instant.servePass, hdetached]
  rfl

end Passes

/-! ## Holding an address -/

/-- The instance has borrowed one interface, which has the address, and all else is as given. -/
structure Tenant (metadata : InstanceMetadata) (subnetId : String) (candidates : Candidates)
    (base : String → Option Interface) (ip : Ipv4) (c : Cloud) (key : String) (e : Interface) (a : Attachment) : Prop
    extends Describes c metadata subnetId where
  detaches : c.failDetaches = false
  sound : c.Sound
  lent : Lent base metadata.instanceId candidates c key e a
  address : e.privateIp = some ip

section Holding

variable {metadata : InstanceMetadata} {urls : TextMap (List String)} (resolver : Option String) {subnetId : String}
  {ip : Ipv4} {more : List Ipv4} {b : Binder} {s : Instant} {candidates : Candidates} {base : String → Option Interface}
  {c : Cloud} {key : String} {e : Interface} {a : Attachment}

theorem Tenant.record (h : Tenant metadata subnetId candidates base ip c key e a) (call : CloudCall) :
    Tenant metadata subnetId candidates base ip (c.record call) key e a where
  registered := h.registered
  queries := h.queries
  detaches := h.detaches
  sound := ⟨h.sound.distinct, h.sound.fresh⟩
  lent := h.lent.same rfl
  address := h.address

/-- The instance holds the address. -/
def HoldsAddress (metadata : InstanceMetadata) (subnetId : String) (candidates : Candidates)
    (base : String → Option Interface) (ip : Ipv4) (c : Cloud) : Prop :=
  ∃ key e a, Tenant metadata subnetId candidates base ip c key e a

section Tenant

variable (hurls : Candidates.ofEntries metadata.availabilityZone (Discovery.staticUrls urls metadata.availabilityZone) =
  .ok candidates) (hbase : Home metadata.instanceId candidates base)

include hurls hbase

/-- **While the instance holds the address, passes leave it alone.** -/
theorem upheld_tenant (b : Binder) : Upheld (fixedWiring metadata urls resolver) b
    fun s => HoldsAddress metadata subnetId candidates base ip s.cloud where
  clock _ _ h := h
  pass s _ := by
    rintro ⟨key, e, a, h⟩
    rw [run_periodic resolver hurls h.toDescribes (h.lent.boundInterface? hbase) h.address]
    exact ⟨key, e, a, h.record _⟩

/-- A shutdown has ended, and all interfaces are as given. -/
def Returned (base : String → Option Interface) (r : Operation.Result) (t : Instant) : Prop :=
  t.holders = 2 ∧ r = .ended ∧ Whole base t.letGo.cloud ∧ t.letGo.state.status.phase = .stopped

theorem ends_unbinding (h : HoldsAddress metadata subnetId candidates base ip s.cloud) (hs : s.Stands .exited true true 2) :
    Ends (fixedWiring metadata urls resolver)
      (fun r t => ∃ o, r = .ok (.done o) ∧ t.Stands .exited true true 2 ∧ Whole base t.cloud) (shutdownAttempt b) s := by
  obtain ⟨key, e, a, h⟩ := h
  obtain ⟨hreply, hwhole⟩ := (h.lent.same (d := (s.viewed metadata).cloud) rfl).detach
    (h.record (.describeInstance metadata.instanceId)).sound h.detaches
  have hrun := run_unbind (b := b) resolver hurls h.toDescribes (h.lent.boundInterface? hbase)
    h.lent.attachmentId (Prod.ext hreply rfl)
  refine .ofPass ?_
  rw [hrun]
  exact .done ⟨_, rfl, ⟨hs.schedule, hs.locked, hs.terminal, hs.holders⟩, hwhole⟩

/-- **The shutdown of a daemon that holds the address gives it back.** -/
theorem ends_stopping (hretries : 0 < b.config.retries) (hs : s.Stands .exited true true 2)
    (h : HoldsAddress metadata subnetId candidates base ip s.cloud) :
    Ends (fixedWiring metadata urls resolver) (Returned base) (stopping b) s := by
  have hattempt := ends_unbinding (b := b) resolver hurls hbase
    (s := s.noted (.emit .scheduleCancelled)) h ⟨hs.schedule, hs.locked, hs.terminal, hs.holders⟩
  refine .own rfl (ends_retry hretries hattempt fun _ t ht => ?_)
  exact ⟨.ended, t.leaving, advance_leaving t, ht.1.holders, rfl, ht.2, phase_leaving t⟩

end Tenant

/-! ## Getting an address -/

/-- The daemon has attached one interface, which was free and has the address, has told so, and has armed its passes. -/
structure Installed (metadata : InstanceMetadata) (subnetId : String) (candidates : Candidates)
    (base : String → Option Interface) (ip : Ipv4) (b : Binder) (s : Instant) (key id : String) : Prop where
  holds : HoldsAddress metadata subnetId candidates base ip s.cloud
  free : base key = some (.free key ip subnetId)
  attachCalls : s.cloud.attachCalls = [(key, metadata.instanceId, Inventory.secondarySlot)]
  events : s.state.channel.waiting =
    [.attached key ip id, .startupCompleted true 1, .scheduleArmed b.config.unboundInterval]
  phase : s.state.status.phase = .bound
  boundAddress : s.state.status.boundAddress = some ip

/-- **An attachment of an interface of the pool is granted**, and makes the instance its tenant. -/
theorem tenant_of_attach (journal : List CloudCall)
    (hkey : seeds metadata subnetId (ip :: more) key = some (.free key ip subnetId)) :
    ∃ id d, Cloud.serve (.attach key metadata.instanceId Inventory.secondarySlot)
        { pooled metadata.instanceId subnetId (ip :: more) with journal } = (.ok id, d) ∧
      HoldsAddress metadata subnetId ⟨ip :: more⟩ (seeds metadata subnetId (ip :: more)) ip d ∧
      d.journal = journal ++ [.attach key metadata.instanceId Inventory.secondarySlot] := by
  let c : Cloud := { pooled metadata.instanceId subnetId (ip :: more) with journal }
  let call : ProviderCall := .attach key metadata.instanceId Inventory.secondarySlot
  have hpool := grants_pooled Inventory.secondarySlot hkey
  have hgrants : (c.record (.attach key metadata.instanceId Inventory.secondarySlot)).Grants key metadata.instanceId
      Inventory.secondarySlot (.free key ip subnetId) :=
    ⟨hpool.working, hpool.registered, hpool.slotFree, hpool.known, hpool.available, hpool.unattached⟩
  have hserve : Cloud.serve call c = _ := hgrants.attach_eq
  have hsound : (Cloud.serve call c).2.Sound := (change_serve c call).sound ⟨sound_pooled.distinct, sound_pooled.fresh⟩
  rw [hserve] at hsound
  have hwhole : Whole (seeds metadata subnetId (ip :: more))
      (c.record (.attach key metadata.instanceId Inventory.secondarySlot)) := fun _ => rfl
  refine ⟨_, _, hserve, ⟨key, _, _, ⟨instances_pooled, ?_⟩, ?_, hsound,
    hwhole.attach hgrants ⟨ip, rfl, List.mem_cons_self⟩ rfl, rfl⟩, rfl⟩
  · show (pooled metadata.instanceId subnetId (ip :: more)).failQueries = false
    rw [pooled_eq]
    rfl
  · show (pooled metadata.instanceId subnetId (ip :: more)).failDetaches = false
    rw [pooled_eq]
    rfl

theorem waiting_send₃ {capacity : Nat} (h : 3 ≤ capacity) (x y z : Event) :
    (((Channel.ofCapacity capacity).send x).send y |>.send z).waiting = [x, y, z] := by
  have h₀ : 0 < capacity := by omega
  have h₁ : 1 < capacity := by omega
  have h₂ : 2 < capacity := by omega
  simp [Channel.send, Channel.ofCapacity, h₀, h₁, h₂]

/-- **The start of a daemon attaches one interface, which has the first address.** -/
theorem ends_starting {capacity : Nat} (hurls : Candidates.ofEntries metadata.availabilityZone
      (Discovery.staticUrls urls metadata.availabilityZone) = .ok ⟨ip :: more⟩) (hretries : 0 < b.config.retries)
    (hs : s.Stands .idle true false 2) (hcloud : s.cloud = pooled metadata.instanceId subnetId (ip :: more))
    (hchannel : s.state.channel = .ofCapacity capacity) (hcapacity : 3 ≤ capacity) :
    Ends (fixedWiring metadata urls resolver)
      (fun r t => r = .ended ∧ t.Stands (.armed b.config.unboundInterval) false false 2 ∧
        ∃ key id, Installed metadata subnetId ⟨ip :: more⟩
          (seeds metadata subnetId (ip :: more)) ip b t.letGo key id)
      (starting b) s := by
  obtain ⟨key, hkey, hchosen⟩ := select?_pooled metadata.instanceId subnetId ip more
  obtain ⟨id, d, hattach, hholds, hjournal⟩ :=
    tenant_of_attach [.describeInstance metadata.instanceId, .describeInterfaces] hkey
  -- what the pass asks before the attachment only adds to the journal
  have hsearched : (s.searched metadata).cloud = { pooled metadata.instanceId subnetId (ip :: more) with
      journal := [.describeInstance metadata.instanceId, .describeInterfaces] } := by
    rw [Instant.searched, Instant.viewed, hcloud, pooled_eq]
    rfl
  rw [← hsearched] at hattach
  have hdescribes : Describes s.cloud metadata subnetId := by
    rw [hcloud]
    exact ⟨instances_pooled, by rw [pooled_eq]; rfl⟩
  have hwhole : Whole (seeds metadata subnetId (ip :: more)) s.cloud := fun _ => by rw [hcloud]
  have hrun := run_attempt (b := b) resolver hurls hdescribes
    (hwhole.boundInterface? (home_pooled _ _)) (by rw [hcloud]; exact hchosen) rfl hattach
  have hstands : ((Pass.attempt b).run (Instant.servePass (fixedWiring metadata urls resolver)) s).2.Stands
      .idle true false 2 := hs.alike (alike_run civil_attempt).1
  have hattempt : Ends (fixedWiring metadata urls resolver) (fun r t => ∃ o, r = .ok (.done o) ∧ o = true ∧
      t = s.taking metadata d key ip id) (startupAttempt b) s := by
    refine .own rfl ?_
    simp only [hs.terminal, Program.done_bind, Bool.false_eq_true, if_false, Instant.own_state]
    refine .ofPass ?_
    rw [hrun]
    exact .done ⟨true, rfl, rfl, rfl⟩
  rw [hrun] at hstands
  refine ends_retry hretries hattempt ?_
  rintro _ _ ⟨rfl, rfl⟩
  refine ⟨.ended, _, advance_arming hstands _, rfl, ⟨rfl, rfl, hstands.terminal, hstands.holders⟩, key, id, ?_⟩
  have hbound : s.state.status.phase.move .bound = .bound := by
    have hphase := hs.terminal
    revert hphase
    cases s.state.status.phase <;> simp [Phase.move, Phase.isTerminal]
  refine ⟨hholds, hkey, ?_, ?_, hbound, rfl⟩
  · show d.attachCalls = _
    unfold Cloud.attachCalls
    rw [hjournal]
    rfl
  · show ((s.state.channel.send _).send _ |>.send _).waiting = _
    rw [hchannel]
    exact waiting_send₃ hcapacity _ _ _

end Holding

/-! ## A whole run -/

section Run

variable {r : Running} {metadata : InstanceMetadata} {urls : TextMap (List String)} {resolver : Option String}
  {subnetId : String} {ip : Ipv4} {more : List Ipv4} {s : Instant} {capacity : Nat} (hb : Ticks r.binder)
  (hretries : 0 < r.binder.config.retries) (hwiring : r.wiring = fixedWiring metadata urls resolver)
  (hurls : Candidates.ofEntries metadata.availabilityZone (Discovery.staticUrls urls metadata.availabilityZone) =
    .ok ⟨ip :: more⟩) (h : Fresh r.wiring r.binder s r.machine)
  (hcloud : s.cloud = pooled metadata.instanceId subnetId (ip :: more))
  (hchannel : s.state.channel = .ofCapacity capacity) (hcapacity : 3 ≤ capacity)

include hb hretries hwiring hurls h hcloud hchannel hcapacity

/-- **A daemon with a pool of its own starts by attaching an interface of the first address.** -/
theorem Fresh.installs : ∃ m, runThread r.machine (r.thread .start) = (some (.operation .ended), m) ∧
    Serving r.wiring r.binder (fun t => ∃ key id, Installed metadata subnetId ⟨ip :: more⟩
      (seeds metadata subnetId (ip :: more)) ip r.binder t key id) m := by
  have hstart := ends_starting resolver hurls hretries h.marked hcloud hchannel hcapacity
  rw [← hwiring] at hstart
  exact h.start hb (fun _ ht => ht) (fun _ _ ht => ⟨ht.schedule, ht.locked, ht.terminal, ht.holders⟩)
    (fun _ _ hr => hr) (by decide) (n := 0) hstart

/-- **It ends clean, with all interfaces as they were.** -/
theorem Fresh.givesBack (signalTime seconds : Nat) : ∃ m, r.untilSignal signalTime seconds =
      (.clean, { r with machine := m }) ∧
    Closed r.wiring r.binder (fun t => Whole (seeds metadata subnetId (ip :: more)) t.cloud ∧
      t.state.status.phase = .stopped) m := by
  obtain ⟨m, hstart, hserving⟩ := Fresh.installs hb hretries hwiring hurls h hcloud hchannel hcapacity
  have hhome : Home metadata.instanceId ⟨ip :: more⟩ (seeds metadata subnetId (ip :: more)) :=
    home_pooled _ _
  have hupheld : Upheld (fixedWiring metadata urls resolver) r.binder fun t =>
      HoldsAddress metadata subnetId ⟨ip :: more⟩ (seeds metadata subnetId (ip :: more)) ip t.cloud :=
    upheld_tenant resolver hurls hhome r.binder
  rw [← hwiring] at hupheld
  have hholding := hserving.mono fun t ⟨_, _, ht⟩ => ht.holds
  have hwaiting := hholding.advanceTo hb hupheld (Nat.max signalTime m.state.clock) patience
  have hat := atSignal_of_start hstart signalTime
  generalize m.advanceTo kernel (Nat.max signalTime m.state.clock) patience = m' at hwaiting hat
  -- however long the daemon has waited, the shutdown finds it holding the address
  have hends : ∀ t : Instant, HoldsAddress metadata subnetId ⟨ip :: more⟩
      (seeds metadata subnetId (ip :: more)) ip t.cloud →
      t.Stands (.armed r.binder.config.unboundInterval) false false 1 →
      Ends r.wiring (Returned (seeds metadata subnetId (ip :: more))) (stopping r.binder) t.quiet :=
    fun t ht hs => by
      rw [hwiring]
      exact ends_stopping resolver hurls hhome hretries hs.quiet ht
  have hclosed := hwaiting.shutdown_of_ends (I := fun _ => True) (J := Returned (seeds metadata subnetId (ip :: more)))
    (L := fun t => Whole (seeds metadata subnetId (ip :: more)) t.cloud ∧ t.state.status.phase = .stopped)
    hb hupheld (fun _ _ _ => trivial) (fun _ _ hr => hr) (some (Running.deadline ⟨r.wiring, r.binder, m'⟩ seconds)) hends
  exact ⟨_, untilSignal_of_closed hat hwaiting hclosed, hclosed⟩

end Run

end Simulation

namespace Daemon

open Simulation

variable {s : Settings} {config : Config} {env : Environment} {zone : String} {ips : List Ipv4}

theorem simulatedCloud_eq (metadata : InstanceMetadata) {candidates : Candidates} (resolver : Option String)
    (h : Candidates.ofEntries metadata.availabilityZone (Discovery.staticUrls s.serviceUrls metadata.availabilityZone) =
      .ok candidates) :
    simulatedCloud s (fixedWiring metadata s.serviceUrls resolver) =
      .done (pooled metadata.instanceId s.subnetId candidates.addresses) := by
  unfold simulatedCloud
  simp only [fixedWiring, readMetadata, listUrls, Discovery.Source.urls, Program.translate, Program.done_bind, h, pooled]

theorem Accepted.wire_of_static (h : Accepted s config) {instanceId : String} (hid : s.instanceId = some instanceId)
    (hzone : s.availabilityZone = some zone) (hstatic : s.useDns = false) :
    Daemon.wire s config = .ok (fixedWiring ⟨instanceId, zone⟩ s.serviceUrls s.resolver) := by
  obtain ⟨source, hwire, hsource⟩ := h.wire
  have hidentity : s.identity = .fixed ⟨instanceId, zone⟩ := by
    unfold Settings.identity
    rw [hid, hzone]
  rw [hwire, hsource hstatic, hidentity]
  rfl

/-- From one moment to the other the daemon has attached one interface, which was free, and told so; it is bound to the
interface's address. -/
structure Occupied (before after : Running) (instanceId subnetId : String) (ip : Ipv4) (key id : String) : Prop where
  free : before.world.cloud.interfaces.get? key = some (.free key ip subnetId)
  attachCalls : after.world.cloud.attachCalls = [(key, instanceId, Inventory.secondarySlot)]
  events : after.drain.1 =
    [.attached key ip id, .startupCompleted true 1, .scheduleArmed after.binder.config.unboundInterval]
  bound : after.status?.map (fun x => (x.phase, x.boundAddress)) = some (.bound, some ip)

/-- The daemon is stopped, and every interface that was there is there as it was, available and unattached. -/
structure Vacated (before after : Running) : Prop where
  stopped : after.status?.map (·.phase) = some .stopped
  back : ∀ key i, before.world.cloud.interfaces.get? key = some i →
    after.world.cloud.interfaces.get? key = some i ∧ i.status = .available ∧ i.attachment = none

theorem occupied_of_installed {r : Running} {w : Wiring} {b : Binder} {metadata : InstanceMetadata} {subnetId : String}
    {ip : Ipv4} {more : List Ipv4} {m : Sim} (hbinder : r.binder = b)
    (hcloud : r.world.cloud = pooled metadata.instanceId subnetId (ip :: more))
    (h : Serving w b (fun t => ∃ key id, Installed metadata subnetId ⟨ip :: more⟩
      (seeds metadata subnetId (ip :: more)) ip b t key id) m) :
    ∃ key id, Occupied r { r with machine := m } metadata.instanceId subnetId ip key id := by
  obtain ⟨t, p, rfl, -, -, key, id, ht⟩ := h
  subst hbinder
  refine ⟨key, id, ?_, ht.attachCalls, ht.events, ?_⟩
  · rw [hcloud]
    exact ht.free
  · exact congrArg some (Prod.ext ht.phase ht.boundAddress)

theorem vacated_of_closed {r : Running} {w : Wiring} {b : Binder} {metadata : InstanceMetadata} {subnetId : String}
    {ips : List Ipv4} {m : Sim} (hcloud : r.world.cloud = pooled metadata.instanceId subnetId ips)
    (h : Closed w b (fun t => Cloud.Whole (seeds metadata subnetId ips) t.cloud ∧ t.state.status.phase = .stopped) m) :
    Vacated r { r with machine := m } := by
  obtain ⟨t, rfl, hwhole, hphase⟩ := h
  refine ⟨congrArg some hphase, fun key i hi => ?_⟩
  rw [hcloud] at hi
  obtain ⟨ip, -, rfl⟩ := free_of_pooled hi
  exact ⟨(hwhole key).trans hi, rfl, rfl⟩

/-- **A daemon with a fixed identity and URLs that are written down takes the first address of its zone and gives it
back.** Its cloud is filled with an interface for each address, duplicates included; its start attaches one of those that
have the first address and nothing else; and whenever it is shut down, every interface is as it was. -/
theorem tenure_of_prepare {instanceId url : String} {more : List String} (h : prepare env = .ok (s, config))
    (hid : s.instanceId = some instanceId) (hzone : s.availabilityZone = some zone) (hstatic : s.useDns = false)
    (hurls : Discovery.staticUrls s.serviceUrls zone = url :: more)
    (hdecode : ∀ u ∈ url :: more, ∃ ip, Candidate.decode u = .ok ip) (sites : List Http.Site) :
    ∃ r ip ips, Running.setUp s config sites = .ok r ∧ Candidate.decode url = .ok ip ∧
      Candidate.decodeAll (url :: more) = .ok (ip :: ips) ∧ r.world.cloud = pooled instanceId s.subnetId (ip :: ips) ∧
      (r.operate .start).1 = some (.operation .ended) ∧
      (∃ key id, Occupied r (r.operate .start).2 instanceId s.subnetId ip key id) ∧
      ∀ signalTime, (r.untilSignal signalTime s.shutdownTimeout).1 = .clean ∧
        Vacated r (r.untilSignal signalTime s.shutdownTimeout).2 := by
  have haccepted := accepted_of_prepare h
  obtain ⟨⟨ip, hip⟩, hrest⟩ := List.forall_mem_cons.1 hdecode
  obtain ⟨ips, hmore⟩ := Candidate.decodeAll_of_forall hrest
  have hips : Candidate.decodeAll (url :: more) = .ok (ip :: ips) := Candidate.decodeAll_cons hip hmore
  have hcandidates : Candidates.ofEntries zone (Discovery.staticUrls s.serviceUrls zone) = .ok ⟨ip :: ips⟩ :=
    Candidate.ofEntries_of_decodeAll (hurls ▸ hips)
  obtain ⟨r, hr, hwiring, hbinder, hfresh⟩ :=
    fresh_of_setUp (haccepted.wire_of_static hid hzone hstatic) haccepted.newBinder sites
  have hcloud : (Instant.setUp s (fixedWiring ⟨instanceId, zone⟩ s.serviceUrls s.resolver) ⟨config, Cloud.backend⟩
      sites).cloud = pooled instanceId s.subnetId (ip :: ips) := by
    rw [Instant.setUp, simulatedCloud_eq ⟨instanceId, zone⟩ s.resolver hcandidates]
    rfl
  have hworld : r.world.cloud = pooled instanceId s.subnetId (ip :: ips) := by
    rw [Running.world, hfresh.machine]
    exact hcloud
  have hchannel : (Instant.setUp s (fixedWiring ⟨instanceId, zone⟩ s.serviceUrls s.resolver) ⟨config, Cloud.backend⟩
      sites).state.channel = .ofCapacity Config.default.eventCapacity := by
    rw [haccepted.described]
    rfl
  have hb : Ticks r.binder := hbinder ▸ haccepted.ticks Cloud.backend
  have hretries : 0 < r.binder.config.retries := hbinder ▸ haccepted.retries.1
  -- all that matters of the instant from here on is its cloud and its channel
  generalize Instant.setUp s _ _ sites = t at hfresh hcloud hchannel
  obtain ⟨m, hstart, hserving⟩ := hfresh.installs hb hretries hwiring hcandidates hcloud hchannel (by decide)
  have hoperate : r.operate .start = (some (.operation .ended), { r with machine := m }) := by
    rw [Running.operate, hstart]
  refine ⟨r, ip, ips, hr, hip, hips, hworld, congrArg Prod.fst hoperate, ?_, fun signalTime => ?_⟩
  · rw [hoperate]
    exact occupied_of_installed rfl hworld hserving
  · obtain ⟨m', huntil, hclosed⟩ := hfresh.givesBack hb hretries hwiring hcandidates hcloud hchannel (by decide) signalTime
      s.shutdownTimeout
    rw [huntil]
    exact ⟨rfl, vacated_of_closed hworld hclosed⟩

/-- An environment with a fixed identity and URLs of which two name one address. -/
def writtenDown : Environment :=
  [("ENIBIND_INSTANCE_ID", "i-1"), ("ENIBIND_AVAILABILITY_ZONE", "us-east-1a"),
    ("ENIBIND_SERVICE_URLS", "us-east-1a=http://10.0.0.7:8080/,http://10.0.0.5/,http://10.0.0.7/")]

theorem accepts_writtenDown : (prepare writtenDown).toOption.map (fun accepted =>
    (accepted.1.instanceId, accepted.1.availabilityZone, accepted.1.useDns,
      Discovery.staticUrls accepted.1.serviceUrls "us-east-1a")) =
      some (some "i-1", some "us-east-1a", false, ["http://10.0.0.7:8080/", "http://10.0.0.5/", "http://10.0.0.7/"]) := by
  decide +kernel

theorem decodes_writtenDown : ∀ u ∈ ["http://10.0.0.7:8080/", "http://10.0.0.5/", "http://10.0.0.7/"],
    ∃ ip, Candidate.decode u = .ok ip := by
  have hdecodes : (["http://10.0.0.7:8080/", "http://10.0.0.5/", "http://10.0.0.7/"].map Candidate.decode) =
      [.ok ⟨10, 0, 0, 7⟩, .ok ⟨10, 0, 0, 5⟩, .ok ⟨10, 0, 0, 7⟩] := by decide +kernel
  simp only [List.map_cons, List.map_nil, List.cons.injEq] at hdecodes
  obtain ⟨hfirst, hsecond, hthird, -⟩ := hdecodes
  simp only [List.forall_mem_cons, hfirst, hsecond, hthird]
  exact ⟨⟨_, rfl⟩, ⟨_, rfl⟩, ⟨_, rfl⟩, nofun⟩

theorem tenure_of_writtenDown : ∃ s config r key id, prepare writtenDown = .ok (s, config) ∧
    Running.setUp s config [] = .ok r ∧ Occupied r (r.operate .start).2 "i-1" s.subnetId ⟨10, 0, 0, 7⟩ key id ∧
    Vacated r (r.untilSignal 0 s.shutdownTimeout).2 := by
  have haccepts := accepts_writtenDown
  cases hprepare : prepare writtenDown with
  | error refusal =>
    rw [hprepare] at haccepts
    cases haccepts
  | ok accepted =>
    obtain ⟨s, config⟩ := accepted
    rw [hprepare] at haccepts
    simp only [Except.toOption, Option.map_some, Option.some.injEq, Prod.mk.injEq] at haccepts
    obtain ⟨hid, hzone, hstatic, hurls⟩ := haccepts
    obtain ⟨r, ip, ips, hr, hip, -, -, -, ⟨key, id, hoccupied⟩, huntil⟩ :=
      tenure_of_prepare hprepare hid hzone hstatic hurls decodes_writtenDown []
    have hfirst : Candidate.decode "http://10.0.0.7:8080/" = .ok ⟨10, 0, 0, 7⟩ := by decide +kernel
    obtain rfl := Except.ok.inj (hfirst.symm.trans hip)
    exact ⟨s, config, r, key, id, rfl, hr, hoccupied, (huntil 0).2⟩

end Daemon
end AddressBinder
