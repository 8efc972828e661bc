import AddressBinder.Proofs.Simulation.Course
/-!
# Accepted environments

The checks that an environment has to pass, the daemon's own and those of the binder's configuration, leave nothing to
go wrong when the daemon is set up: its collaborators and its binder are made, and the simulated cloud is filled with what
can be learnt (`seeded_simulatedCloud`).  A daemon that is set up starts, serves, and is shut down, unless the shutdown
takes too long.
-/
namespace AddressBinder

theorem ok_of_unless {ε : Type} {c : Bool} {e : ε} {rest : Except ε Unit} (h : (if c then .error e else rest) = .ok ()) :
    c = false ∧ rest = .ok () := by
  cases c with
  | true => cases h
  | false => exact ⟨rfl, h⟩

namespace Config

/-- What the checks of a configuration let through. -/
structure Checked (c : Config) : Prop where
  bound : 0 < c.boundInterval
  unbound : 0 < c.unboundInterval
  discovery : validateDiscovery c.discovery = .ok ()

theorem checked_of_validate {c : Config} (h : c.validate = .ok ()) : c.Checked := by
  unfold validate at h
  split at h
  · cases h
  split at h
  · cases h
  rename_i hbound
  split at h
  · cases h
  rename_i hunbound
  split at h
  · cases h
  refine ⟨Nat.pos_of_ne_zero hbound, Nat.pos_of_ne_zero hunbound, ?_⟩
  cases hdiscovery : validateDiscovery c.discovery with
  | error fault =>
    rw [hdiscovery] at h
    cases h
  | ok _ => rfl

end Config

namespace Daemon

open Simulation

variable {s : Settings} {config : Config} {env : Environment}

/-- What the daemon's own checks let through. -/
structure Settings.Checked (s : Settings) : Prop where
  endpoint : s.useDns = true → s.resolverEndpoint.isSome = true
  retries : Settings.isWithin 1 10 s.retries = true

theorem Settings.checked_of_validate (h : s.validate = .ok ()) : s.Checked := by
  unfold Settings.validate at h
  simp only [bind, Except.bind, throw, throwThe, MonadExceptOf.throw, pure, Except.pure] at h
  obtain ⟨-, h⟩ := ok_of_unless h
  obtain ⟨hendpoint, h⟩ := ok_of_unless h
  cases hbackend : s.checkBackend with
  | error fault =>
    rw [hbackend] at h
    cases h
  | ok _ =>
    rw [hbackend] at h
    obtain ⟨hretries, -⟩ := ok_of_unless h
    refine ⟨fun hdns => ?_, by simpa using hretries⟩
    simpa [hdns] using hendpoint

/-- The settings and the configuration of an accepted environment. -/
structure Accepted (s : Settings) (config : Config) : Prop where
  checked : s.Checked
  described : config = s.describedConfig
  valid : config.validate = .ok ()

/-- What an accepted environment went through. -/
theorem stages_of_prepare (h : prepare env = .ok (s, config)) :
    Settings.load env = .ok s ∧ s.validate = .ok () ∧ s.binderConfig = .ok config := by
  unfold prepare at h
  cases hload : Settings.load env with
  | error u =>
    rw [hload] at h
    cases h
  | ok settings =>
    rw [hload] at h
    dsimp only at h
    cases hcheck : settings.validate with
    | error fault =>
      rw [hcheck] at h
      cases h
    | ok _ =>
      rw [hcheck] at h
      dsimp only at h
      cases hconfig : settings.binderConfig with
      | error fault =>
        rw [hconfig] at h
        cases h
      | ok _ =>
        rw [hconfig] at h
        cases h
        exact ⟨rfl, hcheck, hconfig⟩

theorem accepted_of_prepare (h : prepare env = .ok (s, config)) : Accepted s config := by
  obtain ⟨-, hcheck, hconfig⟩ := stages_of_prepare h
  unfold Settings.binderConfig at hconfig
  cases hvalid : s.describedConfig.validate with
  | error fault =>
    rw [hvalid] at hconfig
    cases hconfig
  | ok _ =>
    rw [hvalid] at hconfig
    cases hconfig
    exact ⟨Settings.checked_of_validate hcheck, rfl, hvalid⟩

theorem Accepted.retries (h : Accepted s config) : 0 < config.retries ∧ config.retries ≤ 10 := by
  have hwithin := h.checked.retries
  rw [h.described]
  show 0 < s.retries.getD Config.default.retries ∧ s.retries.getD Config.default.retries ≤ 10
  cases hn : s.retries with
  | none => decide
  | some n =>
    rw [hn] at hwithin
    obtain ⟨hlow, hhigh⟩ := Bool.and_eq_true_iff.1 hwithin
    exact ⟨of_decide_eq_true hlow, of_decide_eq_true hhigh⟩

theorem Accepted.ticks (h : Accepted s config) (backend : String) : Ticks ⟨config, backend⟩ :=
  have hchecked := Config.checked_of_validate h.valid
  ⟨hchecked.bound, hchecked.unbound⟩

/-! ## Setting up -/

/-- **The collaborators of an accepted environment are made**: records are looked up only when there are settings for them
and a resolver. -/
theorem Accepted.wire (h : Accepted s config) : ∃ source, Daemon.wire s config = .ok ⟨s.identity, source, s.resolver⟩ ∧
    (s.useDns = false → source = .static s.serviceUrls) := by
  have hdiscovery : config.discovery = ⟨s.useDns, s.serviceUrls, s.dns⟩ := by rw [h.described]; rfl
  have hvalid := (Config.checked_of_validate h.valid).discovery
  rw [hdiscovery] at hvalid
  unfold Daemon.wire Discovery.Source.ofSettings
  rw [hdiscovery]
  cases hdns : s.useDns with
  | false => exact ⟨_, rfl, fun _ => rfl⟩
  | true =>
    have hresolver : s.resolver.isSome = true := by
      rw [Settings.resolver, hdns]
      exact h.checked.endpoint hdns
    cases hsettings : s.dns with
    | none =>
      rw [hdns, hsettings] at hvalid
      cases hvalid
    | some settings =>
      rw [hresolver]
      exact ⟨_, rfl, nofun⟩

theorem Accepted.newBinder (h : Accepted s config) : Daemon.newBinder config = .ok ⟨config, Cloud.backend⟩ := by
  simp only [Daemon.newBinder, Binder.new, h.valid]

/-- What the simulated cloud is filled with, when `subnetId` is its subnet: nothing, the instance, or the instance and free
interfaces. -/
inductive Seeded (subnetId : String) : Cloud → Prop where
  | nothing : Seeded subnetId Cloud.empty
  | instanceOnly (instanceId : String) : Seeded subnetId (Cloud.empty.addInstance instanceId subnetId)
  | pool (instanceId : String) (addresses : List Ipv4) :
    Seeded subnetId (addPool subnetId 1 addresses (Cloud.empty.addInstance instanceId subnetId))

/-- **The simulated cloud is filled with what can be learnt**, whatever the collaborators answer. -/
theorem seeded_simulatedCloud {S : Type} (serve : (r : Daemon.Request) → S → r.Reply × S) (s : Settings) (w : Wiring) :
    ∀ x : S, Seeded s.subnetId ((simulatedCloud s w).run serve x).1 :=
  Program.run_bind_of_forall fun (metadata : Except Error InstanceMetadata) x =>
    match metadata with
    | .error _ => .nothing
    | .ok metadata => Program.run_bind_of_forall (fun (urls : Except Error (List String)) x =>
      match urls with
      | .error _ => .instanceOnly metadata.instanceId
      | .ok urls => by
        dsimp only
        cases Candidates.ofEntries metadata.availabilityZone urls with
        | error _ => exact .instanceOnly metadata.instanceId
        | ok candidates => exact .pool metadata.instanceId candidates.addresses) x

end Daemon

namespace Simulation

open Daemon Lifecycle

variable {settings : Settings} {config : Config} {w : Wiring} {b : Binder}

/-- The instant at which the daemon's binder is made, before the cloud is filled. -/
def Instant.first (b : Binder) (sites : List Http.Site) : Instant :=
  ⟨0, Cloud.empty, sites, .initial b.config.eventCapacity, 1⟩

theorem run_serveAtOnce {α : Type} : ∀ (p : Program daemon α) (s : Instant) (x : World),
    p.run Running.serveAtOnce { x with cloud := s.cloud, sites := s.sites } =
      ((p.run Instant.serveCollaborator s).1, { x with
        cloud := (p.run Instant.serveCollaborator s).2.cloud
        sites := (p.run Instant.serveCollaborator s).2.sites })
  | .done _, _, _ => rfl
  | .ask (.provider call) k, s, x =>
    run_serveAtOnce (k (Cloud.serve call s.cloud).1) { s with cloud := (Cloud.serve call s.cloud).2 } x
  | .ask (.http request) k, s, x =>
    run_serveAtOnce (k (Http.serve request s.sites).1) { s with sites := (Http.serve request s.sites).2 } x

/-- The instant at which the daemon is set up. -/
def Instant.setUp (settings : Settings) (w : Wiring) (b : Binder) (sites : List Http.Site) : Instant :=
  let filled := (simulatedCloud settings w).run Instant.serveCollaborator (.first b sites)
  { Instant.first b sites with cloud := filled.1, sites := filled.2.sites }

/-- **A daemon with its collaborators and its binder made is set up**, and is not started yet. -/
theorem setUp_eq (hwire : Daemon.wire settings config = .ok w) (hbinder : Daemon.newBinder config = .ok b)
    (sites : List Http.Site) : Running.setUp settings config sites =
      .ok ⟨w, b, ⟨(Instant.setUp settings w b sites).world w b, [task w b (firstRound b)]⟩⟩ := by
  unfold Running.setUp
  rw [hwire, hbinder]
  have hfilled : (simulatedCloud settings w).run Running.serveAtOnce { World.empty with sites } =
      ((Instant.setUp settings w b sites).cloud, { World.empty with
        cloud := ((simulatedCloud settings w).run Instant.serveCollaborator (Instant.first b sites)).2.cloud
        sites := (Instant.setUp settings w b sites).sites }) :=
    run_serveAtOnce (simulatedCloud settings w) (Instant.first b sites) World.empty
  -- the task waits to be armed, so a machine that is launched with it has nothing to settle
  have hrests : (⟨(Instant.setUp settings w b sites).world w b, [task w b (firstRound b)]⟩ : Sim).Rests kernel :=
    rests_firstRound rfl
  dsimp only
  rw [hfilled]
  refine congrArg (fun m => Except.ok (Running.mk w b m)) ?_
  exact Machine.settle_of_rests hrests patience

theorem fresh_of_setUp (hwire : Daemon.wire settings config = .ok w) (hbinder : Daemon.newBinder config = .ok b)
    (sites : List Http.Site) : ∃ r, Running.setUp settings config sites = .ok r ∧ r.wiring = w ∧ r.binder = b ∧
      Fresh r.wiring r.binder (Instant.setUp settings w b sites) r.machine :=
  ⟨_, setUp_eq hwire hbinder sites, rfl, rfl, rfl, ⟨rfl, rfl, rfl, rfl⟩, rfl⟩

/-! ## A whole run -/

/-- The daemon over other sites from now on. -/
def Running.onSites (r : Running) (sites : List Http.Site) : Running :=
  { r with machine := onWorld r.machine fun x => { x with sites } }

/-- The daemon when it is started and the signal has come. -/
def Running.atSignal (r : Running) (signalTime : Nat) : Running :=
  let started := (r.operate .start).2
  { started with machine := started.machine.advanceTo kernel (Nat.max signalTime started.world.clock) patience }

/-- The time at which a shutdown is given up that begins now. -/
def Running.deadline (r : Running) (seconds : Nat) : Nat := Clock.endOfWait r.world.clock (1000 * seconds)

theorem upheld_true (w : Wiring) (b : Binder) : Upheld w b fun _ => True := ⟨fun _ _ _ => trivial, fun _ _ _ => trivial⟩

section Life

variable {s : Instant} {m : Sim} (hb : Ticks b) (hretries : b.config.retries ≤ 10)

include hb hretries

/-- **A daemon starts**, whatever its collaborators do. -/
theorem Fresh.starts (h : Fresh w b s m) :
    ∃ m', runThread m (operationThread Running.number b (Running.answer w) .start) = (some (.operation .ended), m') ∧
      Serving w b (fun _ => True) m' :=
  h.start hb (fun _ ht => ht) (fun _ _ ht => ⟨ht.schedule, ht.locked, ht.terminal, ht.holders⟩)
    (fun _ _ hr => ⟨hr.1, hr.2, trivial⟩) (by unfold patience; omega) (pauses_starting h.marked)

/-- **A daemon that serves is shut down, unless the limit comes first.** -/
theorem Serving.shutsDown (h : Serving w b (fun _ => True) m) (limit : Option Nat) :
    Closed w b (fun t => t.state.status.phase = .stopped)
        ((m.spawn (operationThread Running.number b (Running.answer w) .shutdown)).runUntilDone kernel m.threads.length
          limit patience) ∨
      Late m.threads.length limit ((m.spawn (operationThread Running.number b (Running.answer w) .shutdown)).runUntilDone
        kernel m.threads.length limit patience) :=
  h.shutdown hb (upheld_true w b) (fun _ _ ht => ⟨ht.schedule, ht.locked, ht.terminal, ht.holders⟩)
    (fun _ _ hr => ⟨hr.2.1.holders, hr.1, hr.2.2⟩) limit (by unfold patience; omega) fun _ _ hs => pauses_stopping hs.quiet

end Life

theorem Closed.phase {m : Sim} (h : Closed w b (fun t => t.state.status.phase = .stopped) m) :
    (status? m Running.number).map (·.phase) = some .stopped := by
  obtain ⟨t, rfl, hphase⟩ := h
  exact congrArg some hphase

theorem atSignal_of_start {r : Running} {m : Sim} {o : Option Outcome} (h : runThread r.machine (r.thread .start) = (o, m))
    (signalTime : Nat) : r.atSignal signalTime =
      { r with machine := m.advanceTo kernel (Nat.max signalTime m.state.clock) patience } := by
  unfold Running.atSignal Running.operate
  rw [h]
  rfl

/-- The machine of the daemon once its shutdown is over or given up. -/
def Running.shutDown (r : Running) (seconds : Nat) : Sim :=
  (r.machine.spawn (r.thread .shutdown)).runUntilDone kernel r.machine.threads.length (some (r.deadline seconds)) patience

theorem untilSignal_of_atSignal {r q : Running} {signalTime : Nat} (h : r.atSignal signalTime = q)
    (hthread : r.thread .shutdown = q.thread .shutdown) (seconds : Nat) : r.untilSignal signalTime seconds =
      (if ((q.shutDown seconds).result? q.machine.threads.length).isSome then .clean else .timedOut seconds,
        { q with machine := q.shutDown seconds }) := by
  subst h
  unfold Running.untilSignal Running.shutDown
  rw [hthread]
  rfl

/-- A shutdown that closes the daemon ends its run clean. -/
theorem untilSignal_of_closed {K L : Instant → Prop} {r : Running} {m : Sim} {signalTime seconds : Nat}
    (hat : r.atSignal signalTime = { r with machine := m }) (hserving : Serving r.wiring r.binder K m)
    (hclosed : Closed r.wiring r.binder L (Running.shutDown { r with machine := m } seconds)) :
    r.untilSignal signalTime seconds =
      (.clean, { r with machine := Running.shutDown { r with machine := m } seconds }) := by
  have hended := hclosed.result?
  rw [← hserving.length_threads] at hended
  rw [untilSignal_of_atSignal hat rfl]
  exact congrArg (fun e => (e, _)) (if_pos (congrArg Option.isSome hended))

theorem Fresh.operate_start {r : Running} {s : Instant} (hb : Ticks r.binder) (hretries : r.binder.config.retries ≤ 10)
    (h : Fresh r.wiring r.binder s r.machine) : (r.operate .start).1 = some (.operation .ended) := by
  obtain ⟨m, hstart, -⟩ := h.starts hb hretries
  exact congrArg Prod.fst hstart

/-- **A daemon that starts and is shut down ends clean, unless its shutdown exceeds the limit.** -/
theorem Fresh.untilSignal {r : Running} {s : Instant} (hb : Ticks r.binder) (hretries : r.binder.config.retries ≤ 10)
    (h : Fresh r.wiring r.binder s r.machine) (signalTime seconds : Nat) :
    ((r.untilSignal signalTime seconds).1 = .clean ∧
        (r.untilSignal signalTime seconds).2.status?.map (·.phase) = some .stopped) ∨
      (r.untilSignal signalTime seconds).1 = .timedOut seconds ∧
        (r.untilSignal signalTime seconds).2.world.clock = (r.atSignal signalTime).deadline seconds := by
  obtain ⟨m, hstart, hserving⟩ := h.starts hb hretries
  have hwaiting := hserving.advanceTo hb (upheld_true _ _) (Nat.max signalTime m.state.clock) patience
  have hat := atSignal_of_start hstart signalTime
  generalize m.advanceTo kernel (Nat.max signalTime m.state.clock) patience = m' at hwaiting hat
  rcases hwaiting.shutsDown hb hretries (some (Running.deadline ⟨r.wiring, r.binder, m'⟩ seconds)) with
    hclosed | ⟨hnone, last, hlimit, hclock⟩
  · rw [untilSignal_of_closed hat hwaiting hclosed]
    exact .inl ⟨rfl, hclosed.phase⟩
  · obtain rfl := Option.some.inj hlimit
    have hlate : ¬ ((Running.shutDown ⟨r.wiring, r.binder, m'⟩ seconds).result? m'.threads.length).isSome = true := by
      rw [Bool.not_eq_true]
      exact congrArg Option.isSome hnone
    rw [untilSignal_of_atSignal hat rfl, hat]
    exact .inr ⟨if_neg hlate, hclock⟩

theorem Fresh.onSites {r : Running} {s : Instant} (h : Fresh r.wiring r.binder s r.machine) (sites : List Http.Site) :
    Fresh (r.onSites sites).wiring (r.onSites sites).binder { s with sites } (r.onSites sites).machine := by
  obtain ⟨hmachine, hs, hnew⟩ := h
  refine ⟨?_, ⟨hs.schedule, hs.locked, hs.terminal, hs.holders⟩, hnew⟩
  unfold Running.onSites
  rw [hmachine]
  rfl

end Simulation

namespace Daemon

open Simulation

/-- **An accepted environment never fails to be set up**: the collaborators and the binder are made, the cloud is filled
whatever is answered, and the daemon that comes of it starts over any sites, and ends clean unless its shutdown takes longer
than it may. -/
theorem setUp_of_prepare {env : Environment} {s : Settings} {config : Config} (h : prepare env = .ok (s, config)) :
    ∃ w, wire s config = .ok w ∧ newBinder config = .ok ⟨config, Cloud.backend⟩ ∧
      (∀ (S : Type) (serve : (r : Daemon.Request) → S → r.Reply × S) (x : S),
        Seeded s.subnetId ((simulatedCloud s w).run serve x).1) ∧
      ∀ sites, ∃ r, Running.setUp s config sites = .ok r ∧ r.wiring = w ∧ r.binder = ⟨config, Cloud.backend⟩ ∧
        ∀ sites', ((r.onSites sites').operate .start).1 = some (.operation .ended) ∧
          ∀ signalTime, let e := (r.onSites sites').untilSignal signalTime s.shutdownTimeout
            (e.1 = .clean ∧ e.2.status?.map (·.phase) = some .stopped) ∨
              e.1 = .timedOut s.shutdownTimeout ∧
                e.2.world.clock = ((r.onSites sites').atSignal signalTime).deadline s.shutdownTimeout := by
  have haccepted := accepted_of_prepare h
  obtain ⟨source, hwire, -⟩ := haccepted.wire
  refine ⟨_, hwire, haccepted.newBinder, fun _ serve x => seeded_simulatedCloud serve s _ x, fun sites => ?_⟩
  obtain ⟨r, hr, hwiring, hbinder, hfresh⟩ := fresh_of_setUp hwire haccepted.newBinder sites
  refine ⟨r, hr, hwiring, hbinder, fun sites' => ?_⟩
  have hb : Ticks (r.onSites sites').binder := hbinder ▸ haccepted.ticks Cloud.backend
  have hretries : (r.onSites sites').binder.config.retries ≤ 10 := hbinder ▸ haccepted.retries.2
  have hfresh' := hfresh.onSites sites'
  generalize r.onSites sites' = r' at hb hretries hfresh'
  exact ⟨hfresh'.operate_start hb hretries, fun signalTime => hfresh'.untilSignal hb hretries signalTime s.shutdownTimeout⟩

/-- An environment that looks its records up over a name service. -/
def lookingUp : Environment :=
  [("ENIBIND_USE_DNS", "true"), ("ENIBIND_DNS_DOMAIN", "discovery.internal"),
    ("ENIBIND_DOH_ENDPOINT", "http://127.0.0.1:8053/dns-query")]

theorem accepts_lookingUp : (prepare lookingUp).toOption.isSome = true := by decide +kernel

theorem setUp_of_lookingUp : ∃ s config r, prepare lookingUp = .ok (s, config) ∧ Running.setUp s config [] = .ok r ∧
    ((r.onSites []).operate .start).1 = some (.operation .ended) := by
  have haccepts := accepts_lookingUp
  cases hprepare : prepare lookingUp with
  | error refusal =>
    rw [hprepare] at haccepts
    cases haccepts
  | ok accepted =>
    obtain ⟨s, config⟩ := accepted
    obtain ⟨w, -, -, -, hsites⟩ := setUp_of_prepare hprepare
    obtain ⟨r, hr, -, -, hruns⟩ := hsites []
    exact ⟨s, config, r, rfl, hr, (hruns []).1⟩

end Daemon
end AddressBinder
