import AddressBinder.Binder.Operation
import AddressBinder.Cloud.Memory
import AddressBinder.Daemon.Settings
import AddressBinder.Discovery.Source
import AddressBinder.Http.Metadata
import AddressBinder.Http.NameService
/-!
# The daemon's collaborators

The binder of the daemon runs over a simulated cloud.  Its identity is fixed or comes from the metadata service, its
service URLs are written down or come from the name service, and its peer registry is empty.
-/
namespace AddressBinder
namespace Daemon

inductive Request where
  | provider (call : ProviderCall)
  | http (request : Http.Request)
deriving DecidableEq

abbrev Request.Reply : Request → Type
  | .provider call => call.Reply
  | .http _ => Except String Http.Response

end Daemon

/-- The requests of the daemon's collaborators. -/
def daemon : Signature := ⟨Daemon.Request, Daemon.Request.Reply⟩

namespace Daemon

inductive IdentitySource where
  | fixed (metadata : InstanceMetadata)
  /-- The metadata service at a base URL. -/
  | service (base : String)
deriving DecidableEq, Inhabited

/-- The collaborators of a daemon. -/
structure Wiring where
  identity : IdentitySource
  source : Discovery.Source
  /-- The endpoint of the name service, if lookups are wanted. -/
  resolver : Option String
deriving DecidableEq, Inhabited

/-- Where the identity comes from by the settings. -/
def Settings.identity (s : Settings) : IdentitySource :=
  match s.instanceId, s.availabilityZone with
  | some instanceId, some zone => .fixed ⟨instanceId, zone⟩
  | _, _ => .service (s.metadataUrl.getD Http.Metadata.defaultBase)

def Settings.resolver (s : Settings) : Option String := if s.useDns then s.resolverEndpoint else none

/-- Why an accepted environment leads to no running daemon. -/
inductive SetupFault where
  | discovery (fault : Discovery.Fault)
  | binder (fault : Config.Fault)
deriving DecidableEq, Inhabited

def SetupFault.message : SetupFault → String
  | .discovery fault => "Failed to build service URL discovery: " ++ fault.error.message
  | .binder fault => "Failed to create binder: " ++ fault.error.message

/-- The collaborators that the settings describe. -/
def wire (s : Settings) (config : Config) : Except SetupFault Wiring :=
  match Discovery.Source.ofSettings config.discovery s.region s.resolver.isSome with
  | .error fault => .error (.discovery fault)
  | .ok source => .ok ⟨s.identity, source, s.resolver⟩

def newBinder (config : Config) : Except SetupFault Binder :=
  match Binder.new config Cloud.backend with
  | .error fault => .error (.binder fault)
  | .ok b => .ok b

/-! ## Collaborators at work -/

/-- A program of an HTTP client, as one of the daemon. -/
def ofClient {α : Type} (p : Program Http.client α) : Program daemon α :=
  p.translate (τ := daemon) fun r => Program.request (σ := daemon) (.http r)

def lookupRecords (w : Wiring) (name : String) : Program daemon (Except Error (List String)) :=
  match w.resolver with
  | some endpoint => ofClient (Http.NameService.lookupTxt endpoint name)
  | none => .done (.error Discovery.Fault.noResolver.error)

def readMetadata (w : Wiring) : Program daemon (Except Error InstanceMetadata) :=
  match w.identity with
  | .fixed metadata => .done (.ok metadata)
  | .service base => ofClient (Http.Metadata.metadata base)

def listUrls (w : Wiring) (zone : String) : Program daemon (Except Error (List String)) :=
  (w.source.urls zone).translate (τ := daemon) (lookupRecords w)

/-- How the daemon's collaborators serve the binder's calls. -/
def collaborate (w : Wiring) : (c : Call) → Program daemon c.Reply
  | .metadata => readMetadata w
  | .serviceUrls zone => listUrls w zone
  | .provider call => Program.request (σ := daemon) (.provider call)
  | .clearRegistry => .done (.ok ())
  | .syncUp => .done (.ok (0 : Nat))
  | .openForTraffic _ => .done (.ok ())

/-! ## The simulated cloud -/

/-- The id of the simulated interface with a number. -/
def simulatedId (n : Nat) : String := "eni-sim-" ++ showNat n

/-- The cloud with one free interface per address, numbered from `n` on. -/
def addPool (subnetId : String) : Nat → List Ipv4 → Cloud → Cloud
  | _, [], c => c
  | n, ip :: ips, c => addPool subnetId (n + 1) ips (c.addInterface (.free (simulatedId n) ip subnetId))

/-- The simulated cloud: the instance, and a free interface for each candidate of its zone.  What cannot be learnt is
left out; the binder's own attempts report it. -/
def simulatedCloud (s : Settings) (w : Wiring) : Program daemon Cloud :=
  (readMetadata w).bind fun
    | .error _ => .done Cloud.empty
    | .ok metadata =>
      let cloud := Cloud.empty.addInstance metadata.instanceId s.subnetId
      (listUrls w metadata.availabilityZone).bind fun
        | .error _ => .done cloud
        | .ok urls =>
          match Candidates.ofEntries metadata.availabilityZone urls with
          | .error _ => .done cloud
          | .ok candidates => .done (addPool s.subnetId 1 candidates.addresses cloud)

end Daemon
end AddressBinder
