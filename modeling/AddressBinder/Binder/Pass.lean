import AddressBinder.Binder.Event
import AddressBinder.Binder.Status
import AddressBinder.Candidate.Decode
import AddressBinder.Config.Basic
import AddressBinder.Decision
import AddressBinder.Inventory
/-!
# Passes

What a binder does in one go: it asks its collaborators who and where the instance is, and attaches or detaches by the
answers.  A pass starts from a fresh view each time.  The requests of a pass are calls of collaborators and notes; a
note has no reply, so nothing that a pass decides can depend on the binder's own state.
-/
namespace AddressBinder

inductive Call where
  /-- Who and where the instance is, from the metadata source. -/
  | metadata
  /-- The service URLs of a zone, from discovery. -/
  | serviceUrls (zone : String)
  | provider (call : ProviderCall)
  | clearRegistry
  /-- Fill the peer registry; yields the number of its entries. -/
  | syncUp
  /-- Let the peers in, the number of entries given. -/
  | openForTraffic (count : Nat)
deriving DecidableEq

namespace Call

abbrev Yield : Call → Type
  | .metadata => InstanceMetadata
  | .serviceUrls _ => List String
  | .provider call => call.Yield
  | .clearRegistry => Unit
  | .syncUp => Nat
  | .openForTraffic _ => Unit

abbrev Reply (c : Call) : Type := Except Error c.Yield

end Call

/-- Something a pass leaves behind for others to read. -/
inductive Note where
  /-- An observation for the health snapshot. -/
  | observe (o : Observation)
  | emit (e : Event)
deriving DecidableEq

namespace Pass

inductive Request where
  | call (c : Call)
  | note (n : Note)
deriving DecidableEq

abbrev Request.Reply : Request → Type
  | .call c => c.Reply
  | .note _ => Unit

end Pass

abbrev pass : Signature := ⟨Pass.Request, Pass.Request.Reply⟩

/-- A binder: its configuration, and the name that its provider has in failures. -/
structure Binder where
  config : Config
  backend : String
deriving DecidableEq, Inhabited

namespace Pass

def call (c : Call) : Program pass c.Reply := Program.request (σ := pass) (.call c)

def note (n : Note) : Program pass Unit := Program.request (σ := pass) (.note n)

def observe (o : Observation) : Program pass Unit := note (.observe o)

def emit (e : Event) : Program pass Unit := note (.emit e)

/-- A program that talks to the provider, as part of a pass. -/
def ofProvider {α : Type} (p : Program provider α) : Program pass α :=
  p.translate (τ := pass) fun c => call (.provider c)

/-! ## The view of a pass -/

/-- What one pass knows: the instance as described, and the candidates of its zone. -/
structure Context where
  me : InstanceIdentity
  candidates : Candidates
deriving DecidableEq, Inhabited

/-- The attached interface that holds a candidate address, if one does. -/
def Context.boundInterface? (ctx : Context) : Option Interface :=
  Decision.boundInterface? ctx.me.interfaces ctx.candidates

/-- Asks who the instance is, which addresses its zone has, and what is attached to it. -/
def context (b : Binder) : Program pass (Except Error Context) :=
  (call .metadata).andThen fun (metadata : InstanceMetadata) =>
    (call (.serviceUrls metadata.availabilityZone)).andThen fun (urls : List String) =>
      (Program.done (Candidates.ofEntries metadata.availabilityZone urls)).andThen fun candidates =>
        (ofProvider (Inventory.describeSelf b.backend metadata)).andThen fun me =>
          .done (.ok ⟨me, candidates⟩)

/-! ## Binding -/

inductive Bound where
  | attached (interfaceId : String) (ip : Ipv4) (attachmentId : String)
  /-- Every candidate is taken or not in the subnet. -/
  | noneAvailable
deriving DecidableEq, Inhabited

def noAddress (i : Interface) : Error := .notFound ("private address of " ++ i.interfaceId)

/-- Attaches an interface with a candidate address. -/
def attach (ctx : Context) (i : Interface) : Program pass (Except Error Bound) :=
  match i.privateIp with
  | none => .done (.error (noAddress i))
  | some ip =>
    (ofProvider (Inventory.attach i.interfaceId ctx.me.instanceId)).andThen fun attachmentId =>
      (observe (.bound ip)).bind fun _ =>
        (emit (.attached i.interfaceId ip attachmentId)).bind fun _ =>
          .done (.ok (.attached i.interfaceId ip attachmentId))

/-- Attaches the best free candidate interface of the subnet, if there is one. -/
def bindIn (b : Binder) (ctx : Context) : Program pass (Except Error Bound) :=
  (ofProvider (Inventory.findAvailable b.backend ctx.candidates ctx.me.subnetId)).andThen fun available =>
    match Decision.select? available ctx.candidates with
    | none =>
      (emit (.noInterfaceAvailable ctx.me.availabilityZone)).bind fun _ => .done (.ok .noneAvailable)
    | some i => attach ctx i

def bind (b : Binder) : Program pass (Except Error Bound) := (context b).andThen (bindIn b)

def observeHeld (i : Interface) : Program pass Unit :=
  match i.privateIp with
  | some ip => observe (.bound ip)
  | none => .done ()

/-- One attempt to be bound: a held address counts, otherwise an interface is attached. -/
def attempt (b : Binder) : Program pass (Except Error Bool) :=
  (context b).andThen fun ctx =>
    match ctx.boundInterface? with
    | some i => (observeHeld i).bind fun _ => .done (.ok true)
    | none =>
      (bindIn b ctx).andThen fun
        | .attached .. => .done (.ok true)
        | .noneAvailable => .done (.ok false)

def alreadyBound (b : Binder) : Program pass (Except Error Bool) :=
  (context b).andThen fun ctx => .done (.ok ctx.boundInterface?.isSome)

/-! ## Unbinding -/

inductive Unbound where
  | detached (interfaceId attachmentId : String)
  | notBound
deriving DecidableEq, Inhabited

def noAttachment (i : Interface) : Error := .notFound ("attachment of " ++ i.interfaceId)

def detach (i : Interface) : Program pass (Except Error Unbound) :=
  match i.attachmentId with
  | none => .done (.error (noAttachment i))
  | some attachmentId =>
    (ofProvider (Inventory.detach attachmentId)).andThen fun _ =>
      (emit (.detached i.interfaceId attachmentId)).bind fun _ =>
        .done (.ok (.detached i.interfaceId attachmentId))

/-- Detaches the candidate interface that is attached, if one is. -/
def unbind (b : Binder) : Program pass (Except Error Unbound) :=
  (context b).andThen fun ctx =>
    match ctx.boundInterface? with
    | none => .done (.ok .notBound)
    | some i => detach i

/-! ## Periodic passes -/

/-- Empties and fills the peer registry, then binds. -/
def rebind (b : Binder) (ctx : Context) : Program pass (Except Error Bool) :=
  (observe .unbound).bind fun _ =>
    (call .clearRegistry).andThen fun _ =>
      (call .syncUp).andThen fun (count : Nat) =>
        (call (.openForTraffic count)).andThen fun _ =>
          (emit (.registryResynced count)).bind fun _ =>
            (bindIn b ctx).andThen fun _ => .done (.ok false)

/-- Checks the binding and restores it when it is lost; yields whether the instance was bound at the start. -/
def reconcile (b : Binder) : Program pass (Except Error Bool) :=
  (context b).andThen fun ctx =>
    match ctx.boundInterface? with
    | some i => (observeHeld i).bind fun _ => .done (.ok true)
    | none => rebind b ctx

/-- The delay after a pass that found the instance bound or not. -/
def nextDelay (b : Binder) (bound : Bool) : Nat :=
  if bound then b.config.boundInterval else b.config.unboundInterval

/-- Records the result of a pass and yields the delay before the next one. -/
def conclude (b : Binder) : Except Error Bool → Program pass Nat
  | .ok bound =>
    (observe (.pass none)).bind fun _ =>
      (emit (.passCompleted bound (nextDelay b bound))).bind fun _ => .done (nextDelay b bound)
  | .error e =>
    (observe (.pass (some e.message))).bind fun _ =>
      (emit (.passFailed e.message b.config.unboundInterval)).bind fun _ => .done b.config.unboundInterval

def periodic (b : Binder) : Program pass Nat := (reconcile b).bind (conclude b)

end Pass
end AddressBinder
