import AddressBinder.Cloud.Provider
import AddressBinder.Candidate.Basic
/-!
# The instance inventory

The binder's view of the provider: it shapes the calls and sorts the failures, so that a failure of an inventory
operation always says which operation failed.  Nothing is kept between calls.
-/
namespace AddressBinder
namespace Inventory

/-- The device slot of the stable interface; slot 0 is the primary one. -/
def secondarySlot : Nat := 1

/-- A failed describe call, as the inventory reports it. -/
def queryError (backend : String) : Error → Error
  | .providerQuery b reason => .providerQuery b reason
  | .notFound what => .notFound what
  | e => .providerQuery backend e.message

/-- A failed attach call, as the inventory reports it. -/
def attachError (interfaceId : String) : Error → Error
  | .attach i reason => .attach i reason
  | e => .attach interfaceId e.message

/-- A failed detach call, as the inventory reports it. -/
def detachError (attachmentId : String) : Error → Error
  | .detach a reason => .detach a reason
  | e => .detach attachmentId e.message

/-- Describes the instance that the metadata names: its subnet and the interfaces attached to it. -/
def describeSelf (backend : String) (metadata : InstanceMetadata) : Program provider (Except Error InstanceIdentity) :=
  ((Program.request (σ := provider) (.describeInstance metadata.instanceId)).mapError (queryError backend)).andThen fun
    | none => .done (.error (.notFound ("instance " ++ metadata.instanceId)))
    | some d => .done (.ok ⟨d.instanceId, metadata.availabilityZone, d.subnetId, d.interfaces⟩)

/-- The filter of the interfaces that may be attached. -/
def availableFilter (candidates : Candidates) (subnetId : String) : InterfaceFilter :=
  ⟨candidates.addresses, some .available, some subnetId⟩

/-- The available interfaces of a subnet with a candidate address; none means that no address is free. -/
def findAvailable (backend : String) (candidates : Candidates) (subnetId : String) :
    Program provider (Except Error (List Interface)) :=
  (Program.request (σ := provider) (.describeInterfaces (availableFilter candidates subnetId))).mapError
    (queryError backend)

/-- Attaches an interface at the secondary slot and yields the attachment id. -/
def attach (interfaceId instanceId : String) : Program provider (Except Error String) :=
  (Program.request (σ := provider) (.attach interfaceId instanceId secondarySlot)).mapError (attachError interfaceId)

/-- Releases an attachment. -/
def detach (attachmentId : String) : Program provider (Except Error Unit) :=
  (Program.request (σ := provider) (.detach attachmentId)).mapError (detachError attachmentId)

end Inventory
end AddressBinder
