import AddressBinder.Net.Ipv4
/-!
# Network interfaces

What the cloud tells about an interface and its attachment, and the filter of a listing.
-/
namespace AddressBinder

/-- The life-cycle status of an interface; `other` is a status the binder has no use for, whatever its text. -/
inductive InterfaceStatus where
  | available
  | inUse
  | attaching
  | detaching
  | other (name : String)
deriving DecidableEq, Inhabited

/-- The status as it stands in a filter. -/
def InterfaceStatus.name : InterfaceStatus → String
  | .available => "available"
  | .inUse => "in-use"
  | .attaching => "attaching"
  | .detaching => "detaching"
  | .other name => name

/-- The relation of an instance to an interface it uses. -/
structure Attachment where
  attachmentId : String
  instanceId : String
  deviceIndex : Nat
deriving DecidableEq, Inhabited

/-- An interface; its address may be missing while it is being created. -/
structure Interface where
  interfaceId : String
  privateIp : Option Ipv4
  status : InterfaceStatus
  attachment : Option Attachment
  subnetId : String
deriving DecidableEq, Inhabited

namespace Interface

/-- An unattached interface that is available. -/
def free (interfaceId : String) (ip : Ipv4) (subnetId : String) : Interface :=
  ⟨interfaceId, some ip, .available, none, subnetId⟩

def attachmentId (i : Interface) : Option String := i.attachment.map (·.attachmentId)

def isHeldBy (i : Interface) (instanceId : String) : Bool :=
  match i.attachment with
  | some a => a.instanceId == instanceId
  | none => false

/-- Whether the interface occupies a device slot of the instance. -/
def occupies (i : Interface) (instanceId : String) (deviceIndex : Nat) : Bool :=
  match i.attachment with
  | some a => a.instanceId == instanceId && a.deviceIndex == deviceIndex
  | none => false

end Interface

/-- A filter of a listing of interfaces; an empty list of addresses and an absent field let everything pass. -/
structure InterfaceFilter where
  privateIps : List Ipv4
  status : Option InterfaceStatus
  subnetId : Option String
deriving DecidableEq, Inhabited

def InterfaceFilter.admits (f : InterfaceFilter) (i : Interface) : Bool :=
  (f.privateIps.isEmpty || (match i.privateIp with | some ip => f.privateIps.contains ip | none => false)) &&
  (match f.status with | some status => i.status == status | none => true) &&
  (match f.subnetId with | some subnetId => i.subnetId == subnetId | none => true)

end AddressBinder
