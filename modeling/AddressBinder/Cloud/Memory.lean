import AddressBinder.Cloud.Provider
import AddressBinder.TextMap
import AddressBinder.Text.Numeral
/-!
# The in-memory cloud

The slice of provider behaviour the binder depends on, as a state and one function per call.  An interface is available
until it is attached; attaching never steals, since an attached interface and an occupied device slot make the call
fail; detaching makes the interface available again.  Every call is recorded, and each class of calls can be made to
fail.
-/
namespace AddressBinder

/-- A call as it is recorded. -/
inductive CloudCall where
  | describeInstance (instanceId : String)
  | describeInterfaces
  | attach (interfaceId instanceId : String) (deviceIndex : Nat)
  | detach (attachmentId : String)
deriving DecidableEq, Inhabited

structure Cloud where
  /-- The subnet of each instance. -/
  instances : TextMap String
  interfaces : TextMap Interface
  /-- How many attachment ids have been handed out. -/
  attachments : Nat
  failQueries : Bool
  failAttaches : Bool
  failDetaches : Bool
  /-- The calls made so far, in order. -/
  journal : List CloudCall
deriving DecidableEq

namespace Cloud

/-- The cloud without instances and interfaces, in which no call fails. -/
def empty : Cloud := ⟨TextMap.empty, TextMap.empty, 0, false, false, false, []⟩

instance : Inhabited Cloud := ⟨empty⟩

/-- The name of the backend in failures. -/
def backend : String := "memory"

/-! ## Setting up and looking -/

def addInstance (c : Cloud) (instanceId subnetId : String) : Cloud :=
  { c with instances := c.instances.insert instanceId subnetId }

def addInterface (c : Cloud) (i : Interface) : Cloud :=
  { c with interfaces := c.interfaces.insert i.interfaceId i }

/-- The instance that holds the first interface with an address. -/
def holderOf (c : Cloud) (ip : Ipv4) : Option String :=
  match c.interfaces.values.find? (fun i => i.privateIp == some ip) with
  | some i => i.attachment.map (·.instanceId)
  | none => none

/-- The recorded attach calls, as interface, instance and device slot. -/
def attachCalls (c : Cloud) : List (String × String × Nat) :=
  c.journal.filterMap fun
    | .attach i n d => some (i, n, d)
    | _ => none

/-- The recorded detach calls, by attachment id. -/
def detachCalls (c : Cloud) : List String :=
  c.journal.filterMap fun
    | .detach a => some a
    | _ => none

def record (c : Cloud) (call : CloudCall) : Cloud := { c with journal := c.journal ++ [call] }

/-! ## Describing -/

def slot (i : Interface) : Nat :=
  match i.attachment with
  | some a => a.deviceIndex
  | none => 0

/-- Puts an interface before the first one with a slot that is not smaller. -/
def insertBySlot (i : Interface) : List Interface → List Interface
  | [] => [i]
  | j :: js => if slot i ≤ slot j then i :: j :: js else j :: insertBySlot i js

/-- The interfaces by device slot; those of one slot stay in their order. -/
def sortBySlot (is : List Interface) : List Interface := is.foldr insertBySlot []

/-- The interfaces attached to an instance, by device slot. -/
def heldBy (c : Cloud) (instanceId : String) : List Interface :=
  sortBySlot (c.interfaces.values.filter (fun i => i.isHeldBy instanceId))

/-- Describes an instance; an instance that is not registered has no description. -/
def describeInstance (c : Cloud) (instanceId : String) : Except Error (Option InstanceDescription) :=
  if c.failQueries then .error (.providerQuery backend "describe-instances unavailable")
  else .ok ((c.instances.get? instanceId).map (fun subnetId => ⟨instanceId, subnetId, c.heldBy instanceId⟩))

/-- Lists the interfaces that pass a filter, in the order of their ids. -/
def describeInterfaces (c : Cloud) (filter : InterfaceFilter) : Except Error (List Interface) :=
  if c.failQueries then .error (.providerQuery backend "describe-network-interfaces unavailable")
  else .ok (c.interfaces.values.filter filter.admits)

/-! ## Attaching and detaching -/

/-- The id of the attachment with a serial number. -/
def attachmentId (serial : Nat) : String := "eni-attach-" ++ String.ofList (Text.hexPadded 8 serial)

/-- Whether an interface occupies a device slot of the instance. -/
def slotTaken (c : Cloud) (instanceId : String) (deviceIndex : Nat) : Bool :=
  c.interfaces.values.any (fun i => i.occupies instanceId deviceIndex)

/-- Attaches an interface to a device slot of an instance and yields the attachment id.  An id is used up as soon as the
slot is found free. -/
def attach (c : Cloud) (interfaceId instanceId : String) (deviceIndex : Nat) : Except Error String × Cloud :=
  if c.failAttaches then (.error (.attach interfaceId "attach-network-interface unavailable"), c)
  else if !c.instances.contains instanceId then
    (.error (.attach interfaceId ("InvalidInstanceID.NotFound: " ++ instanceId)), c)
  else if c.slotTaken instanceId deviceIndex then
    (.error (.attach interfaceId
      ("device index " ++ String.ofList (Text.numeral deviceIndex) ++ " already in use on " ++ instanceId)), c)
  else
    let c := { c with attachments := c.attachments + 1 }
    match c.interfaces.get? interfaceId with
    | none => (.error (.attach interfaceId ("InvalidNetworkInterfaceID.NotFound: " ++ interfaceId)), c)
    | some i =>
      if i.status ≠ .available ∨ i.attachment.isSome then
        (.error (.attach interfaceId "InvalidNetworkInterface.InUse: interface is already attached"), c)
      else
        let id := attachmentId c.attachments
        (.ok id, { c with
          interfaces := c.interfaces.modify interfaceId fun i =>
            { i with status := .inUse, attachment := some ⟨id, instanceId, deviceIndex⟩ } })

def detach (c : Cloud) (id : String) : Except Error Unit × Cloud :=
  if c.failDetaches then (.error (.detach id "detach-network-interface unavailable"), c)
  else
    match c.interfaces.firstKey? (fun i => i.attachmentId == some id) with
    | none => (.error (.detach id ("InvalidAttachmentID.NotFound: " ++ id)), c)
    | some key =>
      (.ok (), { c with
        interfaces := c.interfaces.modify key fun i => { i with status := .available, attachment := none } })

/-- Serves a provider call: it is recorded, then answered. -/
def serve : (call : ProviderCall) → Cloud → call.Reply × Cloud
  | .describeInstance instanceId, c =>
    (c.describeInstance instanceId, c.record (.describeInstance instanceId))
  | .describeInterfaces filter, c => (c.describeInterfaces filter, c.record .describeInterfaces)
  | .attach interfaceId instanceId deviceIndex, c =>
    (c.record (.attach interfaceId instanceId deviceIndex)).attach interfaceId instanceId deviceIndex
  | .detach id, c => (c.record (.detach id)).detach id

end Cloud
end AddressBinder
