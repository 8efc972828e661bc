import AddressBinder.Cloud.Instance
import AddressBinder.Candidate.Basic
import AddressBinder.Json.Record
/-!
# The written form of interfaces and instances

Each type has `toJson`, which writes every field, and `ofJson?`, which reads what `toJson` writes and the other forms
of a record.  A status that is a text of its own is never mixed up with a named one.
-/
namespace AddressBinder

open Json (Record)

def deviceIndexLimit : Nat := 0xffffffff

namespace Ipv4

def toJson (ip : Ipv4) : Json := .ofString (toString ip)

def ofJson? (v : Json) : Option Ipv4 := do ofString? (← v.text?)

end Ipv4

namespace Candidates

def toJson (cs : Candidates) : Json := .object [("addresses", .ofList Ipv4.toJson cs.addresses)]

def ofJson? (v : Json) : Option Candidates := do
  let r ← Record.ofJson? ["addresses"] v
  return ⟨← r.required "addresses" (Json.list? Ipv4.ofJson?)⟩

end Candidates

namespace InterfaceStatus

/-- A named status as its name, any other as a variant that holds its text. -/
def toJson : InterfaceStatus → Json
  | .other name => .object [("other", .ofString name)]
  | status => .ofString status.name

def ofName? : String → Option InterfaceStatus
  | "available" => some .available
  | "in-use" => some .inUse
  | "attaching" => some .attaching
  | "detaching" => some .detaching
  | _ => none

def ofJson? (v : Json) : Option InterfaceStatus :=
  match v.variant? with
  | some (name, none) => ofName? name
  | some (name, some .null) => ofName? name
  | some ("other", some v) => v.text?.map .other
  | _ => none

end InterfaceStatus

namespace Attachment

def toJson (a : Attachment) : Json :=
  .object [("attachment_id", .ofString a.attachmentId), ("instance_id", .ofString a.instanceId),
    ("device_index", .ofNat a.deviceIndex)]

def ofJson? (v : Json) : Option Attachment := do
  let r ← Record.ofJson? ["attachment_id", "instance_id", "device_index"] v
  return ⟨← r.required "attachment_id" Json.text?, ← r.required "instance_id" Json.text?,
    ← r.required "device_index" (Json.natUpTo? deviceIndexLimit)⟩

end Attachment

namespace Interface

def toJson (i : Interface) : Json :=
  .object [("interface_id", .ofString i.interfaceId), ("private_ip", .ofOption Ipv4.toJson i.privateIp),
    ("status", i.status.toJson), ("attachment", .ofOption Attachment.toJson i.attachment),
    ("subnet_id", .ofString i.subnetId)]

def ofJson? (v : Json) : Option Interface := do
  let r ← Record.ofJson? ["interface_id", "private_ip", "status", "attachment", "subnet_id"] v
  return ⟨← r.required "interface_id" Json.text?, ← r.optional "private_ip" Ipv4.ofJson?,
    ← r.required "status" InterfaceStatus.ofJson?, ← r.optional "attachment" Attachment.ofJson?,
    ← r.required "subnet_id" Json.text?⟩

end Interface

namespace InstanceMetadata

def toJson (m : InstanceMetadata) : Json :=
  .object [("instance_id", .ofString m.instanceId), ("availability_zone", .ofString m.availabilityZone)]

def ofJson? (v : Json) : Option InstanceMetadata := do
  let r ← Record.ofJson? ["instance_id", "availability_zone"] v
  return ⟨← r.required "instance_id" Json.text?, ← r.required "availability_zone" Json.text?⟩

end InstanceMetadata

namespace InstanceIdentity

def toJson (m : InstanceIdentity) : Json :=
  .object [("instance_id", .ofString m.instanceId), ("availability_zone", .ofString m.availabilityZone),
    ("subnet_id", .ofString m.subnetId), ("attached_interfaces", .ofList Interface.toJson m.interfaces)]

def ofJson? (v : Json) : Option InstanceIdentity := do
  let r ← Record.ofJson? ["instance_id", "availability_zone", "subnet_id", "attached_interfaces"] v
  return ⟨← r.required "instance_id" Json.text?, ← r.required "availability_zone" Json.text?,
    ← r.required "subnet_id" Json.text?, ← r.required "attached_interfaces" (Json.list? Interface.ofJson?)⟩

end InstanceIdentity

namespace InstanceDescription

def toJson (d : InstanceDescription) : Json :=
  .object [("instance_id", .ofString d.instanceId), ("subnet_id", .ofString d.subnetId),
    ("network_interfaces", .ofList Interface.toJson d.interfaces)]

def ofJson? (v : Json) : Option InstanceDescription := do
  let r ← Record.ofJson? ["instance_id", "subnet_id", "network_interfaces"] v
  return ⟨← r.required "instance_id" Json.text?, ← r.required "subnet_id" Json.text?,
    ← r.required "network_interfaces" (Json.list? Interface.ofJson?)⟩

end InstanceDescription
end AddressBinder
