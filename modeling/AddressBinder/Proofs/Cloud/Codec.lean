import AddressBinder.Cloud.Codec
import AddressBinder.Proofs.Json.Record
import AddressBinder.Proofs.Json.Spelling
import AddressBinder.Proofs.Net.Ipv4
/-!
# Interfaces and instances read back

What is written of a status, an attachment, an interface or an instance is read as the same, as long as the device
numbers are in the range of their type.
-/
namespace AddressBinder

open Json (Record Printable)

theorem Ipv4.ofJson?_toJson (ip : Ipv4) : Ipv4.ofJson? ip.toJson = some ip := ofString?_toString ip

theorem Ipv4.printable (ip : Ipv4) : Printable ip.toJson := Json.printable_ofString (toString ip)

/-- **A status is read back, and so a text of its own is never a named status.** -/
theorem InterfaceStatus.ofJson?_toJson (status : InterfaceStatus) : InterfaceStatus.ofJson? status.toJson = some status := by
  cases status <;> rfl

theorem InterfaceStatus.printable (status : InterfaceStatus) : Printable status.toJson := by
  cases status with
  | other name => exact Json.printable_object (by simpa using Json.printable_ofString name)
  | _ => exact Json.printable_ofString _

namespace Attachment

/-- The device number is in the range of its type. -/
def IsStorable (a : Attachment) : Prop := a.deviceIndex ≤ deviceIndexLimit

theorem ofJson?_toJson {a : Attachment} (h : a.IsStorable) : ofJson? a.toJson = some a := by
  obtain ⟨r, hr : Record.ofJson? ["attachment_id", "instance_id", "device_index"] a.toJson = some r, hfields⟩ :=
    Record.ofJson?_object [("attachment_id", .ofString a.attachmentId), ("instance_id", .ofString a.instanceId),
      ("device_index", .ofNat a.deviceIndex)] (by simp)
  simp only [List.forall_mem_cons] at hfields
  obtain ⟨hid, hinstance, hdevice, -⟩ := hfields
  simp [ofJson?, hr, Record.required, hid, hinstance, hdevice, Json.text?, Json.ofString, Json.natUpTo?_ofNat h]

theorem printable (a : Attachment) : Printable a.toJson :=
  Json.printable_object (by simp [Json.printable_ofString, Json.printable_ofNat])

end Attachment

namespace Interface

/-- The device number is in the range of its type. -/
def IsStorable (i : Interface) : Prop := ∀ a, i.attachment = some a → a.IsStorable

theorem ofJson?_toJson {i : Interface} (h : i.IsStorable) : ofJson? i.toJson = some i := by
  obtain ⟨r, hr : Record.ofJson? ["interface_id", "private_ip", "status", "attachment", "subnet_id"] i.toJson = some r,
    hfields⟩ := Record.ofJson?_object [("interface_id", .ofString i.interfaceId),
      ("private_ip", .ofOption Ipv4.toJson i.privateIp), ("status", i.status.toJson),
      ("attachment", .ofOption Attachment.toJson i.attachment), ("subnet_id", .ofString i.subnetId)] (by simp)
  simp only [List.forall_mem_cons] at hfields
  obtain ⟨hid, haddress, hstatus, hattachment, hsubnet, -⟩ := hfields
  have hip : Json.nullable? Ipv4.ofJson? (.ofOption Ipv4.toJson i.privateIp) = some i.privateIp :=
    Json.nullable?_ofOption fun ip _ => ⟨Json.noConfusion, ip.ofJson?_toJson⟩
  have hatt : Json.nullable? Attachment.ofJson? (.ofOption Attachment.toJson i.attachment) = some i.attachment :=
    Json.nullable?_ofOption fun a ha => ⟨Json.noConfusion, Attachment.ofJson?_toJson (h a ha)⟩
  simp [ofJson?, hr, Record.required, Record.optional, hid, haddress, hstatus, hattachment, hsubnet, hip, hatt, Json.text?,
    Json.ofString, InterfaceStatus.ofJson?_toJson]

theorem printable (i : Interface) : Printable i.toJson :=
  Json.printable_object (by
    simp [Json.printable_ofString, Json.printable_ofOption, Ipv4.printable, InterfaceStatus.printable, Attachment.printable])

end Interface

namespace InstanceDescription

/-- The device numbers are in the range of their type. -/
def IsStorable (d : InstanceDescription) : Prop := ∀ i ∈ d.interfaces, i.IsStorable

theorem ofJson?_toJson {d : InstanceDescription} (h : d.IsStorable) : ofJson? d.toJson = some d := by
  obtain ⟨r, hr : Record.ofJson? ["instance_id", "subnet_id", "network_interfaces"] d.toJson = some r, hfields⟩ :=
    Record.ofJson?_object [("instance_id", .ofString d.instanceId), ("subnet_id", .ofString d.subnetId),
      ("network_interfaces", .ofList Interface.toJson d.interfaces)] (by simp)
  simp only [List.forall_mem_cons] at hfields
  obtain ⟨hid, hsubnet, hinterfaces, -⟩ := hfields
  have hlist : Json.list? Interface.ofJson? (.ofList Interface.toJson d.interfaces) = some d.interfaces :=
    Json.list?_ofList fun i hi => Interface.ofJson?_toJson (h i hi)
  simp [ofJson?, hr, Record.required, hid, hsubnet, hinterfaces, hlist, Json.text?, Json.ofString]

theorem printable (d : InstanceDescription) : Printable d.toJson :=
  Json.printable_object (by simp [Json.printable_ofString, Json.printable_ofList, Interface.printable])

end InstanceDescription
end AddressBinder
