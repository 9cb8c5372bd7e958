import NodeReclaim.Identifier.Reference
import NodeReclaim.Tags

/-! What is kept of a provider's objects: enough to decide what to delete. Only the name of an
object is required; every other field may be missing or null. -/
namespace NodeReclaim

namespace Reference

def ofObject (object : Value) : Except Misuse (Option Reference) :=
  let id := object.field "id"
  if id.isTruthy then (ofValue id).map some else .ok none

def ofCollection (collection : Value) : Except Misuse (List Reference) := do
  return (← (← collection.elements).mapM ofObject).filterMap fun r => r

/-- Like `ofCollection`, with null kept apart from the empty collection. -/
def ofCollection? (collection : Value) : Except Misuse (Option (List Reference)) :=
  match collection with
  | .null => .ok none
  | v => (ofCollection v).map some

end Reference

/-- A managed disk is known by its identifier, which is not read until it is needed. -/
structure ManagedDisk where
  id : Value

namespace ManagedDisk

def ofObject (object : Value) : Option ManagedDisk :=
  let id := object.field "id"
  if id.isTruthy then some ⟨id⟩ else none

def reference (d : ManagedDisk) : Except Misuse Reference := Reference.ofValue d.id

end ManagedDisk

/-- A disk of a machine; unmanaged disks are not resources of their own. -/
structure Disk where
  name : Value
  managed : Option ManagedDisk

def Disk.ofObject (object : Value) : Disk :=
  ⟨object.field "name", ManagedDisk.ofObject (object.field "managed_disk")⟩

structure Machine where
  name : Value
  group : Value
  interfaces : List Reference
  osDisk : Disk
  dataDisks : List Disk
  availabilitySet : Option Reference

namespace Machine

def ofObject (object group : Value) : Except Misuse Machine := do
  let name ← object.required "name"
  let interfaces ←
    Reference.ofCollection ((object.field "network_profile").field "network_interfaces")
  let storage := object.field "storage_profile"
  let dataDisks ← (storage.field "data_disks").elements
  let availabilitySet ← Reference.ofObject (object.field "availability_set")
  return {
    name, group, interfaces, availabilitySet
    osDisk := Disk.ofObject (storage.field "os_disk")
    dataDisks := dataDisks.map Disk.ofObject }

def managedDisks (m : Machine) : List ManagedDisk := (m.osDisk :: m.dataDisks).filterMap (·.managed)

end Machine

structure IpConfiguration where
  name : Value
  publicIp : Option Reference

def IpConfiguration.ofObject (object : Value) : Except Misuse IpConfiguration := do
  return ⟨object.field "name", ← Reference.ofObject (object.field "public_ip_address")⟩

structure Interface where
  name : Value
  configurations : List IpConfiguration

namespace Interface

def ofObject (object : Value) : Except Misuse Interface := do
  let configurations ← (object.field "ip_configurations").elements
  let configurations ← configurations.mapM IpConfiguration.ofObject
  return ⟨← object.required "name", configurations⟩

/-- Public addresses in the order of their first appearance, each once. -/
def publicIps (n : Interface) : List Reference :=
  (n.configurations.filterMap (·.publicIp)).eraseDups

end Interface

structure AvailabilitySet where
  name : Value
  tags : Option Tags
  members : Option (List Reference)

namespace AvailabilitySet

def ofObject (object : Value) : Except Misuse AvailabilitySet := do
  let name ← object.required "name"
  let tags ← Tags.ofValue? (object.field "tags")
  let members ← Reference.ofCollection? (object.field "virtual_machines")
  return { name, tags, members }

/-- Whether the set carries tags and the one at the key has the value; an absent tag is null. -/
def hasTag (s : AvailabilitySet) (key value : Value) : Except Misuse Bool :=
  match s.tags with
  | none => .ok false
  | some tags => key.asKey.map fun key => ((tags.get? key).getD .null).same value

/-- No member is known: none is listed, or none that is has an identifier. -/
def isEmpty (s : AvailabilitySet) : Bool := (s.members.getD []).isEmpty

end AvailabilitySet

structure SecurityGroup where
  name : Value
  interfaces : Option (List Reference)

namespace SecurityGroup

def ofObject (object : Value) : Except Misuse SecurityGroup := do
  return ⟨← object.required "name", ← Reference.ofCollection? (object.field "network_interfaces")⟩

def isInUse (g : SecurityGroup) : Bool := !(g.interfaces.getD []).isEmpty

end SecurityGroup

end NodeReclaim
