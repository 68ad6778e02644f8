import Passthrough.Device.Record
import Passthrough.Platform.Basic

set_option autoImplicit false

/-! Finding the two objects in a group's listing. The first name of each class is
bound; further ones are reported and ignored. Both are found before anything is
opened, and only the accelerator is. -/

namespace Passthrough.DeviceSet

variable {World Portal : Type}

def candidates (role : DeviceRole) (names : List String) : List String :=
  names.filter fun name => ObjectName.hasClass role.objectClass name

def reportIgnored (role : DeviceRole) (chosen : String) : List String → Logged World Unit
  | [] => return ()
  | extra :: rest => do
      Logged.warn s!"Ignoring additional {role.objectClass} object {extra}; using {chosen}"
      reportIgnored role chosen rest

def first (role : DeviceRole) (group : GroupId) (names : List String) :
    Act World DeviceRecord := do
  match candidates role names with
  | [] =>
      Act.ofLogged
        (Logged.error s!"No {role.objectClass} object in IOMMU group {group.message}")
      throw (.deviceMissing role.objectClass group)
  | name :: extras =>
      Act.ofLogged (reportIgnored role name extras)
      match ObjectName.number? name with
      | some hardwareId => return DeviceRecord.unopened name hardwareId
      | none => throw (.invalidDeviceName name)

/-- Finds both objects of a group and opens the accelerator. Nothing stays open on failure. -/
def bind (platform : Platform World Portal) (descriptor : GroupFd) (group : GroupId) :
    Act World DeviceSet := do
  let names ← platform.groupDevices group
  let companion ← first .companion group names
  let accelerator ← first .accelerator group names
  let device ← platform.deviceFd descriptor accelerator.name
  let metadata ← (platform.deviceInfo device).onFailure fun failure => do
    Logged.error s!"Cannot query {accelerator.name}: {failure.message}"
    platform.closeQuietly device
  return {
    companion := companion
    accelerator := { accelerator with descriptor := some device, metadata := some metadata } }

end Passthrough.DeviceSet
