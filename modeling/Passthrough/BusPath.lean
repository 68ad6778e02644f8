import Passthrough.Files.Path
import Passthrough.Platform.Handle

set_option autoImplicit false

/-! Where the system shows the management bus, the isolation groups, and the
nodes through which devices are handed to user space. -/

namespace Passthrough.BusPath

def devices : String := "/sys/bus/fsl-mc/devices"

def groups : String := "/sys/kernel/iommu_groups"

def containerGroupLink (container : String) : String :=
  Files.Path.join (Files.Path.join devices container) "iommu_group"

def groupDevices (group : GroupId) : String :=
  Files.Path.join (Files.Path.join groups group.message) "devices"

def groupNode (group : GroupId) : String :=
  s!"/dev/vfio/{group.message}"

def containerNode : String := "/dev/vfio/vfio"

end Passthrough.BusPath
