import Passthrough.Platform.Handle
import Passthrough.Pool.SlotTable

set_option autoImplicit false

/-! A pool owns isolation groups and the containers they are attached to. Each
group is owned once; containers are shared, live while a group is attached, and
know the slots of their groups. Handles are copies and may outlive what they name. -/

namespace Passthrough

/-- The most groups and containers of a pool, and the most groups in one container. -/
structure PoolLimits where
  groups : Nat
  containers : Nat
  groupsPerContainer : Nat
  deriving DecidableEq

def PoolLimits.standard : PoolLimits :=
  { groups := 1, containers := 1, groupsPerContainer := 1 }

structure GroupSlot where
  descriptor : GroupFd
  group : GroupId
  container : Nat
  deriving DecidableEq

structure ContainerSlot where
  descriptor : ContainerFd
  members : List Nat
  deriving DecidableEq

/-- The proof of having acquired a group: its slot, and the descriptors at that time. -/
structure GroupHandle where
  slot : Nat
  group : GroupId
  descriptor : GroupFd
  container : ContainerFd
  deriving DecidableEq

/-- Owned groups and open containers within limits. -/
structure Pool where
  limits : PoolLimits
  groups : Pool.SlotTable GroupSlot
  containers : Pool.SlotTable ContainerSlot
  deriving DecidableEq

namespace Pool

def empty (limits : PoolLimits) : Pool :=
  { limits := limits, groups := [], containers := [] }

/-- The slot that a handle was issued for, while it still holds that acquisition. -/
def held? (pool : Pool) (handle : GroupHandle) : Option GroupSlot :=
  match SlotTable.at? pool.groups handle.slot with
  | some slot =>
      if slot.group = handle.group ∧ slot.descriptor = handle.descriptor then some slot else none
  | none => none

def groupFd? (pool : Pool) (handle : GroupHandle) : Option GroupFd :=
  (pool.held? handle).map GroupSlot.descriptor

def containerFd? (pool : Pool) (handle : GroupHandle) : Option ContainerFd :=
  match pool.held? handle with
  | some slot => (SlotTable.at? pool.containers slot.container).map ContainerSlot.descriptor
  | none => none

def groupCount (pool : Pool) : Nat :=
  SlotTable.count pool.groups

def containerCount (pool : Pool) : Nat :=
  SlotTable.count pool.containers

def handleOf? (pool : Pool) (group : GroupId) : Option GroupHandle :=
  match (SlotTable.items pool.groups).find? fun (_, slot) => slot.group = group with
  | some (index, slot) =>
      (SlotTable.at? pool.containers slot.container).map fun container =>
        { slot := index
          group := group
          descriptor := slot.descriptor
          container := container.descriptor }
  | none => none

end Pool

end Passthrough
