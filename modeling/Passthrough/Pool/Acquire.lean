import Passthrough.Platform.Basic
import Passthrough.Pool.Basic

set_option autoImplicit false

/-! Taking ownership of a group. The group is opened and attached to the first
live container with room that accepts it, else to a fresh container. A failure at
any step closes what the step before had opened. Each operation returns the pool
beside its result. -/

namespace Passthrough.Pool

variable {World Portal : Type}

def supportedApi : Int := 0

def roomy (pool : Pool) : List (Nat × ContainerSlot) :=
  (SlotTable.items pool.containers).filter fun (_, container) =>
    container.members.length < pool.limits.groupsPerContainer

def join (platform : Platform World Portal) (descriptor : GroupFd) :
    List (Nat × ContainerSlot) → Logged World (Option (Nat × ContainerSlot))
  | [] => return none
  | (index, container) :: rest => do
      match ← (platform.setContainer descriptor container.descriptor).outcome with
      | .ok _ => return some (index, container)
      | .error _ => join platform descriptor rest

def attachFresh (platform : Platform World Portal) (descriptor : GroupFd)
    (container : ContainerFd) : Act World Unit := do
  let version ← platform.apiVersion container
  if version ≠ supportedApi then
    throw (.unsupportedApi version)
  let present ← platform.hasType1Iommu container
  if !present then
    throw .iommuUnsupported
  platform.setContainer descriptor container

def retract (platform : Platform World Portal) (group : GroupId) (descriptor : GroupFd) :
    Logged World Unit := do
  match ← (platform.unsetContainer descriptor).outcome with
  | .ok _ => return ()
  | .error failure =>
      Logged.warn s!"Detaching IOMMU group {group.message} failed: {failure.message}"

def openContainer (platform : Platform World Portal) (group : GroupId) (descriptor : GroupFd) :
    Act World ContainerFd := do
  let container ← platform.openContainer
  (attachFresh platform descriptor container).onFailure fun _ =>
    platform.closeQuietly container
  (platform.setIommu container).onFailure fun _ => do
    retract platform group descriptor
    platform.closeQuietly container
  return container

def requireViable (platform : Platform World Portal) (group : GroupId) (descriptor : GroupFd) :
    Act World Unit := do
  let viable ← platform.groupViable descriptor
  if !viable then
    throw (.groupNotViable group)

/-- Attaches an opened group, which is to stand in the slot `groupIndex`. Returns the slot
and the descriptor of its container. -/
def attach (pool : Pool) (platform : Platform World Portal) (group : GroupId)
    (descriptor : GroupFd) (groupIndex : Nat) :
    Logged World (Result (Nat × ContainerFd) × Pool) := do
  match ← (requireViable platform group descriptor).outcome with
  | .error failure => return (.error failure, pool)
  | .ok _ =>
  match ← join platform descriptor pool.roomy with
  | some (index, container) =>
      let joined := { container with members := container.members ++ [groupIndex] }
      return (.ok (index, container.descriptor),
        { pool with containers := SlotTable.put pool.containers index joined })
  | none =>
  if pool.limits.groupsPerContainer = 0 then
    return (.error (.capacityExceeded "container group" 0), pool)
  else
  match SlotTable.vacant? pool.containers pool.limits.containers with
  | none => return (.error (.capacityExceeded "container" pool.limits.containers), pool)
  | some index =>
  match ← (openContainer platform group descriptor).outcome with
  | .error failure => return (.error failure, pool)
  | .ok container =>
      let opened := { descriptor := container, members := [groupIndex] }
      return (.ok (index, container),
        { pool with containers := SlotTable.put pool.containers index opened })

/-- Takes ownership of a group. A group that the pool owns already keeps its handle. -/
def acquire (pool : Pool) (platform : Platform World Portal) (group : GroupId) :
    Logged World (Result GroupHandle × Pool) := do
  match pool.handleOf? group with
  | some handle => return (.ok handle, pool)
  | none =>
  match SlotTable.vacant? pool.groups pool.limits.groups with
  | none => return (.error (.capacityExceeded "group" pool.limits.groups), pool)
  | some slot =>
  match ← (platform.openGroup group).outcome with
  | .error failure => return (.error failure, pool)
  | .ok descriptor =>
  match ← pool.attach platform group descriptor slot with
  | (.error failure, pool) =>
      Logged.error s!"Cannot attach IOMMU group {group.message}: {failure.message}"
      platform.closeQuietly descriptor
      return (.error failure, pool)
  | (.ok (container, containerFd), pool) =>
      let owned : GroupSlot := { descriptor := descriptor, group := group, container := container }
      let handle : GroupHandle :=
        { slot := slot, group := group, descriptor := descriptor, container := containerFd }
      return (.ok handle, { pool with groups := SlotTable.put pool.groups slot owned })

end Passthrough.Pool
