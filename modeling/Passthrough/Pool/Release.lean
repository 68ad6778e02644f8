import Passthrough.Platform.Basic
import Passthrough.Pool.Basic

set_option autoImplicit false

/-! Giving a group up. The group is detached and closed, and its container is
closed with its last group. Every step is attempted, and the first failure is
reported; the pool forgets the group whatever fails. -/

namespace Passthrough.Pool

variable {World Portal : Type}

/-- Takes a group's slot off its container, and closes a container that is left empty. -/
def leave (pool : Pool) (platform : Platform World Portal) (containerIndex groupIndex : Nat) :
    Logged World (Result Unit × Pool) := do
  match SlotTable.at? pool.containers containerIndex with
  | none => return (.ok (), pool)
  | some container =>
      let remaining := container.members.filter fun member => member != groupIndex
      if remaining.isEmpty then
        let closed ← (platform.close container.descriptor).outcome
        return (closed, { pool with containers := SlotTable.clear pool.containers containerIndex })
      else
        let kept := { container with members := remaining }
        return (.ok (),
          { pool with containers := SlotTable.put pool.containers containerIndex kept })

/-- Gives a group up. A handle that the pool does not hold is reported and changes nothing. -/
def release (pool : Pool) (platform : Platform World Portal) (handle : GroupHandle) :
    Logged World (Result Unit × Pool) := do
  match pool.held? handle with
  | none =>
      Logged.warn s!"Release of IOMMU group {handle.group.message} not held by the pool"
      return (.ok (), pool)
  | some slot =>
      let pool := { pool with groups := SlotTable.clear pool.groups handle.slot }
      let detached ← (platform.unsetContainer slot.descriptor).outcome
      let (left, pool) ← pool.leave platform slot.container handle.slot
      let closed ← (platform.close slot.descriptor).outcome
      return (Result.first [detached, left, closed], pool)

end Passthrough.Pool
