import Passthrough.Proofs.Session.Reflection
import Passthrough.Proofs.Watch.Basic

set_option autoImplicit false

/-! Watching changes nothing. A load of a session on a watched platform has the result of the
load, leaves the machine that the load leaves, and writes the same log. -/

namespace Passthrough

variable {Portal : Type}

def Traced.unwatched (start : Traced Watch) : Traced Simulator :=
  { world := start.world.machine, log := start.log }

theorem Platform.watched_reflects (platform : Platform Simulator Portal) :
    platform.watched.Reflects Watch.machine platform where
  openFile _ _ := rfl
  mapFile _ _ _ := rfl
  mapDevice _ _ _ _ := rfl
  mapDma _ _ _ _ _ := rfl
  unmapDma _ _ _ _ := rfl
  unmap _ _ _ := rfl
  close _ _ := rfl
  request _ _ _ := rfl

/-- What is known of a watched operation is known of the operation itself. -/
theorem Logged.Mirrors.yields {α : Type} {watched : Logged Watch α} {plain : Logged Simulator α}
    {machine : Simulator} {after : α → Watch → Prop}
    (mirrors : watched.Mirrors Watch.machine plain)
    (yields : watched.Yields { machine := machine, seen := [] } after) :
    plain.Yields machine fun value reached =>
      ∃ seen, after value { machine := reached, seen := seen } := by
  intro log
  have same := mirrors { world := { machine := machine, seen := [] }, log := log }
  change plain ⟨machine, log⟩ = _ at same
  rw [same]
  exact ⟨_, yields log⟩

end Passthrough
