import Passthrough.Proofs.Station.Live
import Passthrough.Proofs.Stock.SessionStart

set_option autoImplicit false

/-! How a session starts among live ones. Its pool is its own and empty at first, so that the
group comes to stand in a container of its own. A session that has started holds exactly
its group, container, container object, accelerator and portal. -/

namespace Passthrough

open Simulator (OpenObject)

theorem Pool.Admits.first {limits : PoolLimits} {admission : Pool.Admission}
    (admits : (Pool.empty limits).Admits admission) :
    admission.slot = 0 ∧ admission.owned.container = 0 ∧ admission.host.members = [] := by
  have lowest {capacity index : Nat} {α : Type}
      (found : SlotTable.vacant? ([] : SlotTable α) capacity = some index) : index = 0 := by
    change (if 0 < capacity then some 0 else none) = some index at found
    split at found
    · exact (Option.some.inj found).symm
    · cases found
  refine ⟨lowest admits.slot, ?_⟩
  rcases admits.host with impossible | ⟨free, members, -⟩
  · cases impossible
  · exact ⟨lowest free, members⟩

namespace Live

variable {attributes : TileAttributes} {lives : List Live} {sim : Simulator}
  {container : ContainerName} {session : Session HostAddress} {limits : PoolLimits}
  {admission : Pool.Admission} {accelerator : DeviceFd}

theorem sound_of_begun (begun : session.Begun (Pool.empty limits) admission accelerator) :
    (Live.mk container session).Sound := by
  obtain ⟨slot, index, members⟩ := begun.admits.first
  refine {
    released := begun.released
    slot := ?_
    pool := ⟨limits, ?_⟩
    dma := begun.dma
    opened := ⟨accelerator, begun.opened⟩
    token := begun.token }
  · exact (congrArg GroupHandle.slot begun.group).trans slot
  · obtain ⟨_, owned, host⟩ := admission
    obtain ⟨descriptor, group, _⟩ := owned
    obtain ⟨fresh, _⟩ := host
    cases slot
    cases index
    cases members
    change session.pool = Pool.single limits session.group
    rw [begun.pool, begun.group]
    rfl

theorem inventory_of_begun (begun : session.Begun (Pool.empty limits) admission accelerator)
    (lives : List Live) :
    (Inventory.of lives).withSession admission.tenure container session accelerator =
      Inventory.of (⟨container, session⟩ :: lives) := by
  have tenure : (Inventory.of lives).withTenure admission.tenure =
      (Inventory.of lives).withGroup session.group := by
    unfold Pool.Admission.tenure
    rw [if_pos begun.admits.first.2.2, begun.group]
    rfl
  rw [Inventory.of_cons lives begun.opened, Inventory.withSession, tenure]
  rfl

end Live

/-- A session that starts is sound, and it holds what a live session holds; if it does not start,
nothing was added. -/
theorem Session.start_owns {attributes : TileAttributes} {sim : Simulator} {lives : List Live}
    (owns : Owns attributes (Inventory.of lives) sim) (files : Files.FileTree)
    (limits : PoolLimits) (container : ContainerName) :
    (Session.start (Simulator.platform files) (Pool.empty limits) container).Yields sim
      fun result after => result.Either
        (fun session => (Live.mk container session).Sound ∧
          session.devices.accelerator.hardwareId = attributes.id ∧
          Owns attributes (Inventory.of (⟨container, session⟩ :: lives)) after)
        (Owns attributes (Inventory.of lives) after) := by
  refine ((Simulator.hosts_platform files).starts (fun _ => id) (Pool.sound_empty limits)
    owns.stocked container fun _ _ => rfl).mono ?_
  intro result after known
  rw [← owns.attributes]
  refine known.imp ?_ fun stocked => stocked.owns sim.blank_holdsNothing
  rintro session ⟨admission, accelerator, begun, own, sessions, -, stocked⟩
  have closed : after.sessions = ∅ :=
    sessions.trans (Simulator.erase_insert_session _ _ Std.ExtTreeSet.not_mem_empty)
  rw [Live.inventory_of_begun begun] at stocked
  exact ⟨Live.sound_of_begun begun, own,
    stocked.owns { sim.blank_holdsNothing with sessions := closed }⟩

end Passthrough
