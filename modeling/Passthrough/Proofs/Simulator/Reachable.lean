import Mathlib.Logic.Relation
import Passthrough.Proofs.Simulator.Turns
import Passthrough.Tool.Report

set_option autoImplicit false

/-! The machines that can be reached at all: from an empty one, by adding container
objects, by control, by taking memory, and by any operation of the platform, in any order
and with any arguments. On all of them the numbers and addresses that were not issued yet
are free, and addresses are issued above the first one. -/

namespace Passthrough.Simulator

open Files (FileTree)

/-- One operation on a machine, of its builder, its controller or its users. -/
inductive Step (sim : Simulator) : Simulator → Prop where
  | withContainer (name : String) (group : GroupId) (devices : List String) :
      Step sim (sim.withContainer name group devices)
  | inject (fault : Fault) : Step sim (sim.inject fault)
  | clearFaults : Step sim sim.clearFaults
  | setViable (group : GroupId) (viable : Bool) : Step sim (sim.setViable group viable)
  | setApiVersion (version : Int) : Step sim (sim.setApiVersion version)
  | forgetEvents : Step sim sim.forgetEvents
  | openGroup (group : GroupId) : Step sim (sim.openGroup group).2
  | setContainer (group : GroupFd) (container : ContainerFd) :
      Step sim (sim.setContainer group container).2
  | unsetContainer (group : GroupFd) : Step sim (sim.unsetContainer group).2
  | openContainer : Step sim sim.openContainer.2
  | setIommu (container : ContainerFd) : Step sim (sim.setIommu container).2
  | deviceFd (group : GroupFd) (name : String) : Step sim (sim.deviceFd group name).2
  | mapPortal (device : DeviceFd) : Step sim (sim.mapPortal device).2
  | dropPortal (portal : HostAddress) : Step sim (sim.dropPortal portal)
  | writePortal (portal : HostAddress) (offset : Nat) (value : UInt64) :
      Step sim (writePortal portal offset value sim)
  | mapDma (container : ContainerFd) (host : HostAddress) (device : DeviceAddress)
      (length : Nat) : Step sim (sim.mapDma container host device length).2
  | unmapDma (container : ContainerFd) (device : DeviceAddress) (length : Nat) :
      Step sim (sim.unmapDma container device length).2
  | openFile (files : FileTree) (path : String) : Step sim (openFile files sim path).2
  | mapFile (file : FileFd) (length : Nat) : Step sim (sim.mapFile file length).2
  | mapDevice (device : DeviceFd) (offset : UInt64) (length : Nat) :
      Step sim (sim.mapDevice device offset length).2
  | takeBuffer (length : Nat) : Step sim (sim.allocate length).2
  | unmap (address : HostAddress) (length : Nat) : Step sim (sim.unmap address length).2
  | close (number : Int) : Step sim (sim.close number).2

inductive Reachable : Simulator → Prop where
  | empty (tile : Tile) : Reachable (empty tile)
  | step {sim after : Simulator} (reachable : Reachable sim) (next : Step sim after) :
      Reachable after

theorem Reachable.steps {sim after : Simulator} (reachable : sim.Reachable)
    (steps : Relation.ReflTransGen Step sim after) : after.Reachable := by
  induction steps with
  | refl => exact reachable
  | tail _ next led => exact led.step next

theorem Step.change {sim after : Simulator} (next : Step sim after) : Change sim after := by
  cases next with
  | inject fault => exact .inject fault
  | setViable group viable => exact .setViable group viable
  | openGroup group => exact .openGroup group
  | setContainer group container => exact .setContainer group container
  | unsetContainer group => exact .unsetContainer group
  | openContainer => exact .openContainer
  | setIommu container => exact .setIommu container
  | deviceFd group name => exact .deviceFd group name
  | mapPortal device => exact .mapPortal device
  | dropPortal portal => exact .dropPortal portal
  | writePortal portal offset value => exact .writePortal portal offset value
  | mapDma container host device length => exact .mapDma container host device length
  | unmapDma container device length => exact .unmapDma container device length
  | openFile files path => exact .openFile files path
  | mapFile file length => exact .mapFile file length
  | mapDevice device offset length => exact .mapDevice device offset length
  | takeBuffer length => exact .allocate length
  | unmap address length => exact .unmap address length
  | close number => exact .close number
  | _ => exact .still rfl

/-- What was not issued yet is free. -/
structure Fresh (sim : Simulator) : Prop where
  descriptors : ∀ number, sim.lastDescriptor < number → sim.descriptors[number]? = none
  mappings : ∀ address, sim.nextAddress ≤ address → sim.mappings[address]? = none
  floor : firstAddress ≤ sim.nextAddress

namespace Fresh

variable {sim after : Simulator}

/-- A number comes into use by being issued only, and an address by being allocated only. -/
theorem keep (fresh : sim.Fresh) (issuance : Issuance sim after)
    (placement : Placement sim after) : after.Fresh where
  descriptors number above := by
    cases issuance with
    | aside last descriptors =>
        rw [descriptors]
        exact fresh.descriptors number (last ▸ above)
    | issues object last descriptors =>
        have beyond : sim.lastDescriptor + 1 < number := last ▸ above
        have apart : sim.lastDescriptor + 1 ≠ number := by omega
        rw [descriptors, Std.ExtTreeMap.getElem?_insert, if_neg (by simpa using apart)]
        exact fresh.descriptors number (by omega)
    | replaces known opened object last descriptors =>
        have free := fresh.descriptors number (last ▸ above)
        have apart : known ≠ number := by
          rintro rfl
          rw [free] at opened
          cases opened
        rw [descriptors, Std.ExtTreeMap.getElem?_insert, if_neg (by simpa using apart)]
        exact free
    | closes known last descriptors =>
        rw [descriptors, Std.ExtTreeMap.getElem?_erase,
          fresh.descriptors number (last ▸ above), ite_self]
  mappings address above := by
    cases placement with
    | aside next mappings =>
        rw [mappings]
        exact fresh.mappings address (next ▸ above)
    | allocates length next mappings =>
        have beyond : sim.nextAddress + mappedPages length * 4096 ≤ address := next ▸ above
        have taken : 0 < mappedPages length := Nat.succ_pos _
        have apart : sim.nextAddress ≠ address := by omega
        rw [mappings, Std.ExtTreeMap.getElem?_insert, if_neg (by simpa using apart)]
        exact fresh.mappings address (by omega)
    | removes number next mappings =>
        rw [mappings, Std.ExtTreeMap.getElem?_erase, fresh.mappings address (next ▸ above),
          ite_self]
  floor := Nat.le_trans fresh.floor placement.nextAddress_le

theorem change (fresh : sim.Fresh) (change : Change sim after) : after.Fresh :=
  fresh.keep change.issuance change.placement

theorem issue (fresh : sim.Fresh) (object : OpenObject) : (sim.issue object).2.Fresh :=
  fresh.keep (.issues object rfl rfl) (.aside rfl rfl)

theorem allocate (fresh : sim.Fresh) (length : Nat) : (sim.allocate length).2.Fresh :=
  fresh.change (.allocate length)

theorem replaceDescriptor (fresh : sim.Fresh) {number : Int} {old : OpenObject}
    (known : sim.descriptors[number]? = some old) (object : OpenObject) :
    Fresh { sim with descriptors := sim.descriptors.insert number object } :=
  fresh.keep (.replaces number known object rfl rfl) (.aside rfl rfl)

theorem congr (fresh : sim.Fresh) (last : after.lastDescriptor = sim.lastDescriptor)
    (descriptors : after.descriptors = sim.descriptors)
    (address : after.nextAddress = sim.nextAddress) (mappings : after.mappings = sim.mappings) :
    after.Fresh :=
  fresh.keep (.aside last descriptors) (.aside address mappings)

theorem step (fresh : sim.Fresh) (next : Step sim after) : after.Fresh :=
  fresh.change next.change

end Fresh

theorem fresh_empty (tile : Tile) : (empty tile).Fresh where
  descriptors _ _ := Std.ExtTreeMap.getElem?_empty
  mappings _ _ := Std.ExtTreeMap.getElem?_empty
  floor := Nat.le_refl firstAddress

theorem Reachable.fresh {sim : Simulator} (reachable : sim.Reachable) : sim.Fresh := by
  induction reachable with
  | empty tile => exact fresh_empty tile
  | step _ next known => exact known.step next

theorem Step.nextAddress_le {sim after : Simulator} (next : Step sim after) :
    sim.nextAddress ≤ after.nextAddress :=
  next.change.placement.nextAddress_le

/-- Whatever is mapped lies above the first address. -/
def Elevated (sim : Simulator) : Prop :=
  ∀ address length, sim.mappings[address]? = some length → firstAddress ≤ address

theorem Elevated.place {sim after : Simulator} (elevated : sim.Elevated) (fresh : sim.Fresh)
    (placement : Placement sim after) : after.Elevated := by
  intro address length found
  cases placement with
  | aside _ mappings =>
      rw [mappings] at found
      exact elevated address length found
  | allocates _ _ mappings =>
      rw [mappings, Std.ExtTreeMap.getElem?_insert] at found
      split at found
      · next same =>
          rw [← Std.LawfulEqOrd.eq_of_compare same]
          exact fresh.floor
      · exact elevated address length found
  | removes _ _ mappings =>
      rw [mappings, Std.ExtTreeMap.getElem?_erase] at found
      split at found
      · cases found
      · exact elevated address length found

theorem Reachable.elevated {sim : Simulator} (reachable : sim.Reachable) : sim.Elevated := by
  induction reachable with
  | empty tile =>
      intro address length found
      have nothing : (Simulator.empty tile).mappings[address]? = none :=
        Std.ExtTreeMap.getElem?_empty
      rw [nothing] at found
      cases found
  | step reached next known => exact known.place reached.fresh next.change.placement

theorem mapFile_issues {sim : Simulator} {file : FileFd} {length : Nat} {address : HostAddress}
    (mapped : (sim.mapFile file length).1 = .ok address) : address.value = sim.nextAddress := by
  rw [mapFile_eq] at mapped
  repeat' split at mapped
  all_goals cases mapped
  rfl

theorem mapDevice_issues {sim : Simulator} {device : DeviceFd} {offset : UInt64} {length : Nat}
    {page : HostAddress} (mapped : (sim.mapDevice device offset length).1 = .ok page) :
    page.value = sim.nextAddress ∧
      sim.nextAddress < (sim.mapDevice device offset length).2.nextAddress := by
  rw [mapDevice_eq] at mapped ⊢
  repeat' split at mapped
  all_goals cases mapped
  refine ⟨rfl, ?_⟩
  have taken : 0 < mappedPages length := Nat.succ_pos _
  change sim.nextAddress < sim.nextAddress + mappedPages length * 4096
  omega

theorem reachable_demonstration (container : ContainerName) :
    (Tool.demonstration container).Reachable :=
  .step (.empty Tile.fresh) (.withContainer _ _ _)

end Passthrough.Simulator
