import Passthrough.Proofs.Simulator.CallCases

set_option autoImplicit false

/-! What the operations on files, mappings and registrations leave alone: groups and their
attachments, the firmware with its tile, the faults and the portals. -/

namespace Passthrough.Simulator

open Files (FileTree)

instance : Std.LawfulEqCmp registrationOrder where
  eq_of_compare {first second} same := by
    obtain ⟨container, address⟩ := compareLex_eq_eq.mp same
    exact Prod.ext (Std.LawfulEqCmp.compare_eq_iff_eq.mp container)
      (Std.LawfulEqCmp.compare_eq_iff_eq.mp address)

/-- Only descriptors, mappings and registrations differ, and what counts and records them. -/
structure Aside (before after : Simulator) : Prop where
  same : after = { before with
    lastDescriptor := after.lastDescriptor
    descriptors := after.descriptors
    nextAddress := after.nextAddress
    mappings := after.mappings
    registrations := after.registrations
    filesOpened := after.filesOpened
    filesMapped := after.filesMapped
    buffersRegistered := after.buffersRegistered
    events := after.events }

namespace Aside

variable (sim : Simulator)

theorem refl : Aside sim sim := ⟨rfl⟩

theorem openFile (files : FileTree) (path : String) :
    Aside sim (Simulator.openFile files sim path).2 := by
  rw [openFile_eq]
  repeat' split
  all_goals exact ⟨rfl⟩

theorem mapFile (file : FileFd) (length : Nat) : Aside sim (sim.mapFile file length).2 := by
  rw [mapFile_eq]
  repeat' split
  all_goals exact ⟨rfl⟩

theorem mapDevice (device : DeviceFd) (offset : UInt64) (length : Nat) :
    Aside sim (sim.mapDevice device offset length).2 := by
  rw [mapDevice_eq]
  repeat' split
  all_goals exact ⟨rfl⟩

theorem mapDma (container : ContainerFd) (host : HostAddress) (device : DeviceAddress)
    (length : Nat) : Aside sim (sim.mapDma container host device length).2 := by
  obtain ⟨buffers, counted⟩ := countRegistration_shape sim device
  rw [mapDma_eq, counted]
  dsimp only
  repeat' split
  all_goals exact ⟨rfl⟩

theorem unmapDma (container : ContainerFd) (device : DeviceAddress) (length : Nat) :
    Aside sim (sim.unmapDma container device length).2 := by
  rw [unmapDma_eq]
  split
  all_goals exact ⟨rfl⟩

theorem unmap (address : HostAddress) (length : Nat) : Aside sim (sim.unmap address length).2 := by
  rw [unmap_eq]
  split
  all_goals exact ⟨rfl⟩

theorem closeFile (number : Int) (file : sim.descriptors[number]? = some .file) :
    Aside sim (sim.close number).2 := by
  rw [close_eq, file]
  exact ⟨rfl⟩

end Aside

theorem mapDma_tables (sim : Simulator) (container : ContainerFd) (host : HostAddress)
    (device : DeviceAddress) (length : Nat) :
    (sim.mapDma container host device length).2.descriptors = sim.descriptors ∧
      (sim.mapDma container host device length).2.mappings = sim.mappings ∧
      match sim.mapDma container host device length with
      | (.ok _, after) => sim.registrations[(container.number, device.value)]? = none ∧
          after.registrations = sim.registrations.insert (container.number, device.value) length
      | (.error _, after) => after.registrations = sim.registrations := by
  obtain ⟨buffers, counted⟩ := countRegistration_shape sim device
  rw [mapDma_eq, counted]
  dsimp only
  split
  · exact ⟨rfl, rfl, rfl⟩
  · split
    · exact ⟨rfl, rfl, rfl⟩
    · split
      · split
        · split
          · exact ⟨rfl, rfl, rfl⟩
          · next vacant =>
              rw [Std.ExtTreeMap.contains_eq_isSome_getElem?] at vacant
              exact ⟨rfl, rfl, Option.not_isSome_iff_eq_none.mp vacant, rfl⟩
        · exact ⟨rfl, rfl, rfl⟩
      · exact ⟨rfl, rfl, rfl⟩

/-! ### The tile

Only a command that is written to a portal reaches the firmware. -/

section

variable (sim : Simulator)

theorem tile_openGroup (group : GroupId) : (sim.openGroup group).2.tile = sim.tile := by
  rw [openGroup_eq]
  repeat' split
  all_goals rfl

theorem tile_setContainer (group : GroupFd) (container : ContainerFd) :
    (sim.setContainer group container).2.tile = sim.tile := by
  rw [setContainer_eq]
  repeat' split
  all_goals rfl

theorem tile_unsetContainer (group : GroupFd) :
    (sim.unsetContainer group).2.tile = sim.tile := by
  rw [unsetContainer_eq]
  split <;> rfl

theorem tile_setIommu (container : ContainerFd) : (sim.setIommu container).2.tile = sim.tile := by
  rw [setIommu_eq]
  repeat' split
  all_goals rfl

theorem tile_deviceFd (group : GroupFd) (name : String) :
    (sim.deviceFd group name).2.tile = sim.tile := by
  rw [deviceFd_eq]
  repeat' split
  all_goals rfl

theorem tile_mapPortal (device : DeviceFd) : (sim.mapPortal device).2.tile = sim.tile := by
  rw [mapPortal_eq]
  repeat' split
  all_goals rfl

theorem tile_close (number : Int) : (sim.close number).2.tile = sim.tile := by
  rw [close_eq]
  split
  · next object _ => cases object <;> rfl
  · rfl

variable {sim}

theorem Aside.tile_eq {after : Simulator} (aside : Aside sim after) : after.tile = sim.tile := by
  rw [aside.same]

end

end Passthrough.Simulator
