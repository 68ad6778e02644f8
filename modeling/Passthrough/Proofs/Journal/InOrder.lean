import Passthrough.Proofs.Journal.Basic
import Passthrough.Proofs.Simulator.CallCases

set_option autoImplicit false

/-! Calls on a simulated machine that are in order. An operation on what is open does not fail
for a bad descriptor, whatever else it fails for; and taking away what is there succeeds. -/

namespace Passthrough.Simulator

open Files (FileTree)

variable {sim : Simulator}

theorem proper_containerGroup (sim : Simulator) (container : ContainerName) :
    Operation.containerGroup.Proper (sim.containerGroup container).failure? := by
  unfold containerGroup
  split
  · exact .done
  · exact .refused (by decide) rfl

theorem proper_groupDevices (sim : Simulator) (group : GroupId) :
    Operation.groupDevices.Proper (sim.groupDevices group).failure? := by
  unfold groupDevices
  split
  · exact .done
  · exact .refused (by decide) rfl

theorem proper_openGroup (sim : Simulator) (group : GroupId) :
    Operation.openGroup.Proper (sim.openGroup group).1.failure? := by
  rw [openGroup_eq]
  repeat' split
  all_goals first | exact .done | exact .refused (by decide) rfl

theorem proper_openContainer (sim : Simulator) :
    Operation.openContainer.Proper sim.openContainer.1.failure? :=
  .done

theorem proper_openFile (files : FileTree) (sim : Simulator) (path : String) :
    Operation.openFile.Proper (openFile files sim path).1.failure? := by
  rw [openFile_eq]
  repeat' split
  all_goals first | exact .done | exact .refused (by decide) rfl

section

variable {descriptor : GroupFd} {group : GroupId}
  (opened : sim.descriptors[descriptor.number]? = some (.group group))

include opened

theorem proper_groupViable :
    Operation.groupViable.Proper (sim.groupViable descriptor).failure? := by
  have found : sim.groupOf descriptor "VFIO_GROUP_GET_STATUS" = .ok group := by
    unfold groupOf object
    rw [opened]
  unfold groupViable unlessFault require
  rw [found]
  cases sim.has .groupStatus with
  | true => exact .refused (by decide) rfl
  | false =>
      simp only [Bool.not_false, if_true, bind, Except.bind]
      split <;> exact .done

theorem proper_setContainer {container : ContainerFd} {translating : Bool}
    (live : sim.descriptors[container.number]? = some (.container translating)) :
    Operation.setContainer.Proper (sim.setContainer descriptor container).1.failure? := by
  rw [setContainer_eq, opened, live]
  dsimp only
  repeat' split
  all_goals first | exact .done | exact .refused (by decide) rfl

theorem proper_deviceFd (name : String) :
    Operation.deviceFd.Proper (sim.deviceFd descriptor name).1.failure? := by
  rw [deviceFd_eq, opened]
  dsimp only
  repeat' split
  all_goals first | exact .done | exact .refused (by decide) rfl

end

theorem proper_unsetContainer {descriptor : GroupFd} {container : Int}
    (attached : sim.attachments[descriptor.number]? = some container) :
    Operation.unsetContainer.Proper (sim.unsetContainer descriptor).1.failure? := by
  have there : sim.attachments.contains descriptor.number = true := by
    rw [Std.ExtTreeMap.contains_eq_isSome_getElem?]
    exact Option.isSome_of_eq_some attached
  rw [unsetContainer_eq, if_pos there]
  exact .done

section

variable {container : ContainerFd} {translating : Bool}
  (live : sim.descriptors[container.number]? = some (.container translating))

include live

theorem proper_apiVersion :
    Operation.apiVersion.Proper (sim.reportedApiVersion container).failure? := by
  unfold reportedApiVersion object
  rw [live]
  exact .done

theorem proper_hasType1Iommu :
    Operation.hasType1Iommu.Proper (sim.hasType1Iommu container).failure? := by
  unfold hasType1Iommu object
  rw [live]
  exact .done

theorem proper_setIommu : Operation.setIommu.Proper (sim.setIommu container).1.failure? := by
  rw [setIommu_eq, live]
  repeat' split
  all_goals first | exact .done | exact .refused (by decide) rfl

theorem proper_mapDma (host : HostAddress) (device : DeviceAddress) (length : Nat) :
    Operation.mapDma.Proper (sim.mapDma container host device length).1.failure? := by
  obtain ⟨buffers, counted⟩ := countRegistration_shape sim device
  rw [mapDma_eq, counted]
  dsimp only
  rw [live]
  dsimp only
  repeat' split
  all_goals first | exact .done | exact .refused (by decide) rfl

end

theorem proper_unmapDma {container : ContainerFd} {device : DeviceAddress} {size : Nat}
    (registered : sim.registrations[(container.number, device.value)]? = some size)
    (length : Nat) :
    Operation.unmapDma.Proper (sim.unmapDma container device length).1.failure? := by
  have there : sim.registrations.contains (container.number, device.value) = true := by
    rw [Std.ExtTreeMap.contains_eq_isSome_getElem?]
    exact Option.isSome_of_eq_some registered
  rw [unmapDma_eq, if_pos there]
  exact .done

section

variable {device : DeviceFd} {name : String}
  (opened : sim.descriptors[device.number]? = some (.device name))

include opened

theorem proper_deviceInfo : Operation.deviceInfo.Proper (sim.deviceInfo device).failure? := by
  unfold deviceInfo unlessFault require object
  rw [opened]
  cases sim.has .deviceInfo with
  | true => exact .refused (by decide) rfl
  | false => exact .done

theorem proper_mapPortal : Operation.mapPortal.Proper (sim.mapPortal device).1.failure? := by
  rw [mapPortal_eq, opened]
  dsimp only
  repeat' split
  all_goals first | exact .done | exact .refused (by decide) rfl

theorem proper_mapDevice (offset : UInt64) (length : Nat) :
    Operation.mapDevice.Proper (sim.mapDevice device offset length).1.failure? := by
  rw [mapDevice_eq, opened]
  exact .done

end

theorem proper_mapFile {file : FileFd}
    (opened : sim.descriptors[file.number]? = some .file) (length : Nat) :
    Operation.mapFile.Proper (sim.mapFile file length).1.failure? := by
  rw [mapFile_eq, opened]
  dsimp only
  repeat' split
  all_goals first | exact .done | exact .refused (by decide) rfl

theorem proper_unmap {address : HostAddress} {length : Nat}
    (mapped : sim.mappings[address.value]? = some length) :
    Operation.unmap.Proper (sim.unmap address length).1.failure? := by
  rw [unmap_eq, if_pos mapped]
  exact .done

theorem proper_close {number : Int} {object : OpenObject}
    (opened : sim.descriptors[number]? = some object) (operation : Operation) :
    operation.Proper (sim.close number).1.failure? := by
  rw [close_eq, opened]
  exact .done

end Passthrough.Simulator
