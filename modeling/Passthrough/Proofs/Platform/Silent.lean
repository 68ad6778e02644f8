import Passthrough.Proofs.Action.Notes
import Passthrough.Proofs.Journal.Basic
import Passthrough.Proofs.Session.Quiet

set_option autoImplicit false

/-! Platforms whose calls write nothing to the log, so that whatever is in it comes from those who
call them. A simulated machine is one, and neither a gate in front of it nor a journal of
the calls changes that. -/

namespace Passthrough

open Files (FileTree)

variable {World Portal α β : Type}

namespace Logged.Quiet

theorem writes {action : Logged World α} (quiet : action.Quiet) (allowed : Severity → Prop) :
    action.Writes allowed :=
  fun start => ⟨[], (quiet start).trans (List.append_nil _).symm, nofun⟩

theorem bindAct {action : Act World α} {next : α → Act World β} (first : action.outcome.Quiet)
    (rest : ∀ value, (next value).outcome.Quiet) : (action >>= next).outcome.Quiet := by
  rw [Act.outcome_bind]
  refine first.bind fun result => ?_
  cases result with
  | ok value => exact rest value
  | error failure => exact .pure _

end Logged.Quiet

structure Platform.Silent (platform : Platform World Portal) : Prop extends platform.Quiet where
  containerGroup (container : ContainerName) : (platform.containerGroup container).outcome.Quiet
  groupDevices (group : GroupId) : (platform.groupDevices group).outcome.Quiet
  openGroup (group : GroupId) : (platform.openGroup group).outcome.Quiet
  groupViable (group : GroupFd) : (platform.groupViable group).outcome.Quiet
  setContainer (group : GroupFd) (container : ContainerFd) :
    (platform.setContainer group container).outcome.Quiet
  openContainer : platform.openContainer.outcome.Quiet
  apiVersion (container : ContainerFd) : (platform.apiVersion container).outcome.Quiet
  hasType1Iommu (container : ContainerFd) : (platform.hasType1Iommu container).outcome.Quiet
  setIommu (container : ContainerFd) : (platform.setIommu container).outcome.Quiet
  deviceFd (group : GroupFd) (name : String) : (platform.deviceFd group name).outcome.Quiet
  deviceInfo (device : DeviceFd) : (platform.deviceInfo device).outcome.Quiet
  mapPortal (device : DeviceFd) : (platform.mapPortal device).outcome.Quiet
  mapDma (container : ContainerFd) (host : HostAddress) (device : DeviceAddress) (length : Nat) :
    (platform.mapDma container host device length).outcome.Quiet
  unmapDma (container : ContainerFd) (device : DeviceAddress) (length : Nat) :
    (platform.unmapDma container device length).outcome.Quiet
  openFile (path : String) : (platform.openFile path).outcome.Quiet
  mapFile (file : FileFd) (length : Nat) : (platform.mapFile file length).outcome.Quiet
  mapDevice (device : DeviceFd) (offset : UInt64) (length : Nat) :
    (platform.mapDevice device offset length).outcome.Quiet
  unmap (address : HostAddress) (length : Nat) : (platform.unmap address length).outcome.Quiet
  request (portal : Portal) (call : Call) : (platform.request portal call).outcome.Quiet

theorem Simulator.silent_platform (files : FileTree) : (Simulator.platform files).Silent where
  close _ _ := rfl
  unsetContainer _ _ := rfl
  dropPortal _ _ := rfl
  containerGroup _ _ := rfl
  groupDevices _ _ := rfl
  openGroup _ _ := rfl
  groupViable _ _ := rfl
  setContainer _ _ _ := rfl
  openContainer _ := rfl
  apiVersion _ _ := rfl
  hasType1Iommu _ _ := rfl
  setIommu _ _ := rfl
  deviceFd _ _ _ := rfl
  deviceInfo _ _ := rfl
  mapPortal _ _ := rfl
  mapDma _ _ _ _ _ := rfl
  unmapDma _ _ _ _ := rfl
  openFile _ _ := rfl
  mapFile _ _ _ := rfl
  mapDevice _ _ _ _ := rfl
  unmap _ _ _ := rfl
  request _ _ _ := rfl

namespace Gate

theorem quiet_guard (gate : Gate) (operation : Operation) {action : Act World α}
    (quiet : action.outcome.Quiet) : (gate.guard operation action).outcome.Quiet := by
  unfold guard
  split
  · exact fun _ => rfl
  · exact quiet

theorem silent_inFront (gate : Gate) {platform : Platform World Portal} (silent : platform.Silent) :
    (gate.inFront platform).Silent where
  close descriptor := gate.quiet_guard _ (silent.close descriptor)
  unsetContainer group := gate.quiet_guard _ (silent.unsetContainer group)
  dropPortal := silent.dropPortal
  containerGroup container := gate.quiet_guard _ (silent.containerGroup container)
  groupDevices group := gate.quiet_guard _ (silent.groupDevices group)
  openGroup group := gate.quiet_guard _ (silent.openGroup group)
  groupViable group := gate.quiet_guard _ (silent.groupViable group)
  setContainer group container := gate.quiet_guard _ (silent.setContainer group container)
  openContainer := gate.quiet_guard _ silent.openContainer
  apiVersion container := gate.quiet_guard _ (silent.apiVersion container)
  hasType1Iommu container :=
    gate.quiet_guard _ ((silent.hasType1Iommu container).bindAct fun _ _ => rfl)
  setIommu container := gate.quiet_guard _ (silent.setIommu container)
  deviceFd group name := gate.quiet_guard _ (silent.deviceFd group name)
  deviceInfo device := gate.quiet_guard _ (silent.deviceInfo device)
  mapPortal device := gate.quiet_guard _ (silent.mapPortal device)
  mapDma container host device length :=
    gate.quiet_guard _ (silent.mapDma container host device length)
  unmapDma container device length := gate.quiet_guard _ (silent.unmapDma container device length)
  openFile path := gate.quiet_guard _ (silent.openFile path)
  mapFile file length := gate.quiet_guard _ (silent.mapFile file length)
  mapDevice device offset length := gate.quiet_guard _ (silent.mapDevice device offset length)
  unmap address length := gate.quiet_guard _ (silent.unmap address length)
  request := silent.request

end Gate

end Passthrough
