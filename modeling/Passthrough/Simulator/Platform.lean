import Passthrough.Platform.Basic
import Passthrough.Simulator.Calls

set_option autoImplicit false

/-! The simulated machine as a platform. Its portals are driven through their
registers, like any portal, so that every firmware call passes as a command word. -/

namespace Passthrough.Simulator

open Files (FileTree)

def ask {α : Type} (question : Simulator → Result α) : Act Simulator α :=
  Act.ofWorld fun sim => (question sim, sim)

/-- The operations of a machine whose callers load their files from a tree and wait for
portals as long as `poll` says. -/
def platformWith (files : FileTree) (poll : Portal.PollConfig) : Platform Simulator HostAddress :=
  { containerGroup := fun container => ask fun sim => sim.containerGroup container
    groupDevices := fun group => ask fun sim => sim.groupDevices group
    openGroup := fun group => Act.ofWorld fun sim => sim.openGroup group
    groupViable := fun group => ask fun sim => sim.groupViable group
    setContainer := fun group container =>
      Act.ofWorld fun sim => sim.setContainer group container
    unsetContainer := fun group => Act.ofWorld fun sim => sim.unsetContainer group
    openContainer := Act.ofWorld openContainer
    apiVersion := fun container => ask fun sim => sim.reportedApiVersion container
    hasType1Iommu := fun container => ask fun sim => sim.hasType1Iommu container
    setIommu := fun container => Act.ofWorld fun sim => sim.setIommu container
    deviceFd := fun group name => Act.ofWorld fun sim => sim.deviceFd group name
    deviceInfo := fun device => ask fun sim => sim.deviceInfo device
    mapPortal := fun device => Act.ofWorld fun sim => sim.mapPortal device
    mapDma := fun container host device length =>
      Act.ofWorld fun sim => sim.mapDma container host device length
    unmapDma := fun container device length =>
      Act.ofWorld fun sim => sim.unmapDma container device length
    openFile := fun path => Act.ofWorld fun sim => openFile files sim path
    mapFile := fun file length => Act.ofWorld fun sim => sim.mapFile file length
    mapDevice := fun device offset length =>
      Act.ofWorld fun sim => sim.mapDevice device offset length
    unmap := fun address length => Act.ofWorld fun sim => sim.unmap address length
    close := fun descriptor => Act.ofWorld fun sim => sim.close descriptor.number
    request := fun portal call => Act.ofWorld ((registers portal).request poll call)
    window := fun portal => portal
    dropPortal := fun portal => Logged.ofWorld fun sim => ((), sim.dropPortal portal) }

def platform (files : FileTree) : Platform Simulator HostAddress :=
  platformWith files Portal.PollConfig.standard

end Passthrough.Simulator
