import Passthrough.Device.Binding
import Passthrough.Pool.Acquire
import Passthrough.Session.Basic

set_option autoImplicit false

/-! Starting a session: the container's group is acquired, the container object
opened, the two objects bound, the portal mapped, and the tile probed once. The
first failure ends it, and what came before is given back. -/

namespace Passthrough.Session

variable {World Portal : Type}

def returnGroup (platform : Platform World Portal) (pool : Pool) (handle : GroupHandle) :
    Logged World Unit := do
  let (outcome, _) ← pool.release platform handle
  match outcome with
  | .ok _ => return ()
  | .error failure =>
      Logged.warn s!"Releasing IOMMU group {handle.group.message} failed: {failure.message}"

/-- Maps the companion's portal. Its descriptor is closed again in any case. -/
def mapCompanion (platform : Platform World Portal) (group : GroupFd) (companion : DeviceRecord) :
    Act World Portal := do
  let descriptor ← platform.deviceFd group companion.name
  let mapped ← (platform.mapPortal descriptor).attempt
  Act.ofLogged (platform.closeQuietly descriptor)
  (Act.ofResult mapped).onFailure fun failure =>
    Logged.error s!"Cannot map portal of {companion.name}: {failure.message}"

def closeBound (platform : Platform World Portal) (devices : DeviceSet) : Logged World Unit := do
  match devices.accelerator.descriptor with
  | some descriptor => platform.closeQuietly descriptor
  | none => return ()

/-- Opens and closes one firmware session. Only the opening can fail. -/
def probe (session : Session Portal) (platform : Platform World Portal) : Act World Unit := do
  let hardwareId := session.devices.accelerator.hardwareId
  let token ← platform.request session.portal (.openSession hardwareId)
  Act.ofLogged do
    match ← (platform.request session.portal (.attributes token)).outcome with
    | .ok _ => pure ()
    | .error failure =>
        Logged.warn s!"Cannot read dpaiop.{hardwareId.toNat} attributes: {failure.message}"
    match ← (platform.request session.portal (.closeSession token)).outcome with
    | .ok _ => pure ()
    | .error failure =>
        Logged.warn
          s!"Closing probe session on dpaiop.{hardwareId.toNat} failed: {failure.message}"

def abandon (session : Session Portal) (platform : Platform World Portal) (failure : DriverError) :
    Logged World Unit := do
  Logged.error
    s!"Cannot open a session on {session.devices.accelerator.name}: {failure.message}"
  let (outcome, session) ← session.release platform
  match outcome with
  | .ok _ => pure ()
  | .error failure => Logged.warn s!"Cleanup after failed init: {failure.message}"
  session.drop platform

/-- Starts a session on the tile of a container. The pool becomes the session's. -/
def start (platform : Platform World Portal) (pool : Pool) (container : ContainerName) :
    Act World (Session Portal) := do
  let group ← platform.containerGroup container
  let (acquired, pool) ← Act.ofLogged (pool.acquire platform group)
  let handle ← Act.ofResult acquired
  let containerDevice ←
    (platform.deviceFd handle.descriptor container.text).onFailure fun failure => do
      Logged.error s!"Cannot open container object {container.text}: {failure.message}"
      returnGroup platform pool handle
  let devices ← (DeviceSet.bind platform handle.descriptor group).onFailure fun _ => do
    platform.closeQuietly containerDevice
    returnGroup platform pool handle
  let portal ←
    (mapCompanion platform handle.descriptor devices.companion).onFailure fun _ => do
      closeBound platform devices
      platform.closeQuietly containerDevice
      returnGroup platform pool handle
  let session : Session Portal :=
    { pool := pool
      group := handle
      containerDevice := containerDevice
      dma := DmaSpace.make handle.container containerDevice
      portal := portal
      devices := devices
      released := false }
  (session.probe platform).onFailure fun failure => session.abandon platform failure
  return session

end Passthrough.Session
