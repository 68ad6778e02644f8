import Passthrough.Device.Record
import Passthrough.DmaSpace
import Passthrough.Pool.Release

set_option autoImplicit false

/-! A session with an accelerator tile: the pool that owns its group, the
container object, the device-visible memory, the command portal and the bound
objects. Releasing a session attempts every step and reports the first failure;
it does nothing the second time. The portal goes last, with the session itself. -/

namespace Passthrough

/-- Everything that is needed to drive one tile. -/
structure Session (Portal : Type) where
  pool : Pool
  group : GroupHandle
  containerDevice : DeviceFd
  dma : DmaSpace
  portal : Portal
  devices : DeviceSet
  released : Bool

namespace Session

variable {World Portal : Type}

def withToken (session : Session Portal) (token : Option Token) : Session Portal :=
  { session with
    devices := { session.devices with
      accelerator := { session.devices.accelerator with token := token } } }

def withoutAccelerator (session : Session Portal) : Session Portal :=
  { session with
    devices := { session.devices with
      accelerator := { session.devices.accelerator with descriptor := none } } }

def closeAccelerator (session : Session Portal) (platform : Platform World Portal) :
    Logged World (Result Unit) := do
  match session.devices.accelerator.descriptor with
  | some descriptor => (platform.close descriptor).outcome
  | none => return .ok ()

/-- Gives back everything but the portal: the interrupt page, the accelerator, the container
object, and the group. -/
def release (session : Session Portal) (platform : Platform World Portal) :
    Logged World (Result Unit × Session Portal) := do
  if session.released then
    return (.ok (), session)
  else
    let dma ← session.dma.releaseInterruptPage platform
    let accelerator ← session.closeAccelerator platform
    let container ← (platform.close session.containerDevice).outcome
    let (group, pool) ← session.pool.release platform session.group
    let emptied := { session.withoutAccelerator with dma := dma, pool := pool, released := true }
    return (Result.first [accelerator, container, group], emptied)

/-- Ends a session that goes out of use, with a report if something could not be released. -/
def drop (session : Session Portal) (platform : Platform World Portal) : Logged World Unit := do
  let (outcome, session) ← session.release platform
  match outcome with
  | .ok _ => pure ()
  | .error failure =>
      Logged.warn s!"Releasing AIOP session on drop failed: {failure.message}"
  platform.dropPortal session.portal

/-- Ends a session; the first failure is the result. -/
def teardown (session : Session Portal) (platform : Platform World Portal) : Act World Unit :=
  ExceptT.mk do
    let (outcome, session) ← session.release platform
    session.drop platform
    return outcome

end Session

end Passthrough
