import Passthrough.Platform.Basic
import Passthrough.Staging

set_option autoImplicit false

/-! The device-visible memory of one container. Host buffers are registered at
their own address. With a buffer comes the page through which devices raise
interrupts: it is mapped and registered when it is not there yet, and it goes
again with any buffer. Trouble with that page is reported and nothing more. -/

namespace Passthrough

structure Registration where
  address : HostAddress
  length : Nat
  deriving DecidableEq

namespace Registration

def deviceAddress (registration : Registration) : DeviceAddress :=
  registration.address.identity

def isEmpty (registration : Registration) : Bool :=
  registration.length == 0

end Registration

/-- A container, the device that its interrupt page is mapped from, and that page while
it is registered. -/
structure DmaSpace where
  container : ContainerFd
  interruptSource : DeviceFd
  interruptPage : Option HostAddress
  deriving DecidableEq

namespace DmaSpace

variable {World Portal : Type}

def make (container : ContainerFd) (interruptSource : DeviceFd) : DmaSpace :=
  { container := container, interruptSource := interruptSource, interruptPage := none }

def hasInterruptPage (space : DmaSpace) : Bool :=
  space.interruptPage.isSome

def interruptAddress : DeviceAddress :=
  ⟨Staging.interruptAddress⟩

def unmapInterruptPage (platform : Platform World Portal) (page : HostAddress) :
    Logged World Unit := do
  match ← (platform.unmap page Staging.interruptLength).outcome with
  | .ok _ => return ()
  | .error failure => Logged.warn s!"munmap of interrupt window failed: {failure.message}"

def releaseInterruptPage (space : DmaSpace) (platform : Platform World Portal) :
    Logged World DmaSpace := do
  match space.interruptPage with
  | none => return space
  | some page =>
      match ← (platform.unmapDma space.container interruptAddress Staging.interruptLength).outcome
        with
      | .ok _ => pure ()
      | .error failure =>
          Logged.error s!"Unmapping interrupt window failed: {failure.message}"
      unmapInterruptPage platform page
      return { space with interruptPage := none }

def ensureInterruptPage (space : DmaSpace) (platform : Platform World Portal) :
    Logged World DmaSpace := do
  match space.interruptPage with
  | some _ => return space
  | none =>
  match ← (platform.mapDevice space.interruptSource
      (UInt64.ofNat Staging.interruptAddress) Staging.interruptLength).outcome with
  | .error failure =>
      Logged.error s!"Mapping GITS region failed: {failure.message}"
      return space
  | .ok page =>
  match ← (platform.mapDma space.container page interruptAddress
      Staging.interruptLength).outcome with
  | .ok _ => return { space with interruptPage := some page }
  | .error failure =>
      Logged.error s!"Registering interrupt window failed: {failure.message}"
      unmapInterruptPage platform page
      return space

def register (space : DmaSpace) (platform : Platform World Portal) (address : HostAddress)
    (length : Nat) : Logged World (Result Registration × DmaSpace) := do
  match ← (platform.mapDma space.container address address.identity length).outcome with
  | .error failure => return (.error failure, space)
  | .ok _ =>
      let space ← space.ensureInterruptPage platform
      return (.ok { address := address, length := length }, space)

/-- Takes a buffer away again, and the interrupt page with it. -/
def unregister (space : DmaSpace) (platform : Platform World Portal)
    (registration : Registration) : Logged World DmaSpace := do
  match ← (platform.unmapDma space.container registration.deviceAddress
      registration.length).outcome with
  | .ok _ => pure ()
  | .error failure =>
      Logged.error
        s!"DMA unmap of {registration.deviceAddress.message} failed: {failure.message}"
  space.releaseInterruptPage platform

end DmaSpace

end Passthrough
