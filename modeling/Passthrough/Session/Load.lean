import Passthrough.Session.Channel
import Passthrough.Session.LoadRequest

set_option autoImplicit false

/-! Loading and starting an image. The files are staged in page-aligned memory and
made visible to the tile, which then loads and runs. Each resource is held around
the rest of the work, so that it is given back afterwards in any case, the last
one first. A reset that fails is reported and does not fail the load. -/

namespace Passthrough.Session

variable {World Portal α : Type}

structure StagedFile where
  descriptor : FileFd
  address : HostAddress
  length : Nat
  deriving DecidableEq

def stage (platform : Platform World Portal) (path : String) (length : Nat) :
    Act World StagedFile := do
  let descriptor ← platform.openFile path
  let address ← (platform.mapFile descriptor length).onFailure fun _ =>
    platform.closeQuietly descriptor
  return { descriptor := descriptor, address := address, length := length }

def unstage (platform : Platform World Portal) (file : StagedFile) : Logged World Unit := do
  match ← (platform.unmap file.address file.length).outcome with
  | .ok _ => pure ()
  | .error failure =>
      Logged.warn
        s!"munmap of staged buffer {file.address.message} failed: {failure.message}"
  platform.closeQuietly file.descriptor

def withStaged (session : Session Portal) (platform : Platform World Portal) (path : String)
    (length : Nat)
    (work : StagedFile → Session Portal → Logged World (Result α × Session Portal)) :
    Logged World (Result α × Session Portal) := do
  match ← (stage platform path length).outcome with
  | .error failure => return (.error failure, session)
  | .ok file =>
      let (result, session) ← work file session
      unstage platform file
      return (result, session)

def withRegistered (session : Session Portal) (platform : Platform World Portal)
    (file : StagedFile)
    (work : Registration → Session Portal → Logged World (Result α × Session Portal)) :
    Logged World (Result α × Session Portal) := do
  let (registered, dma) ← session.dma.register platform file.address file.length
  let session := { session with dma := dma }
  match registered with
  | .error failure => return (.error failure, session)
  | .ok registration =>
      let (result, session) ← work registration session
      let dma ← session.dma.unregister platform registration
      return (result, { session with dma := dma })

/-- Resets the tile before a load. Hardware that cannot do so is only reported. -/
def resetFirst (session : Session Portal) (platform : Platform World Portal) (token : Token) :
    Logged World Unit := do
  match ← (platform.request session.portal (.reset token)).outcome with
  | .ok _ => return ()
  | .error failure =>
      Logged.warn
        s!"Reset before load failed: {failure.message}; reset may not be supported on this hardware"

/-- The firmware's part: a reset if asked for, then load, then run. -/
def loadAndRun (session : Session Portal) (platform : Platform World Portal) (reset : Bool)
    (load : LoadConfig) (run : RunConfig) : Logged World (Result Unit × Session Portal) :=
  session.withChannel platform "load" fun token => do
    if reset then
      Act.ofLogged (session.resetFirst platform token)
    platform.request session.portal (.load token load)
    platform.request session.portal (.run token run)

def startImage (session : Session Portal) (platform : Platform World Portal) (reset : Bool)
    (imageLength : UInt32) (image : Registration) (arguments : Option (Registration × UInt32)) :
    Logged World (Result Unit × Session Portal) :=
  let load : LoadConfig :=
    { address := UInt64.ofNat image.deviceAddress.value
      size := imageLength
      options := 0 }
  let run := RunConfig.allCores (arguments.map fun (registration, length) =>
    (UInt64.ofNat registration.deviceAddress.value, length))
  session.loadAndRun platform reset load run

/-- Stages and registers the files of a plan around the firmware's part: both files are
staged before either is registered. -/
def carryOut (session : Session Portal) (platform : Platform World Portal)
    (request : LoadRequest) (plan : LoadPlan) : Logged World (Result Unit × Session Portal) :=
  session.withStaged platform request.image (Staging.stagedLength plan.imageLength.toNat)
    fun image session =>
      match request.arguments, plan.argumentLength with
      | some path, some length =>
          session.withStaged platform path (Staging.stagedLength length.toNat)
            fun arguments session =>
              session.withRegistered platform image fun imageDma session =>
                session.withRegistered platform arguments fun argumentsDma session =>
                  session.startImage platform request.reset plan.imageLength imageDma
                    (some (argumentsDma, length))
      | _, _ =>
          session.withRegistered platform image fun imageDma session =>
            session.startImage platform request.reset plan.imageLength imageDma none

/-- Loads and starts the image of a request. Nothing that was staged stays. -/
def load (session : Session Portal) (platform : Platform World Portal) (files : Files.FileTree)
    (request : LoadRequest) : Logged World (Result Unit × Session Portal) := do
  match request.plan files with
  | .error failure =>
      Logged.error failure.message
      return (.error failure, session)
  | .ok plan =>
      let (result, session) ← session.carryOut platform request plan
      match result with
      | .ok _ => pure ()
      | .error failure =>
          Logged.error s!"Loading {request.image} failed: {failure.message}"
      return (result, session)

end Passthrough.Session
