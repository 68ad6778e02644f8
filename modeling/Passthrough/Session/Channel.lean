import Passthrough.Session.Basic
import Passthrough.Tile.Report

set_option autoImplicit false

/-! Operations on a running session. Each opens a firmware session, makes its
calls and closes the firmware session again whatever came of them. The failure
reported is that of opening, else that of the first call, else that of closing. -/

namespace Passthrough.Session

variable {World Portal α : Type}

/-- Makes calls under the token of a fresh firmware session. -/
def withChannel (session : Session Portal) (platform : Platform World Portal)
    (operation : String) (calls : Token → Act World α) :
    Logged World (Result α × Session Portal) := do
  let hardwareId := session.devices.accelerator.hardwareId
  match ← (platform.request session.portal (.openSession hardwareId)).outcome with
  | .error failure =>
      Logged.error
        s!"{operation}: cannot open dpaiop.{hardwareId.toNat}: {failure.message}"
      return (.error failure, session)
  | .ok token =>
  let session := session.withToken (some token)
  let result ← (calls token).outcome
  match result with
  | .ok _ => pure ()
  | .error failure => Logged.error s!"{operation} failed: {failure.message}"
  let closed ← (platform.request session.portal (.closeSession token)).outcome
  let session := session.withToken none
  match closed with
  | .ok _ => return (result, session)
  | .error failure =>
      Logged.error
        s!"{operation}: closing dpaiop.{hardwareId.toNat} failed: {failure.message}"
      match result with
      | .ok _ => return (.error failure, session)
      | .error earlier => return (.error earlier, session)

def status (session : Session Portal) (platform : Platform World Portal) :
    Logged World (Result TileStatus × Session Portal) :=
  session.withChannel platform "status" fun token => do
    let attributes ← platform.request session.portal (.attributes token)
    let serviceLayer ← platform.request session.portal (.serviceLayerVersion token)
    let state ← platform.request session.portal (.state token)
    return { attributes := attributes, serviceLayer := serviceLayer, state := state }

def reset (session : Session Portal) (platform : Platform World Portal) :
    Logged World (Result Unit × Session Portal) :=
  session.withChannel platform "reset" fun token =>
    platform.request session.portal (.reset token)

def timeOfDay (session : Session Portal) (platform : Platform World Portal) :
    Logged World (Result UInt64 × Session Portal) :=
  session.withChannel platform "get_time_of_day" fun token =>
    platform.request session.portal (.timeOfDay token)

def setTimeOfDay (session : Session Portal) (platform : Platform World Portal) (time : UInt64) :
    Logged World (Result Unit × Session Portal) :=
  session.withChannel platform "set_time_of_day" fun token =>
    platform.request session.portal (.setTimeOfDay token time)

end Passthrough.Session
