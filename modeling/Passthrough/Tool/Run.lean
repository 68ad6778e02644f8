import Passthrough.Session.Load
import Passthrough.Session.Start
import Passthrough.Tool.Invocation

set_option autoImplicit false

/-! Carrying out a task: a session is started on the container's tile, the task is
done, and the session is torn down whatever came of the task. The first failure of
the three is the failure of the whole. Lines are printed as the task is done. -/

namespace Passthrough.Tool

structure Failure where
  context : Option String
  cause : DriverError
  deriving DecidableEq

structure Outcome where
  lines : List String
  result : Except Failure Unit

namespace Outcome

def failed (context : Option String) (cause : DriverError) : Outcome :=
  { lines := [], result := .error { context := context, cause := cause } }

def ofResult {α : Type} (context : String) (line : α → String) : Result α → Outcome
  | .ok value => { lines := [line value], result := .ok () }
  | .error cause => failed (some context) cause

/-- The outcome once the session is torn down: a failure that came before stays. -/
def andReleased (outcome : Outcome) (released : Result Unit) : Outcome :=
  match outcome.result, released with
  | .ok _, .error cause =>
      { outcome with
        result := .error { context := some "releasing AIOP session", cause := cause } }
  | _, _ => outcome

end Outcome

variable {World Portal : Type}

/-- Loading says in a line of its own whether it succeeded, and fails without a context. -/
def loaded (image : String) : Result Unit → Outcome
  | .ok _ => { lines := [s!"AIOP Image ({image}) loaded successfully."], result := .ok () }
  | .error cause =>
      { lines := [s!"AIOP Image ({image}) loading failed."]
        result := .error { context := none, cause := cause } }

def Task.perform (task : Task) (platform : Platform World Portal) (files : Files.FileTree)
    (session : Session Portal) : Logged World (Outcome × Session Portal) := do
  match task with
  | .load request =>
      let (result, session) ← session.load platform files request
      return (loaded request.image result, session)
  | .reset =>
      let (result, session) ← session.reset platform
      return (.ofResult "AIOP tile reset" (fun _ => "AIOP Tile Reset Successful.") result, session)
  | .status =>
      let (result, session) ← session.status platform
      return (.ofResult "AIOP tile status" TileStatus.message result, session)
  | .timeOfDay =>
      let (result, session) ← session.timeOfDay platform
      return (.ofResult "reading time of day" (fun time => s!"Time of day: {time.toNat}") result,
        session)
  | .setTimeOfDay time =>
      let (result, session) ← session.setTimeOfDay platform time
      return (.ofResult "setting time of day"
        (fun _ => s!"Time of day set to {time.toNat}.") result, session)

/-- Starts a session, does the task, and tears the session down. -/
def run (platform : Platform World Portal) (files : Files.FileTree) (container : ContainerName)
    (task : Task) : Logged World Outcome := do
  match ← (Session.start platform (Pool.empty .standard) container).outcome with
  | .error cause => return .failed (some s!"cannot bind AIOP tile in {container.text}") cause
  | .ok session =>
      let (outcome, session) ← task.perform platform files session
      let released ← (session.teardown platform).outcome
      return outcome.andReleased released

end Passthrough.Tool
