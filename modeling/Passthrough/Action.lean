import Passthrough.Error

set_option autoImplicit false

/-! Operations with effects. A world carries everything that an operation can
change; beside it runs a log of diagnostics, of which warnings and errors are kept.
`Logged` operations always finish; an `Act` may fail, and a failure keeps the world and
the log it has reached. -/

namespace Passthrough

inductive Severity where
  | warning
  | error
  deriving DecidableEq

structure Diagnostic where
  severity : Severity
  text : String
  deriving DecidableEq

/-- A world and the diagnostics so far, the oldest first. -/
structure Traced (World : Type) where
  world : World
  log : List Diagnostic

abbrev Logged (World : Type) : Type → Type := StateM (Traced World)

abbrev Act (World : Type) : Type → Type := ExceptT DriverError (Logged World)

namespace Logged

variable {World α : Type}

def ofWorld (step : World → α × World) : Logged World α :=
  fun traced =>
    let (value, world) := step traced.world
    (value, { traced with world := world })

def note (severity : Severity) (text : String) : Logged World Unit :=
  fun traced => ((), { traced with log := traced.log ++ [{ severity := severity, text := text }] })

def warn (text : String) : Logged World Unit :=
  note .warning text

def error (text : String) : Logged World Unit :=
  note .error text

end Logged

namespace Act

variable {World α : Type}

def ofWorld (step : World → Result α × World) : Act World α :=
  ExceptT.mk (Logged.ofWorld step)

/-- The operation as one that finishes, with the failure as a value. -/
def outcome (action : Act World α) : Logged World (Result α) :=
  action.run

def ofLogged (action : Logged World α) : Act World α :=
  ExceptT.lift action

def attempt (action : Act World α) : Act World (Result α) :=
  ofLogged action.outcome

def ofResult (result : Result α) : Act World α :=
  ExceptT.mk (pure result)

/-- Runs `clean` after a failure, which stays the failure. -/
def onFailure (action : Act World α) (clean : DriverError → Logged World Unit) : Act World α :=
  ExceptT.mk do
    match ← action.outcome with
    | .ok value => return .ok value
    | .error failure =>
        clean failure
        return .error failure

end Act

end Passthrough
