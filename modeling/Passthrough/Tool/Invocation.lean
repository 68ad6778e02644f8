import Passthrough.ContainerName
import Passthrough.Session.LoadRequest
import Passthrough.Tool.Options

set_option autoImplicit false

/-! What a command line asks for: options for the tool, then a task with its own
options. The options that concern every task may stand on either side of the task's
name; a container named behind it goes before one named in front of it. -/

namespace Passthrough.Tool

inductive Task where
  | load (request : LoadRequest)
  | reset
  | status
  | timeOfDay
  | setTimeOfDay (time : UInt64)
  deriving DecidableEq

structure Invocation where
  /-- The container that is named on the command line or in the environment, if one is. -/
  container : Option String
  simulate : Bool
  task : Task
  deriving DecidableEq

inductive TaskName where
  | load
  | reset
  | status
  | timeOfDay
  | setTimeOfDay
  deriving DecidableEq

namespace TaskName

def all : List TaskName :=
  [.load, .reset, .status, .timeOfDay, .setTimeOfDay]

def word : TaskName → String
  | .load => "load"
  | .reset => "reset"
  | .status => "status"
  | .timeOfDay => "gettod"
  | .setTimeOfDay => "settod"

def ofWord? (word : String) : Option TaskName :=
  all.find? fun name => name.word = word

def options : TaskName → List OptionName
  | .load => [.file, .arguments, .reset]
  | .reset => []
  | .status => []
  | .timeOfDay => []
  | .setTimeOfDay => [.time]

end TaskName

def commonOptions : List OptionName :=
  [.container, .verbose, .debug, .simulate, .help]

def helpWord : String := "help"

def endsOptions (argument : String) : Bool :=
  argument = helpWord || (TaskName.ofWord? argument).isSome

/-- The task of a name once its options are known. Some tasks need an option. -/
def taskOf : TaskName → Settings → Except Interruption Task
  | .load, settings =>
      match settings.lookup .file with
      | none => .error .refused
      | some image =>
          .ok (.load
            { image := image
              arguments := settings.lookup .arguments
              reset := settings.given .reset })
  | .reset, _ => .ok .reset
  | .status, _ => .ok .status
  | .timeOfDay, _ => .ok .timeOfDay
  | .setTimeOfDay, settings =>
      match settings.lookup .time with
      | none => .error .refused
      | some value =>
          match Text.Decimal.parse? UInt64.size value.toList with
          | none => .error .refused
          | some time => .ok (.setTimeOfDay (UInt64.ofNat time))

/-- The answer to a request for help: at most one further word, which names a task. -/
def helpOn : List String → Interruption
  | [] => .help
  | [word] => if endsOptions word then .help else .refused
  | _ => .refused

def read (arguments : List String) (environment : Option String) :
    Except Interruption Invocation := do
  let (outer, remaining) ← readOptions (.version :: commonOptions) endsOptions .start arguments
  match remaining with
  | [] => throw .refused
  | word :: rest =>
      match TaskName.ofWord? word with
      | none => throw (helpOn rest)
      | some name =>
          let (inner, _) ←
            readOptions (name.options ++ commonOptions) (fun _ => false) .start rest
          let task ← taskOf name inner
          return {
            container := (inner.lookup .container <|> outer.lookup .container) <|> environment
            simulate := outer.given .simulate || inner.given .simulate
            task := task }

end Passthrough.Tool
