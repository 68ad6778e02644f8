import Passthrough.Kernel.Platform
import Passthrough.Kernel.Scripted
import Passthrough.Simulator.Platform
import Passthrough.Tool.Run

set_option autoImplicit false

/-! The answer of the tool to a command line: an exit code, the text on each stream,
and the diagnostics. A failure is reported with its causes, the outermost first. -/

namespace Passthrough.Tool

structure Report where
  exitCode : UInt32
  output : String
  errors : String
  log : List Diagnostic

namespace Failure

def reasons (failure : Failure) : List String :=
  let system := match failure.cause.source? with
    | some source => [source.message]
    | none => []
  failure.context.toList ++ failure.cause.message :: system

def indent (number : Option Nat) (text : String) : String :=
  match number with
  | none => "    " ++ text.replace "\n" "\n    "
  | some number =>
      let digits := toString number
      "".pushn ' ' (5 - digits.length) ++ digits ++ ": " ++ text.replace "\n" "\n       "

/-- The causes below a heading, numbered when there are several. -/
def causes : List String → String
  | [] => ""
  | [cause] => "\n\nCaused by:\n" ++ indent none cause
  | several =>
      let lines := several.zipIdx.map fun (cause, number) => indent (some number) cause
      "\n\nCaused by:\n" ++ "\n".intercalate lines

def message (failure : Failure) : String :=
  match failure.reasons with
  | [] => ""
  | reason :: rest => "Error: " ++ reason ++ causes rest ++ "\n"

end Failure

namespace Report

def usage : String :=
  "Usage: aiop_tool [-g dprc.N] [-v] [-d] [--simulate] <task>\n\n" ++
  "  load -f <image> [-a <args>] [-r]\n" ++
  "  reset\n" ++
  "  status\n" ++
  "  gettod\n" ++
  "  settod -t <time>\n"

def ofInterruption : Interruption → Report
  | .help => { exitCode := 0, output := usage, errors := "", log := [] }
  | .version => { exitCode := 0, output := "aiop_tool 0.3.0\n", errors := "", log := [] }
  | .refused => { exitCode := 2, output := "", errors := usage, log := [] }

def ofOutcome (outcome : Outcome) (log : List Diagnostic) : Report :=
  let output := String.join (outcome.lines.map fun line => line ++ "\n")
  match outcome.result with
  | .ok _ => { exitCode := 0, output := output, errors := "", log := log }
  | .error failure => { exitCode := 1, output := output, errors := failure.message, log := log }

end Report

/-- A simulated machine with one container object, which has a companion and a tile. -/
def demonstration (container : ContainerName) : Simulator :=
  (Simulator.empty Tile.fresh).withContainer container.text ⟨0⟩ ["dpmcp.1", "dpaiop.0"]

def report {World Portal : Type} (platform : Platform World Portal) (world : World)
    (files : Files.FileTree) (container : ContainerName) (task : Task) : Report :=
  let (outcome, traced) := run platform files container task { world := world, log := [] }
  Report.ofOutcome outcome traced.log

/-- Carries out an invocation, on a simulated machine or through a kernel. -/
def Invocation.carryOut {World : Type} (invocation : Invocation) (kernel : Kernel World)
    (world : World) (files : Files.FileTree) : Report :=
  match ContainerName.ofString? (invocation.container.getD ContainerName.standard.text) with
  | .error cause =>
      Report.ofOutcome
        (.failed (some "invalid container name (use -g dprc.N or set DPRC)") cause) []
  | .ok container =>
      if invocation.simulate then
        report (Simulator.platform files) (demonstration container) files container invocation.task
      else
        report (kernel.platform Portal.PollConfig.standard) world files container invocation.task

def answer {World : Type} (kernel : Kernel World) (world : World) (files : Files.FileTree)
    (environment : Option String) (arguments : List String) : Report :=
  match read arguments environment with
  | .error interruption => Report.ofInterruption interruption
  | .ok invocation => invocation.carryOut kernel world files

/-- The answer of the tool on a machine that hands no device to user space. -/
def answerWithoutDevices (files : Files.FileTree) (environment : Option String)
    (arguments : List String) : Report :=
  answer Kernel.Scripted.kernel (Kernel.Scripted.ofFiles files) files environment arguments

end Passthrough.Tool
