import Passthrough.Files.Creation
import Passthrough.Tool.Report

set_option autoImplicit false

/-! The tool as a program. The files that a task names are looked at once, before the
answer is worked out; the answer is then printed. This process asks the kernel for no
device, so that tasks succeed only on the simulated machine. -/

namespace Passthrough.Tool

def observe (path : String) : IO (Option Files.Entry) := do
  try
    let bytes ← IO.FS.readBinFile path
    return some (.regular { leading := bytes.toList, length := bytes.size } true)
  catch
    | .permissionDenied _ _ _ => return some (.regular { leading := [], length := 0 } false)
    | .inappropriateType _ _ _ => return some .directory
    | _ => return none

def namedPaths (arguments : List String) : List String :=
  match read arguments none with
  | .ok { task := .load request, .. } => request.image :: request.arguments.toList
  | _ => []

def observeFiles (arguments : List String) : IO Files.FileTree := do
  let mut files := Files.FileTree.initial
  for path in namedPaths arguments do
    match ← observe path with
    | some entry => files := files.provide path entry
    | none => pure ()
  return files

def line (diagnostic : Diagnostic) : String :=
  match diagnostic.severity with
  | .warning => s!"WARN {diagnostic.text}"
  | .error => s!"ERROR {diagnostic.text}"

end Passthrough.Tool

def main (arguments : List String) : IO UInt32 := do
  let environment ← IO.getEnv Passthrough.ContainerName.environmentVariable
  let files ← Passthrough.Tool.observeFiles arguments
  let report := Passthrough.Tool.answerWithoutDevices files environment arguments
  for diagnostic in report.log do
    IO.eprintln (Passthrough.Tool.line diagnostic)
  IO.print report.output
  IO.eprint report.errors
  return report.exitCode
