import Passthrough.Files.Path
import Passthrough.SystemError

set_option autoImplicit false

/-! A tree of files and the resolution of paths in it. Components are looked up
one by one from the root or from the working directory; links are followed where
they stand, at most forty of them for one path. Permissions other than the right
to read a file are not modelled. -/

namespace Passthrough.Files

/-- The bytes of a regular file: those given, then zeros up to the length. -/
structure Content where
  leading : List UInt8
  length : Nat
  deriving DecidableEq

inductive Entry where
  | regular (content : Content) (readable : Bool)
  | directory
  | link (target : String)
  | device
  deriving DecidableEq

/-- The names from the root to a place, without links and steps upwards. -/
abbrev Location := List String

/-- The entries by place, a later one before an earlier one for the same place. -/
structure FileTree where
  entries : List (Location × Entry)
  workingDirectory : Location

namespace FileTree

def entry? (tree : FileTree) (place : Location) : Option Entry :=
  if place.isEmpty then some .directory else tree.entries.lookup place

def linkLimit : Nat := 40

/-- The longest component and the longest path, in bytes. -/
def componentLimit : Nat := 255
def pathLimit : Nat := 4095

/-- Walks the components from a place. What to do at a link is a parameter: it is
given the place and components that remain once the link's target is put in front.
So is what to do where the last component names nothing. -/
def walkWith (tree : FileTree) (absent : Location → Except Errno Location)
    (follow : Location → List String → Except Errno Location) :
    Location → List String → Except Errno Location
  | place, [] => .ok place
  | place, name :: rest =>
      match tree.entry? place with
      | some .directory =>
          if name = "" ∨ name = "." then walkWith tree absent follow place rest
          else if name = ".." then walkWith tree absent follow place.dropLast rest
          else if name.utf8ByteSize > componentLimit then .error .nameTooLong
          else match tree.entry? (place ++ [name]) with
            | none => if rest.isEmpty then absent (place ++ [name]) else .error .noEntry
            | some (.link target) =>
                follow (if target.startsWith "/" then [] else place)
                  (Path.components target ++ rest)
            | some _ => walkWith tree absent follow (place ++ [name]) rest
      | _ => .error .notDirectory

def walk (tree : FileTree) (absent : Location → Except Errno Location) :
    Nat → Location → List String → Except Errno Location
  | 0 => walkWith tree absent fun _ _ => .error .linkLoop
  | remaining + 1 => walkWith tree absent (walk tree absent remaining)

def start (tree : FileTree) (path : String) : Location :=
  if path.startsWith "/" then [] else tree.workingDirectory

/-- The place that a path leads to through every link, where `absent` says what becomes of
a path whose last component names nothing. -/
def resolveWith (tree : FileTree) (absent : Location → Except Errno Location) (path : String) :
    Except Errno Location :=
  if path.isEmpty then .error .noEntry
  else if path.utf8ByteSize > pathLimit then .error .nameTooLong
  else tree.walk absent linkLimit (tree.start path) (Path.components path)

def resolve (tree : FileTree) (path : String) : Except Errno Location :=
  tree.resolveWith (fun _ => .error .noEntry) path

def lookup (tree : FileTree) (path : String) : Except Errno Entry := do
  let place ← tree.resolve path
  match tree.entry? place with
  | some entry => return entry
  | none => throw .noEntry

def hasNul (path : String) : Bool :=
  path.toList.contains '\x00'

/-- What a path leads to, as a library that checks its texts first reports it. -/
def status (tree : FileTree) (path : String) : Except SystemError Entry :=
  if hasNul path then .error .embeddedNul
  else (tree.lookup path).mapError .numbered

def isReadable : Entry → Bool
  | .regular _ readable => readable
  | _ => true

/-- The directory in front of the last of the components, and that component, which is not
followed. -/
def resolveParent (tree : FileTree) (start : Location) (names : List String) :
    Except Errno (Location × String) := do
  let place ← tree.walk (fun _ => .error .noEntry) linkLimit start names.dropLast
  match tree.entry? place with
  | some .directory => return (place, names.getLastD "")
  | _ => throw .notDirectory

def readLink (tree : FileTree) (path : String) : Except SystemError String :=
  if hasNul path then .error .embeddedNul
  else if path.isEmpty then .error (.numbered .noEntry)
  else match tree.resolveParent (tree.start path) (Path.components path) with
    | .error errno => .error (.numbered errno)
    | .ok (place, name) =>
        match tree.entry? (place ++ [name]) with
        | some (.link target) => .ok target
        | some _ => .error (.numbered .invalidArgument)
        | none => .error (.numbered .noEntry)

def list (tree : FileTree) (path : String) : Except SystemError (List (String × Bool)) :=
  if hasNul path then .error .embeddedNul
  else match tree.resolve path with
    | .error errno => .error (.numbered errno)
    | .ok place =>
        match tree.entry? place with
        | some .directory =>
            .ok (tree.entries.filterMap fun (location, entry) =>
              match location.getLast? with
              | some name =>
                  if location.dropLast = place then
                    some (name, match entry with
                      | .link _ => true
                      | _ => false)
                  else none
              | none => none)
        | _ => .error (.numbered .notDirectory)

end FileTree

end Passthrough.Files
