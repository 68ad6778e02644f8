import Passthrough.Files.Tree

set_option autoImplicit false

/-! Making entries of a tree by path. A file is made where the links at its path end, and
takes the place of the content that stands there. A directory or a link is made
only where nothing stands, and the last component of its path is not followed. -/

namespace Passthrough.Files.FileTree

/-- The working directory, the directories above it, and the null device. -/
def initial : FileTree :=
  { entries :=
      [ (["dev"], .directory)
      , (["dev", "null"], .device)
      , (["home"], .directory)
      , (["home", "work"], .directory) ]
    workingDirectory := ["home", "work"] }

def put (tree : FileTree) (place : Location) (entry : Entry) : FileTree :=
  { tree with entries := (place, entry) :: tree.entries.filter fun pair => pair.1 != place }

def lengthLimit : Nat := 0x7fffffffffffffff

/-- Makes or overwrites a regular file. One that cannot be read cannot be overwritten either,
and a device takes bytes but has no length to set. -/
def createFile (tree : FileTree) (path : String) (content : Content) (readable : Bool) :
    Except Errno FileTree := do
  if content.length > lengthLimit then
    throw .invalidArgument
  let place ← tree.resolveWith .ok path
  match tree.entry? place with
  | none => return tree.put place (.regular content readable)
  | some (.regular _ true) => return tree.put place (.regular content readable)
  | some (.regular _ false) => throw .accessDenied
  | some .directory => throw .isDirectory
  | some .device => if content.leading.isEmpty then throw .invalidArgument else return tree
  | some (.link _) => throw .linkLoop

def vacancy (tree : FileTree) (start : Location) (names : List String) :
    Except Errno Location := do
  let (parent, name) ← tree.resolveParent start names
  if name = "" ∨ name = "." ∨ name = ".." then
    throw .alreadyExists
  if name.utf8ByteSize > componentLimit then
    throw .nameTooLong
  match tree.entry? (parent ++ [name]) with
  | some _ => throw .alreadyExists
  | none => return parent ++ [name]

/-- Makes a directory; separators at the end of its path mean nothing. -/
def createDirectory (tree : FileTree) (path : String) : Except Errno FileTree := do
  let names := ((Path.components path).reverse.dropWhile String.isEmpty).reverse
  return tree.put (← tree.vacancy (tree.start path) names) .directory

/-- Makes a link; what its target names does not matter. -/
def createLink (tree : FileTree) (path target : String) : Except Errno FileTree := do
  if target.isEmpty then
    throw .noEntry
  if target.utf8ByteSize > pathLimit then
    throw .nameTooLong
  return tree.put (← tree.vacancy (tree.start path) (Path.components path)) (.link target)

def create (tree : FileTree) (path : String) (entry : Entry) : Except Errno FileTree :=
  if hasNul path then .error .invalidArgument
  else if path.isEmpty then .error .noEntry
  else if path.utf8ByteSize > pathLimit then .error .nameTooLong
  else match entry with
    | .regular content readable => tree.createFile path content readable
    | .directory => tree.createDirectory path
    | .link target => tree.createLink path target
    | .device => .error .notPermitted

def ofEntries (entries : List (String × Entry)) : Except Errno FileTree :=
  entries.foldlM (fun tree (path, entry) => tree.create path entry) initial

def provideAlong (tree : FileTree) (entry : Entry) : Location → List String → FileTree
  | place, [] => tree.put place entry
  | place, name :: rest =>
      if name = "" ∨ name = "." then provideAlong tree entry place rest
      else if name = ".." then provideAlong tree entry place.dropLast rest
      else
        let next := place ++ [name]
        let tree := if (tree.entry? next).isSome then tree else tree.put next .directory
        provideAlong tree entry next rest

def provide (tree : FileTree) (path : String) (entry : Entry) : FileTree :=
  tree.provideAlong entry (tree.start path) (Path.components path)

end Passthrough.Files.FileTree
