set_option autoImplicit false

/-! Paths as texts: joining, and the components between the separators. -/

namespace Passthrough.Files.Path

/-- Appends a path to a base. An absolute path replaces the base; otherwise one
separator stands between the two, which the base may already end with. -/
def join (base path : String) : String :=
  if path.startsWith "/" then path
  else if base.isEmpty || base.endsWith "/" then base ++ path
  else base ++ "/" ++ path

def split : List Char → List (List Char)
  | [] => [[]]
  | character :: rest =>
      if character = '/' then [] :: split rest
      else match split rest with
        | [] => [[character]]
        | first :: others => (character :: first) :: others

/-- The components of a path; empty ones show doubled, leading and final separators. -/
def components (path : String) : List String :=
  (split path.toList).map String.ofList

/-- The last component that names something: none for a path that ends in a step upwards. -/
def fileName? (path : String) : Option String :=
  match ((components path).filter fun name => name != "" && name != ".").getLast? with
  | some name => if name = ".." then none else some name
  | none => none

end Passthrough.Files.Path
