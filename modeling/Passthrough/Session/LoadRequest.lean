import Passthrough.Error
import Passthrough.Files.Tree
import Passthrough.Staging

set_option autoImplicit false

/-! Requests to load an image. The files of a request are checked before anything
is touched: each must be a readable regular file that is neither empty nor longer
than its limit. The plan that a request comes to holds the lengths found. -/

namespace Passthrough

open Files (FileTree Entry)

/-- An image, an argument block if there is one, and whether to reset the tile first. -/
structure LoadRequest where
  image : String
  arguments : Option String
  reset : Bool
  deriving DecidableEq

/-- The lengths of the files of an accepted request. -/
structure LoadPlan where
  imageLength : UInt32
  argumentLength : Option UInt32
  deriving DecidableEq

namespace LoadRequest

/-- The length of a file that may be loaded, or the first fault in it. -/
def checkFile (files : FileTree) (path : String) (limit : Nat) : Except FileFault UInt32 :=
  match files.status path with
  | .error source => .error (.lookup source)
  | .ok (.regular content readable) =>
      if !readable then .error (.notReadable .accessDenied)
      else if content.length = 0 then .error .empty
      else if content.length > limit then .error (.tooLong content.length limit)
      else if content.length < UInt32.size then .ok (UInt32.ofNat content.length)
      else .error .lengthOverflow
  | .ok _ => .error .notRegular

def measure (files : FileTree) (path : String) (limit : Nat) : Result UInt32 :=
  (checkFile files path limit).mapError fun fault => .invalidFile path fault

def plan (request : LoadRequest) (files : FileTree) : Result LoadPlan := do
  let imageLength ← measure files request.image Staging.imageLimit
  match request.arguments with
  | none => return { imageLength := imageLength, argumentLength := none }
  | some path =>
      let argumentLength ← measure files path Staging.argumentLimit
      return { imageLength := imageLength, argumentLength := some argumentLength }

end LoadRequest

end Passthrough
