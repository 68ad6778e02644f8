set_option autoImplicit false

/-! Sizes of staged files: how much memory a file takes in whole pages, and how
long an image or an argument block may be. Also the page through which devices
raise interrupts, which has to be visible to them while anything else is. -/

namespace Passthrough.Staging

def pageSize : Nat := 4096

def imageLimit : Nat := 8 * 1024 * 1024

def argumentLimit : Nat := 512

/-- The memory that stages a file: the next multiple of a page that lies beyond the file's end. -/
def stagedLength (fileLength : Nat) : Nat :=
  (fileLength / pageSize + 1) * pageSize

/-- Where the interrupt page lies, both for devices and inside the container object. -/
def interruptAddress : Nat := 0x06030000

def interruptLength : Nat := 0x1000

theorem lt_stagedLength (fileLength : Nat) : fileLength < stagedLength fileLength := by
  unfold stagedLength pageSize
  omega

end Passthrough.Staging
