set_option autoImplicit false

/-! The addresses of a process. A mapping takes whole pages and lies as high as it
can: at the top of the highest free range that is long enough. The program itself
lies in between, so that two free ranges are there at first. -/

namespace Passthrough.Kernel.AddressSpace

def pageSize : Nat := 4096

def wholePages (length : Nat) : Nat :=
  (length + pageSize - 1) / pageSize * pageSize

def limit : Nat := 0x7ffffffff000

/-- Mappings begin here at the lowest, and end here at the highest, below the stack. -/
def lowest : Nat := 0x10000
def highest : Nat := 0x7eff00000000

structure Range where
  start : Nat
  length : Nat
  deriving DecidableEq

def program : Range :=
  { start := 0x555555554000, length := 0x10100000000 }

/-- The start of the highest free range of a length below `ceiling`, where `taken` lists the
ranges in use, the highest first. -/
def highestFree (length : Nat) : Nat → List Range → Option Nat
  | ceiling, [] => if lowest + length ≤ ceiling then some (ceiling - length) else none
  | ceiling, range :: rest =>
      if range.start + range.length + length ≤ ceiling then some (ceiling - length)
      else highestFree length (min ceiling range.start) rest

end Passthrough.Kernel.AddressSpace
