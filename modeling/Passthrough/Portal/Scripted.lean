import Passthrough.Portal.Registers

set_option autoImplicit false

/-! Portal registers that answer by a script. Writing the header starts the next
reply, the last one again when the script has ended. A reply completes at the
first read of the header after its busy count is used up. Every access is kept. -/

namespace Passthrough.Portal

structure Reply where
  busy : Nat
  status : UInt8
  token : Option Token
  parameters : Vector UInt64 Command.parameterCount
  deriving DecidableEq

/-- The registers, the reply under way, the replies to come, and the accesses so far. -/
structure Scripted where
  cells : Command
  pending : Option Reply
  script : List Reply
  /-- The writes, the last one first. -/
  writes : List (Nat × UInt64)
  reads : Vector Nat 8

namespace Scripted

def ofScript (script : List Reply) : Scripted :=
  { cells := Command.blank
    pending := none
    script := script
    writes := []
    reads := Vector.replicate 8 0 }

def advance : List Reply → List Reply
  | [] => []
  | [last] => [last]
  | _ :: rest => rest

def Reply.deliver (reply : Reply) (cells : Command) : Command :=
  let named := match reply.token with
    | some token => cells.withToken token
    | none => cells
  { header := Command.Field.write 16 8 reply.status.toUInt64 named.header
    parameters := reply.parameters }

/-- A read of the header first lets the reply under way proceed. -/
def proceed (device : Scripted) : Scripted :=
  match device.pending with
  | none => device
  | some reply =>
      match reply.busy with
      | busy + 1 => { device with pending := some { reply with busy := busy } }
      | 0 => { device with pending := none, cells := Reply.deliver reply device.cells }

def read (offset : Nat) (device : Scripted) : UInt64 × Scripted :=
  let device := if offset = 0 then device.proceed else device
  (wordAt device.cells offset,
    { device with
      reads := device.reads.setIfInBounds (offset / 8) ((device.reads[offset / 8]?).getD 0 + 1) })

def write (offset : Nat) (value : UInt64) (device : Scripted) : Scripted :=
  let stored :=
    { device with
      cells := storeAt device.cells offset value
      writes := (offset, value) :: device.writes }
  if offset = 0 then
    { stored with pending := stored.script.head?, script := advance stored.script }
  else stored

def registers : Registers Scripted :=
  { read := read, write := write }

def forget (device : Scripted) : Scripted :=
  { device with writes := [], reads := Vector.replicate 8 0 }

end Scripted

end Passthrough.Portal
