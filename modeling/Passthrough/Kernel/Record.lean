set_option autoImplicit false

/-! The records that go with requests to the kernel, as bytes. Every number is
little-endian and the fields follow one another without gaps; the first field of
each record is the record's own length. The kernel answers in the same record. -/

namespace Passthrough.Kernel.Record

/-- The lowest `width` bytes of a number, least significant first. -/
def bytes : Nat → Nat → List UInt8
  | 0, _ => []
  | width + 1, value => UInt8.ofNat value :: bytes width (value / 256)

def number : List UInt8 → Nat
  | [] => 0
  | byte :: rest => byte.toNat + 256 * number rest

def numberAt (offset width : Nat) (record : List UInt8) : Nat :=
  number ((record.drop offset).take width)

/-- Overwrites bytes of a record, which keeps its length. -/
def putAt (offset : Nat) (replacement record : List UInt8) : List UInt8 :=
  (record.take offset ++ replacement ++ record.drop (offset + replacement.length)).take
    record.length

def groupStatus : List UInt8 :=
  bytes 4 8 ++ bytes 4 0

def isViable (status : List UInt8) : Bool :=
  numberAt 4 4 status % 2 == 1

def deviceInfo : List UInt8 :=
  bytes 4 16 ++ bytes 4 0 ++ bytes 4 0 ++ bytes 4 0

def regionCount (info : List UInt8) : Nat :=
  numberAt 8 4 info

def interruptCount (info : List UInt8) : Nat :=
  numberAt 12 4 info

def regionInfo (index : Nat) : List UInt8 :=
  bytes 4 32 ++ bytes 4 0 ++ bytes 4 index ++ bytes 4 0 ++ bytes 8 0 ++ bytes 8 0

def regionSize (info : List UInt8) : Nat :=
  numberAt 16 8 info

def regionOffset (info : List UInt8) : Nat :=
  numberAt 24 8 info

def mapDma (host device length : Nat) : List UInt8 :=
  bytes 4 32 ++ bytes 4 3 ++ bytes 8 host ++ bytes 8 device ++ bytes 8 length

def unmapDma (device length : Nat) : List UInt8 :=
  bytes 4 24 ++ bytes 4 0 ++ bytes 8 device ++ bytes 8 length

end Passthrough.Kernel.Record
