import Passthrough.Text.Hex

set_option autoImplicit false

/-! Completion statuses of a command. Every byte is a status: the documented ones
have names, the rest stand for themselves. -/

namespace Passthrough

inductive Status where
  | ok
  /-- Still owned by the management complex. -/
  | ready
  | authError
  | noPrivilege
  | dmaError
  | configError
  | timeout
  | noResource
  | noMemory
  | busy
  | unsupportedOperation
  | invalidState
  | unknown (byte : UInt8)
  deriving DecidableEq

namespace Status

def ofByte (byte : UInt8) : Status :=
  match byte with
  | 0x0 => .ok
  | 0x1 => .ready
  | 0x3 => .authError
  | 0x4 => .noPrivilege
  | 0x5 => .dmaError
  | 0x6 => .configError
  | 0x7 => .timeout
  | 0x8 => .noResource
  | 0x9 => .noMemory
  | 0xA => .busy
  | 0xB => .unsupportedOperation
  | 0xC => .invalidState
  | other => .unknown other

def byte : Status → UInt8
  | .ok => 0x0
  | .ready => 0x1
  | .authError => 0x3
  | .noPrivilege => 0x4
  | .dmaError => 0x5
  | .configError => 0x6
  | .timeout => 0x7
  | .noResource => 0x8
  | .noMemory => 0x9
  | .busy => 0xA
  | .unsupportedOperation => 0xB
  | .invalidState => 0xC
  | .unknown byte => byte

def message : Status → String
  | .ok => "ok"
  | .ready => "pending"
  | .authError => "authentication error"
  | .noPrivilege => "no privilege"
  | .dmaError => "DMA error"
  | .configError => "configuration error"
  | .timeout => "timeout"
  | .noResource => "no resource"
  | .noMemory => "no memory"
  | .busy => "busy"
  | .unsupportedOperation => "unsupported operation"
  | .invalidState => "invalid state"
  | .unknown byte => s!"unknown status {Text.Hex.padded 2 byte.toNat}"

theorem byte_ofByte (byte : UInt8) : (ofByte byte).byte = byte := by
  unfold ofByte
  split <;> rfl

end Status

end Passthrough
