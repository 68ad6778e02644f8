set_option autoImplicit false

/-! The lifecycle of an accelerator tile, as its firmware reports it in a word. -/

namespace Passthrough

/-- The state of a tile; a word outside the documented set stands for itself. -/
inductive TileState where
  | resetDone
  | resetOngoing
  | loadDone
  | loadOngoing
  | loadError
  | bootOngoing
  | bootError
  | running
  | unknown (word : UInt32)
  deriving DecidableEq

namespace TileState

def ofWord (word : UInt32) : TileState :=
  match word with
  | 0x00 => .resetDone
  | 0x01 => .resetOngoing
  | 0x02 => .loadDone
  | 0x04 => .loadOngoing
  | 0x08 => .loadError
  | 0x10 => .bootOngoing
  | 0x20 => .bootError
  | 0x40 => .running
  | other => .unknown other

def word : TileState → UInt32
  | .resetDone => 0x00
  | .resetOngoing => 0x01
  | .loadDone => 0x02
  | .loadOngoing => 0x04
  | .loadError => 0x08
  | .bootOngoing => 0x10
  | .bootError => 0x20
  | .running => 0x40
  | .unknown word => word

def message : TileState → String
  | .resetDone => "RESET_DONE"
  | .resetOngoing => "RESET_ONGOING"
  | .loadDone => "LOAD_DONE"
  | .loadOngoing => "LOAD_ONGOING"
  | .loadError => "LOAD_ERROR"
  | .bootOngoing => "BOOT_ONGOING"
  | .bootError => "BOOT_ERROR"
  | .running => "RUNNING"
  | .unknown _ => "Invalid MC State"

theorem word_ofWord (word : UInt32) : (ofWord word).word = word := by
  unfold ofWord
  split <;> rfl

end TileState

end Passthrough
