set_option autoImplicit false

/-! Hexadecimal numerals as addresses, tokens and status bytes are written: a
`0x` mark, lower-case digits, and no more leading zeros than a fixed field asks
for. Reading them back is not covered here. -/

namespace Passthrough.Text.Hex

/-- The digits of a number, most significant first, with zeros in front up to `width`. -/
def digits (width value : Nat) : List Char :=
  let plain := Nat.toDigits 16 value
  List.replicate (width - plain.length) '0' ++ plain

def padded (width value : Nat) : String :=
  "0x" ++ String.ofList (digits width value)

def numeral (value : Nat) : String :=
  padded 1 value

end Passthrough.Text.Hex
