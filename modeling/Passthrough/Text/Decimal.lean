set_option autoImplicit false

/-! Unsigned decimal numerals as object names, link targets and command-line
values spell them: an optional plus sign, one or more ASCII digits, leading
zeros allowed, and a bound on the value that the reader chooses. -/

namespace Passthrough.Text.Decimal

def digit? (character : Char) : Option Nat :=
  if '0' ≤ character ∧ character ≤ '9' then some (character.toNat - '0'.toNat) else none

/-- Continues a number by the digits that follow; any other character refuses the whole. -/
def extend? : Nat → List Char → Option Nat
  | value, [] => some value
  | value, character :: rest =>
      match digit? character with
      | some digit => extend? (10 * value + digit) rest
      | none => none

def digits? : List Char → Option Nat
  | [] => none
  | characters => extend? 0 characters

def parse? (bound : Nat) (characters : List Char) : Option Nat :=
  let unsigned := match characters with
    | '+' :: rest => rest
    | plain => plain
  match digits? unsigned with
  | some value => if value < bound then some value else none
  | none => none

theorem lt_of_parse? {bound value : Nat} {characters : List Char}
    (parsed : parse? bound characters = some value) : value < bound := by
  simp only [parse?] at parsed
  split at parsed
  · split at parsed
    · cases parsed
      assumption
    · cases parsed
  · cases parsed

end Passthrough.Text.Decimal
