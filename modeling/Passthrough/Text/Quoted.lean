import Passthrough.Text.Hidden

set_option autoImplicit false

/-! Names inside messages are quoted. Quotes and backslashes are escaped, the
common controls have a letter each, and every other code point without a visible
form is written by its hexadecimal number. -/

namespace Passthrough.Text.Quoted

def byNumber (character : Char) : List Char :=
  '\\' :: 'u' :: '\x7b' :: (Nat.toDigits 16 character.toNat ++ ['\x7d'])

def escape (character : Char) : List Char :=
  if character = '\x00' then ['\\', '0']
  else if character = '\t' then ['\\', 't']
  else if character = '\n' then ['\\', 'n']
  else if character = '\r' then ['\\', 'r']
  else if character = '"' then ['\\', '"']
  else if character = '\\' then ['\\', '\\']
  else if Hidden.isHidden character then byNumber character
  else [character]

def quote (text : String) : String :=
  String.ofList ('"' :: (text.toList.flatMap escape ++ ['"']))

end Passthrough.Text.Quoted
