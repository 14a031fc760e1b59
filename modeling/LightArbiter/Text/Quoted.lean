import LightArbiter.Text.Shown

/-!
# Quoted text in messages

A message names a piece of input in double quotes, with the characters that would not be seen
spelled out: tab, newline, carriage return and the null character by a letter, the others by their
code point in hexadecimal.
-/

namespace LightArbiter.Text

/-- The spelling of one character between quotes. -/
def escape (c : Char) : List Char :=
  if c = '"' then ['\\', '"']
  else if c = '\\' then ['\\', '\\']
  else if c = '\t' then ['\\', 't']
  else if c = '\n' then ['\\', 'n']
  else if c = '\r' then ['\\', 'r']
  else if c = '\x00' then ['\\', '0']
  else if isShown c then [c]
  else ['\\', 'u', '{'] ++ Nat.toDigits 16 c.toNat ++ ['}']

/-- The text between double quotes, each character in its spelling. -/
def quote (text : String) : String :=
  String.ofList ('"' :: text.toList.flatMap escape ++ ['"'])

end LightArbiter.Text
