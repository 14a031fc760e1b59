/-!
# Digits

The run of ASCII digits at the start of a text, what stands after it, and the number that it writes;
and the values of hexadecimal digits.
-/

namespace LightArbiter.Text

/-- The digits at the start of the text. -/
def digits (cs : List Char) : List Char :=
  cs.takeWhile Char.isDigit

/-- The text after the digits at its start. -/
def afterDigits (cs : List Char) : List Char :=
  cs.dropWhile Char.isDigit

/-- The digits at the start and the text after them make up the text. -/
theorem digits_append_afterDigits (cs : List Char) : digits cs ++ afterDigits cs = cs :=
  List.takeWhile_append_dropWhile

theorem length_digits_add (cs : List Char) :
    (digits cs).length + (afterDigits cs).length = cs.length := by
  rw [← List.length_append, digits_append_afterDigits]

/-- The number that a run of digits writes. -/
def digitsValue (ds : List Char) : Nat :=
  Nat.ofDigitChars 10 ds 0

@[simp] theorem digitsValue_toDigits (n : Nat) : digitsValue (Nat.toDigits 10 n) = n :=
  Nat.ofDigitChars_ten_toDigits

/-- The number that the text writes, if the text is digits, perhaps after a plus. -/
def natural? (cs : List Char) : Option Nat :=
  let ds := match cs with
    | '+' :: ds => ds
    | ds => ds
  if ds ≠ [] ∧ ds.all Char.isDigit then some (digitsValue ds) else none

/-- The value of a hexadecimal digit. -/
def hexDigit? (c : Char) : Option Nat :=
  if '0' ≤ c ∧ c ≤ '9' then some (c.toNat - '0'.toNat)
  else if 'a' ≤ c ∧ c ≤ 'f' then some (c.toNat - 'a'.toNat + 10)
  else if 'A' ≤ c ∧ c ≤ 'F' then some (c.toNat - 'A'.toNat + 10)
  else none

end LightArbiter.Text
