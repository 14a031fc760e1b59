import LightArbiter.Number.Coordinate
import LightArbiter.Text.Digits

/-!
# Reading decimal numbers

The decimal notation of numbers: an optional sign, ASCII digits with an optional point among or
around them, and an optional power of ten. The coordinates in a command are read as the nearest
double, and one is refused if that double is infinite.
-/

namespace LightArbiter

/-- A number in decimal notation: a sign, and digits times a power of ten. -/
structure Decimal where
  negative : Bool
  digits : Nat
  exponent : Int
deriving DecidableEq, Repr

/-- A sign at the start of the text, read as "negative", and the text after it. -/
def readSign : List Char → Bool × List Char
  | '-' :: cs => (true, cs)
  | '+' :: cs => (false, cs)
  | cs => (false, cs)

/-- The digits after a point, if there is one, and the text after them. -/
def readPoint : List Char → List Char × List Char
  | '.' :: cs => (Text.digits cs, Text.afterDigits cs)
  | cs => ([], cs)

/-- A power of ten that ends the text: the letter, an optional sign and at least one digit. -/
def readPower? : List Char → Option Int
  | [] => some 0
  | c :: cs =>
    let (negative, digits) := readSign cs
    if (c = 'e' ∨ c = 'E') ∧ digits ≠ [] ∧ digits.all Char.isDigit then
      some (if negative then -(Text.digitsValue digits : Int) else Text.digitsValue digits)
    else none

/-- The number that the text writes, if it writes one. -/
def Decimal.ofChars? (cs : List Char) : Option Decimal :=
  let (negative, cs) := readSign cs
  let whole := Text.digits cs
  let (fraction, cs) := readPoint (Text.afterDigits cs)
  if whole = [] ∧ fraction = [] then none
  else do
    let exponent ← readPower? cs
    return ⟨negative, Text.digitsValue (whole ++ fraction), exponent - fraction.length⟩

/-- The double nearest to the number that the text writes, if it writes one and it is finite. -/
def Coordinate.ofChars? (cs : List Char) : Option Coordinate := do
  let number ← Decimal.ofChars? cs
  Coordinate.ofMagnitude? number.negative (Magnitude.ofDecimal number.digits number.exponent)

/-- The names, in small letters, of the values that have no decimal notation. -/
def namesBeyondDecimals : List String := ["inf", "infinity", "nan"]

/--
Does the text write a double: in decimal notation, or by the name of infinity or of what is no
number, with an optional sign and letters of any case?
-/
def isDoubleText (cs : List Char) : Bool :=
  (Decimal.ofChars? cs).isSome ||
    namesBeyondDecimals.any fun name => name.toList == (readSign cs).2.map Char.toLower

end LightArbiter
