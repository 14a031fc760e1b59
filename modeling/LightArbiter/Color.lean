import LightArbiter.Text.Blank
import LightArbiter.Text.Digits
import LightArbiter.Text.Quoted

/-!
# Colors

A color has three components from 0 to 255. It is written `(r, g, b)`; when it is read, blanks
around the whole and around each component, a plus sign and leading zeros are allowed.
-/

namespace LightArbiter

/-- An RGB color with one byte a component. -/
structure Color where
  red : UInt8
  green : UInt8
  blue : UInt8
deriving DecidableEq, Repr, Inhabited

namespace Color

/-- Black, at which the lamp is dark. -/
def off : Color := ⟨0, 0, 0⟩

/-- The warm white of a lamp that nobody owns while somebody is near. -/
def warmWhite : Color := ⟨250, 200, 100⟩

/-! ### Writing -/

/-- The characters of a component. -/
def componentText (component : UInt8) : List Char :=
  Nat.toDigits 10 component.toNat

/-- The characters of the canonical form. -/
def chars (color : Color) : List Char :=
  '(' :: componentText color.red ++ [',', ' '] ++ componentText color.green ++ [',', ' '] ++
    componentText color.blue ++ [')']

/-- The canonical form `(r, g, b)`. -/
def text (color : Color) : String :=
  String.ofList color.chars

/-! ### Reading -/

/-- The text between an opening parenthesis at its start and a closing one at its end. -/
def inner? : List Char → Option (List Char)
  | '(' :: cs => if cs.getLast? = some ')' then some cs.dropLast else none
  | _ => none

/-- The component that a number is, if it is not above 255. -/
def byte? (n : Nat) : Option UInt8 :=
  if n ≤ 255 then some (UInt8.ofNat n) else none

/-- A component between two separators: a number, perhaps with blanks around it. -/
def component? (cs : List Char) : Option UInt8 :=
  (Text.natural? (Text.trim cs)).bind byte?

/-- The color that the characters write, in the canonical form or a looser one. -/
def ofChars? (cs : List Char) : Option Color := do
  match (← inner? (Text.trim cs)).splitOn ',' with
  | [r, g, b] => return ⟨← component? r, ← component? g, ← component? b⟩
  | _ => none

end Color

/-- A text that writes no color. -/
structure InvalidColor where
  text : String
deriving DecidableEq, Repr

/-- The wording of the error. -/
def InvalidColor.message (error : InvalidColor) : String :=
  "invalid color " ++ Text.quote error.text ++ ", expected \"(r, g, b)\" with components 0-255"

/-- The color that the text writes. -/
def Color.ofText (text : String) : Except InvalidColor Color :=
  match Color.ofChars? text.toList with
  | some color => .ok color
  | none => .error ⟨text⟩

end LightArbiter
