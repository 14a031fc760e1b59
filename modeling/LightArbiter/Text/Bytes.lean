/-!
# Byte positions in a text

Positions in a text may count the bytes that it takes in UTF-8. A text can be cut at such a position
unless it lies inside a character.
-/

namespace LightArbiter.Text

/-- The number of bytes that the characters take in UTF-8. -/
def byteCount (cs : List Char) : Nat :=
  cs.foldr (fun c count => c.utf8Size + count) 0

/-- The text up to a byte position and the text from there on, if the text can be cut there. -/
def splitBytes? : Nat → List Char → Option (List Char × List Char)
  | 0, cs => some ([], cs)
  | _ + 1, [] => none
  | n + 1, c :: cs =>
    if c.utf8Size ≤ n + 1 then
      (splitBytes? (n + 1 - c.utf8Size) cs).map fun (front, back) => (c :: front, back)
    else none

/-- The text between two byte positions, if the text can be cut at both. -/
def cut? (first last : Nat) (cs : List Char) : Option (List Char) := do
  let (front, _) ← splitBytes? last cs
  let (_, middle) ← splitBytes? first front
  return middle

end LightArbiter.Text
