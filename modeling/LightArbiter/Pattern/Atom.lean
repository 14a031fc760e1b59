import LightArbiter.Pattern.Mode
import LightArbiter.Text.Digits

/-!
# Atoms of a pattern

An atom is a character that stands for itself or an escape. The tables behind the other case of a
character, the kinds of characters and the edges of words know bytes only, so an atom that needs
more is refused; and a pattern about bytes keeps to those that are characters by themselves.
-/

namespace LightArbiter.Pattern

/-- What a character or an escape stands for. -/
inductive Atom where
  /-- A character; `isByte` tells that it is written as a byte, by two hexadecimal digits. -/
  | literal (c : Char) (isByte : Bool)
  /-- The digits, the blanks or the characters of words, or all other characters. -/
  | kind (negated : Bool)
  /-- An edge of the text or of a word. -/
  | edge (ofWord : Bool)
deriving DecidableEq, Repr

namespace Atom

/-- Can the atom stand by itself? -/
def isAllowed (m : Mode) : Atom → Bool
  | literal c isByte => if m.unicode then !m.ignoresCase else !isByte || c.toNat < 0x80
  | kind negated => !m.unicode && !negated
  | edge ofWord => !(m.unicode && ofWord)

/-- Can the atom stand in a class? -/
def isAllowedInClass (m : Mode) : Atom → Bool
  | literal c _ => if m.unicode then !m.ignoresCase else c.toNat < 0x80
  | kind negated => !m.unicode && !negated
  | edge _ => false

/-- Can the atoms stand in a class as the first and the last of a range? -/
def isRange (m : Mode) : Atom → Atom → Bool
  | literal c isByte, literal d isByte' =>
    c ≤ d && (literal c isByte).isAllowedInClass m && (literal d isByte').isAllowedInClass m
  | _, _ => false

end Atom

/-! ### Reading -/

/-- The number that is written by so many hexadecimal digits, the digits before being `value`. -/
def readHex? (m : Mode) (value : Nat) : Nat → List Char → Option (Nat × List Char)
  | 0, cs => some (value, cs)
  | count + 1, cs =>
    match m.skipGap cs with
    | [] => none
    | c :: cs => (Text.hexDigit? c).bind fun digit => readHex? m (16 * value + digit) count cs

/-- The character that is written by so many hexadecimal digits. -/
def readCode? (m : Mode) (count : Nat) (cs : List Char) : Option (Char × List Char) := do
  let (code, rest) ← readHex? m 0 count cs
  if code.isValidChar then return (Char.ofNat code, rest) else none

/-- What a character behind a backslash stands for, the hexadecimal escapes apart. -/
def escaped? (c : Char) : Option Atom :=
  if c = 'd' ∨ c = 's' ∨ c = 'w' then some (.kind false)
  else if c = 'D' ∨ c = 'S' ∨ c = 'W' then some (.kind true)
  else if c = 'A' ∨ c = 'z' then some (.edge false)
  else if c = 'b' ∨ c = 'B' ∨ c = '<' ∨ c = '>' then some (.edge true)
  else if c = 'a' then some (.literal '\x07' false)
  else if c = 'f' then some (.literal '\x0c' false)
  else if c = 't' then some (.literal '\t' false)
  else if c = 'n' then some (.literal '\n' false)
  else if c = 'r' then some (.literal '\r' false)
  else if c = 'v' then some (.literal '\x0b' false)
  else if c.toNat < 0x80 ∧ !c.isAlphanum then some (.literal c false)
  else none

/-- The escape whose backslash has been read. -/
def readEscape? (m : Mode) : List Char → Option (Atom × List Char)
  | [] => none
  | 'x' :: cs => (readCode? m 2 cs).map fun (c, rest) => (.literal c true, rest)
  | 'u' :: cs => (readCode? m 4 cs).map fun (c, rest) => (.literal c false, rest)
  | 'U' :: cs => (readCode? m 8 cs).map fun (c, rest) => (.literal c false, rest)
  | c :: cs => (escaped? c).map fun atom => (atom, cs)

/-- A character or an escape. -/
def readAtom? (m : Mode) : List Char → Option (Atom × List Char)
  | [] => none
  | '\\' :: cs => readEscape? m cs
  | c :: cs => some (.literal c false, cs)

/-! ### Progress -/

theorem readHex?_length {m : Mode} {value count code : Nat} {cs rest : List Char}
    (h : readHex? m value count cs = some (code, rest)) : rest.length ≤ cs.length := by
  induction count generalizing value cs with
  | zero => simp_all [readHex?]
  | succ count ih =>
    have hgap := m.skipGap_length cs
    simp only [readHex?] at h
    split at h
    · simp at h
    · rename_i heq
      obtain ⟨digit, -, hrest⟩ := Option.bind_eq_some_iff.mp h
      have := ih hrest
      simp only [heq, List.length_cons] at hgap
      omega

theorem readCode?_length {m : Mode} {count : Nat} {c : Char} {cs rest : List Char}
    (h : readCode? m count cs = some (c, rest)) : rest.length ≤ cs.length := by
  obtain ⟨⟨code, rest'⟩, hread, h⟩ := Option.bind_eq_some_iff.mp h
  have := readHex?_length hread
  dsimp only at h
  split at h
  · simp only [pure, Option.some.injEq, Prod.mk.injEq] at h
    exact h.2 ▸ this
  · simp at h

theorem readEscape?_length {m : Mode} {atom : Atom} {cs rest : List Char}
    (h : readEscape? m cs = some (atom, rest)) : rest.length < cs.length := by
  unfold readEscape? at h
  split at h
  case h_1 => simp at h
  case h_5 =>
    obtain ⟨_, -, hrest⟩ := Option.map_eq_some_iff.mp h
    simp only [Prod.mk.injEq] at hrest
    simp [hrest.2]
  all_goals
    obtain ⟨_, hread, hrest⟩ := Option.map_eq_some_iff.mp h
    simp only [Prod.mk.injEq] at hrest
    exact hrest.2 ▸ Nat.lt_succ_of_le (readCode?_length hread)

theorem readAtom?_length {m : Mode} {atom : Atom} {cs rest : List Char}
    (h : readAtom? m cs = some (atom, rest)) : rest.length < cs.length := by
  unfold readAtom? at h
  split at h
  · simp at h
  · exact Nat.lt_succ_of_lt (readEscape?_length h)
  · simp only [Option.some.injEq, Prod.mk.injEq] at h
    simp [← h.2]

end LightArbiter.Pattern
