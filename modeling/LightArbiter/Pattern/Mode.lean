import LightArbiter.Text.Blank

/-!
# Modes of a pattern

A pattern is a regular expression, and the mode says how a place in it is read: whether letters
stand for both cases, whether the pattern is about characters or about bytes, and whether blanks and
comments are passed over. Flags change the mode.
-/

namespace LightArbiter.Pattern

/-- How a place in a pattern is read. -/
structure Mode where
  /-- Do letters stand for both cases? -/
  ignoresCase : Bool := false
  /-- Is the pattern about characters, and not about bytes? -/
  unicode : Bool := true
  /-- Are blanks and comments passed over? -/
  spaced : Bool := false
deriving DecidableEq, Repr

/-! ### Gaps -/

/--
The text without blanks and comments at its start. A comment lasts from a number sign to the end of
the line; `comment` tells whether the text starts inside one.
-/
def skipSpaced (comment : Bool) : List Char → List Char
  | [] => []
  | c :: cs =>
    if comment then skipSpaced (c != '\n') cs
    else if Text.isBlank c then skipSpaced false cs
    else if c = '#' then skipSpaced true cs
    else c :: cs

theorem skipSpaced_length (comment : Bool) (cs : List Char) :
    (skipSpaced comment cs).length ≤ cs.length := by
  fun_induction skipSpaced comment cs <;> simp_all <;> omega

namespace Mode

/-- The text without the gap at its start: blanks and comments, if they are passed over. -/
def skipGap (m : Mode) (cs : List Char) : List Char :=
  if m.spaced then skipSpaced false cs else cs

theorem skipGap_length (m : Mode) (cs : List Char) : (m.skipGap cs).length ≤ cs.length := by
  unfold skipGap
  split
  · exact skipSpaced_length ..
  · exact Nat.le_refl _

/-- What stands behind the first character after a gap is shorter than the text. -/
theorem length_lt_of_skipGap {m : Mode} {c : Char} {cs rest : List Char}
    (h : m.skipGap cs = c :: rest) : rest.length < cs.length := by
  have := m.skipGap_length cs
  rw [h, List.length_cons] at this
  exact this

/-! ### Flags -/

/-- The mode after one flag is set or unset. Other flags than these three change no form. -/
def setFlag (value : Bool) (m : Mode) (flag : Char) : Mode :=
  if flag = 'i' then { m with ignoresCase := value }
  else if flag = 'u' then { m with unicode := value }
  else if flag = 'x' then { m with spaced := value }
  else m

/-- The mode after flags: those in front of a hyphen are set, those behind it are unset. -/
def setFlags (m : Mode) (flags : List Char) : Mode :=
  (flags.dropWhile (· ≠ '-')).foldl (setFlag false)
    ((flags.takeWhile (· ≠ '-')).foldl (setFlag true) m)

end Mode

/-- The letters that are flags. -/
def flagLetters : List Char := ['i', 'm', 's', 'U', 'u', 'R', 'x']

/-- Are these flags, each given once, with at most one hyphen and none at the end? -/
def areFlags (flags : List Char) : Bool :=
  (flags.all fun c => (c == '-' || flagLetters.contains c) && flags.count c == 1) &&
    flags.getLast? != some '-'

end LightArbiter.Pattern
