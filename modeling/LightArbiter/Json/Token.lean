import LightArbiter.Json.Numeral
import LightArbiter.Json.Text

/-!
# Tokens of a payload

The text is cut into tokens in one pass. A token of a number or a string carries its value, and also
whether its form alone is right, since a value that is skipped is only checked for its form. The pass
ends at the first token without a right form; that token keeps the problem, so that whoever reads the
tokens from left to right meets it in its place.
-/

namespace LightArbiter.Json

/-- A token, with the problem that reading or skipping it meets. -/
inductive Token where
  | openArray
  | closeArray
  | openObject
  | closeObject
  | comma
  | colon
  | null
  | boolean (value : Bool)
  | number (value : Except Problem Number) (form : Except Problem Unit)
  | text (value : Except Problem String) (form : Except Problem Unit)
  | stray (problem : Problem)

/-- White space between tokens. -/
def isSpace (c : Char) : Bool :=
  c = ' ' ∨ c = '\t' ∨ c = '\n' ∨ c = '\r'

/-- The token of a punctuation mark. -/
def Token.ofMark? (c : Char) : Option Token :=
  if c = '[' then some .openArray
  else if c = ']' then some .closeArray
  else if c = '{' then some .openObject
  else if c = '}' then some .closeObject
  else if c = ',' then some .comma
  else if c = ':' then some .colon
  else none

/-- The text after the rest of a word. -/
def readRest : List Char → List Char → Except Problem (List Char)
  | [], cs => .ok cs
  | _ :: _, [] => .error .cutShort
  | w :: ws, c :: cs => if w = c then readRest ws cs else .error .malformed

/-- One of the three words, of which `c` is the first letter. -/
def readWord (c : Char) (cs : List Char) : Except Problem (Token × List Char) :=
  if c = 'n' then (readRest ['u', 'l', 'l'] cs).map fun rest => (.null, rest)
  else if c = 't' then (readRest ['r', 'u', 'e'] cs).map fun rest => (.boolean true, rest)
  else if c = 'f' then (readRest ['a', 'l', 's', 'e'] cs).map fun rest => (.boolean false, rest)
  else .error .malformed

theorem readRest_length {word cs rest : List Char} (h : readRest word cs = .ok rest) :
    rest.length ≤ cs.length := by
  fun_induction readRest word cs with
  | case1 => simp_all
  | case2 => simp at h
  | case3 _ _ _ ih =>
    have := ih h
    simp only [List.length_cons]
    omega
  | case4 => simp at h

theorem readWord_length {c : Char} {cs rest : List Char} {t : Token}
    (h : readWord c cs = .ok (t, rest)) : rest.length ≤ cs.length := by
  have key (word : List Char) (u : Token)
      (h : (readRest word cs).map (fun rest => (u, rest)) = .ok (t, rest)) :
      rest.length ≤ cs.length := by
    rcases hr : readRest word cs with p | rest'
    · simp [hr, Except.map] at h
    · simp only [hr, Except.map, Except.ok.injEq, Prod.mk.injEq] at h
      exact h.2 ▸ readRest_length hr
  unfold readWord at h
  split at h
  · exact key _ _ h
  · split at h
    · exact key _ _ h
    · split at h
      · exact key _ _ h
      · simp at h

/-- The tokens of the text, up to the first without a right form. -/
def Token.scan : List Char → List Token
  | [] => []
  | c :: cs =>
    if isSpace c then scan cs
    else
      match ofMark? c with
      | some mark => mark :: scan cs
      | none =>
        if c = '"' then
          match h : skipChars cs with
          | .error problem => [.text (readText cs) (.error problem)]
          | .ok rest =>
            have := skipChars_length h
            .text (readText cs) (.ok ()) :: scan rest
        else if c = '-' ∨ c.isDigit then
          match h : Numeral.read (c :: cs) with
          | .error problem => [.number (.error problem) (.error .malformed)]
          | .ok (n, rest) =>
            have := Numeral.read_length h
            .number n.value (.ok ()) :: scan rest
        else
          match h : readWord c cs with
          | .error problem => [.stray problem]
          | .ok (word, rest) =>
            have := readWord_length h
            word :: scan rest
termination_by cs => cs.length
decreasing_by all_goals simp_all <;> omega

end LightArbiter.Json
