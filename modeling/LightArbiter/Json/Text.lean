import LightArbiter.Json.Problem
import LightArbiter.Text.Bytes
import LightArbiter.Text.Digits

/-!
# Strings in a payload

A string is read in one of two ways. Where its text matters, surrogate escapes have to form pairs;
where it is skipped, only its form counts. Both readers start after the opening quote. The writer
escapes the quote, the backslash and the control characters, and nothing else.
-/

namespace LightArbiter.Json

/-! ### Escapes -/

/-- The four hexadecimal digits of a code unit. With fewer than four bytes left the text is cut. -/
def readUnit : List Char → Except Problem (Nat × List Char)
  | a :: b :: c :: d :: cs =>
    match Text.hexDigit? a, Text.hexDigit? b, Text.hexDigit? c, Text.hexDigit? d with
    | some a, some b, some c, some d => .ok (((a * 16 + b) * 16 + c) * 16 + d, cs)
    | _, _, _, _ => .error .malformed
  | cs => .error (if Text.byteCount cs < 4 then .cutShort else .malformed)

/-- The character after a leading surrogate `lead`: an escape with the trailing one. -/
def readTrailing (lead : Nat) : List Char → Except Problem (Char × List Char)
  | '\\' :: 'u' :: cs => do
    let (trail, cs) ← readUnit cs
    if 0xDC00 ≤ trail ∧ trail ≤ 0xDFFF then
      return (Char.ofNat (0x10000 + (lead - 0xD800) * 0x400 + (trail - 0xDC00)), cs)
    else .error .malformed
  | [] => .error .cutShort
  | ['\\'] => .error .cutShort
  | _ => .error .malformed

/-- The character that a letter after a backslash stands for, the code unit escape apart. -/
def simpleEscape? (c : Char) : Option Char :=
  if c = '"' ∨ c = '\\' ∨ c = '/' then some c
  else if c = 'b' then some '\x08'
  else if c = 'f' then some '\x0c'
  else if c = 'n' then some '\n'
  else if c = 'r' then some '\r'
  else if c = 't' then some '\t'
  else none

/-- The character that is escaped after a backslash. -/
def readEscape : List Char → Except Problem (Char × List Char)
  | [] => .error .cutShort
  | 'u' :: cs => do
    let (unit, cs) ← readUnit cs
    if 0xDC00 ≤ unit ∧ unit ≤ 0xDFFF then .error .malformed
    else if 0xD800 ≤ unit ∧ unit ≤ 0xDBFF then readTrailing unit cs
    else return (Char.ofNat unit, cs)
  | c :: cs =>
    match simpleEscape? c with
    | some e => .ok (e, cs)
    | none => .error .malformed

/-- The text after what is escaped by a backslash, whatever a code unit stands for. -/
def skipEscape : List Char → Except Problem (List Char)
  | [] => .error .cutShort
  | 'u' :: cs => (readUnit cs).map (·.2)
  | c :: cs => if (simpleEscape? c).isSome then .ok cs else .error .malformed

/-! ### Progress -/

theorem readUnit_length {cs rest : List Char} {n : Nat} (h : readUnit cs = .ok (n, rest)) :
    rest.length < cs.length := by
  unfold readUnit at h
  split at h
  · split at h
    · simp only [Except.ok.injEq, Prod.mk.injEq] at h
      simp only [← h.2, List.length_cons]
      omega
    · simp at h
  · simp at h

theorem readTrailing_length {cs rest : List Char} {lead : Nat} {c : Char}
    (h : readTrailing lead cs = .ok (c, rest)) : rest.length < cs.length := by
  unfold readTrailing at h
  split at h
  · rename_i cs
    rcases hu : readUnit cs with p | ⟨trail, cs'⟩
    · simp [hu, bind, Except.bind] at h
    · have := readUnit_length hu
      simp only [hu, bind, Except.bind] at h
      split at h
      · simp only [pure, Except.pure, Except.ok.injEq, Prod.mk.injEq] at h
        rw [← h.2]
        simp only [List.length_cons]
        omega
      · simp at h
  all_goals simp at h

theorem readEscape_length {cs rest : List Char} {c : Char} (h : readEscape cs = .ok (c, rest)) :
    rest.length < cs.length := by
  unfold readEscape at h
  split at h
  · simp at h
  · rename_i cs
    rcases hu : readUnit cs with p | ⟨unit, cs'⟩
    · simp [hu, bind, Except.bind] at h
    · have := readUnit_length hu
      simp only [hu, bind, Except.bind] at h
      split at h
      · simp at h
      · split at h
        · have := readTrailing_length h
          simp only [List.length_cons]
          omega
        · simp only [pure, Except.pure, Except.ok.injEq, Prod.mk.injEq] at h
          rw [← h.2]
          simp only [List.length_cons]
          omega
  · split at h
    · simp only [Except.ok.injEq, Prod.mk.injEq] at h
      simp [← h.2]
    · simp at h

theorem skipEscape_length {cs rest : List Char} (h : skipEscape cs = .ok rest) :
    rest.length < cs.length := by
  unfold skipEscape at h
  split at h
  · simp at h
  · rename_i cs
    rcases hu : readUnit cs with p | ⟨unit, cs'⟩
    · simp [hu, Except.map] at h
    · have := readUnit_length hu
      simp only [hu, Except.map, Except.ok.injEq] at h
      rw [← h]
      simp only [List.length_cons]
      omega
  · split at h
    · simp only [Except.ok.injEq] at h
      simp [← h]
    · simp at h

/-! ### Reading -/

/-- The characters up to the closing quote, unescaped, and the text after it. -/
def readChars : List Char → Except Problem (List Char × List Char)
  | [] => .error .cutShort
  | c :: cs =>
    if c = '"' then .ok ([], cs)
    else if c = '\\' then
      match h : readEscape cs with
      | .error problem => .error problem
      | .ok (e, rest) =>
        have := readEscape_length h
        (readChars rest).map fun (text, rest) => (e :: text, rest)
    else if c.toNat < 0x20 then .error .malformed
    else (readChars cs).map fun (text, rest) => (c :: text, rest)
termination_by cs => cs.length

/-- The text after the closing quote. -/
def skipChars : List Char → Except Problem (List Char)
  | [] => .error .cutShort
  | c :: cs =>
    if c = '"' then .ok cs
    else if c = '\\' then
      match h : skipEscape cs with
      | .error problem => .error problem
      | .ok rest =>
        have := skipEscape_length h
        skipChars rest
    else if c.toNat < 0x20 then .error .malformed
    else skipChars cs
termination_by cs => cs.length

theorem skipChars_length {cs rest : List Char} (h : skipChars cs = .ok rest) :
    rest.length < cs.length := by
  fun_induction skipChars cs with
  | case1 => simp at h
  | case2 cs => simp_all
  | case3 => simp at h
  | case4 cs _ rest hrest hlen ih =>
    have := ih h
    simp only [List.length_cons]
    omega
  | case5 => simp at h
  | case6 c cs _ _ _ ih =>
    have := ih h
    simp only [List.length_cons]
    omega

/-- The text of a string whose characters start here. -/
def readText (cs : List Char) : Except Problem String :=
  (readChars cs).map fun (text, _) => String.ofList text

/-! ### Writing -/

/-- A hexadecimal digit. -/
def hexDigit (n : Nat) : Char :=
  Nat.digitChar (n % 16)

/-- The spelling of a character in a string. -/
def writeChar (c : Char) : List Char :=
  if c = '"' then ['\\', '"']
  else if c = '\\' then ['\\', '\\']
  else if c = '\x08' then ['\\', 'b']
  else if c = '\x0c' then ['\\', 'f']
  else if c = '\n' then ['\\', 'n']
  else if c = '\r' then ['\\', 'r']
  else if c = '\t' then ['\\', 't']
  else if c.toNat < 0x20 then ['\\', 'u', '0', '0', hexDigit (c.toNat / 16), hexDigit c.toNat]
  else [c]

/-- The characters of a string with its quotes. -/
def writeChars (text : List Char) : List Char :=
  '"' :: text.flatMap writeChar ++ ['"']

end LightArbiter.Json
