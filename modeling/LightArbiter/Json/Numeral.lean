import LightArbiter.Json.Problem
import LightArbiter.Number.Decimal

/-!
# Numbers in a payload

The notation is that of JSON. The value is computed from the leading digits that fit into 64 bits
and a power of ten, with a rounding at each step, so it may differ from the nearest double in its
last bit.
-/

namespace LightArbiter.Json

/-- The parts of a written number. A number without a point has an empty fraction. -/
structure Numeral where
  negative : Bool
  whole : List Char
  fraction : List Char
  exponent : Option (Bool × List Char)
deriving DecidableEq

/-! ### Notation -/

/-- The problem of a text that goes on with `rest` where a digit is needed. -/
def noDigit (rest : List Char) : Problem :=
  if rest.isEmpty then .cutShort else .malformed

/-- The minus sign of a number, and the text after it. -/
def readMinus : List Char → Bool × List Char
  | '-' :: cs => (true, cs)
  | cs => (false, cs)

/-- The digits before the point: at least one, and no other after a zero at the start. -/
def readWhole (cs : List Char) : Except Problem (List Char × List Char) :=
  let digits := Text.digits cs
  if digits = [] then .error (noDigit (Text.afterDigits cs))
  else if digits.head? = some '0' ∧ digits.length ≠ 1 then .error .malformed
  else .ok (digits, Text.afterDigits cs)

/-- At least one digit, and the text after the digits. -/
def readDigits (cs : List Char) : Except Problem (List Char × List Char) :=
  if Text.digits cs = [] then .error (noDigit (Text.afterDigits cs))
  else .ok (Text.digits cs, Text.afterDigits cs)

/-- The digits after a point, if there is one. -/
def readFraction : List Char → Except Problem (List Char × List Char)
  | '.' :: cs => readDigits cs
  | cs => .ok ([], cs)

/-- The sign and the digits of an exponent, if there is one. -/
def readExponent : List Char → Except Problem (Option (Bool × List Char) × List Char)
  | [] => .ok (none, [])
  | c :: cs =>
    if c = 'e' ∨ c = 'E' then do
      let (negative, cs) := readSign cs
      let (digits, cs) ← readDigits cs
      return (some (negative, digits), cs)
    else .ok (none, c :: cs)

/-- The number at the start of the text, and the text after it. -/
def Numeral.read (cs : List Char) : Except Problem (Numeral × List Char) := do
  let (negative, cs) := readMinus cs
  let (whole, cs) ← readWhole cs
  let (fraction, cs) ← readFraction cs
  let (exponent, cs) ← readExponent cs
  return (⟨negative, whole, fraction, exponent⟩, cs)

/-! ### Value -/

/--
The digits taken into a number for as long as it stays below `2 ^ 64`, starting from `value`, and
how many digits are left when the next one does not fit.
-/
def takeDigits (value : Nat) : List Char → Nat × Nat
  | [] => (value, 0)
  | d :: ds =>
    let next := 10 * value + (d.toNat - '0'.toNat)
    if next < twoPow 64 then takeDigits next ds else (value, ds.length + 1)

/-- A power of ten as a double. -/
def powerOfTen (n : Nat) : Magnitude :=
  Magnitude.ofDecimal 1 n

/-- Division by a power of ten, in steps of `10 ^ 308` and a last one. -/
def divideByPower (value : Magnitude) (n : Nat) : Magnitude :=
  if n ≤ 308 then value.div (powerOfTen n)
  else if value = Magnitude.zero then value
  else divideByPower (value.div (powerOfTen 308)) (n - 308)
termination_by n

/-- Multiplication by a power of ten. -/
def timesPower (value : Magnitude) (exponent : Int) : Magnitude :=
  if exponent < 0 then divideByPower value exponent.natAbs
  else if exponent ≤ 308 then value.mul (powerOfTen exponent.natAbs)
  else if value = Magnitude.zero then value
  else Magnitude.infinity

/-- The greatest exponent that is computed with. -/
def maxExponent : Int := 2147483647

namespace Numeral

/-- The digits that fit into 64 bits, and the power of ten that belongs to them. -/
def significand (n : Numeral) : Nat × Int :=
  let (whole, dropped) := takeDigits 0 n.whole
  let (all, ignored) := takeDigits whole n.fraction
  (all, (dropped : Int) - ((n.fraction.length : Int) - ignored))

/-- The magnitude of a number that is not read as a whole number. -/
def magnitude (n : Numeral) : Magnitude :=
  let (digits, shift) := n.significand
  match n.exponent with
  | none => timesPower (Magnitude.ofNat digits) shift
  | some (down, written) =>
    let exponent : Int := Text.digitsValue written
    if maxExponent < exponent then
      if down ∨ digits = 0 then Magnitude.zero else Magnitude.infinity
    else
      let total := if down then shift - exponent else shift + exponent
      timesPower (Magnitude.ofNat digits) (max (-maxExponent - 1) (min total maxExponent))

/-- The whole number that is written, if it is one of 64 bits; minus zero is none. -/
def whole? (n : Numeral) : Option Int :=
  let (digits, dropped) := takeDigits 0 n.whole
  if n.fraction ≠ [] ∨ n.exponent ≠ none ∨ dropped ≠ 0 then none
  else if !n.negative then some digits
  else if digits ≠ 0 ∧ digits ≤ twoPow 63 then some (-digits)
  else none

/-- The value of the number. An infinite one is refused. -/
def value (n : Numeral) : Except Problem Number :=
  match Coordinate.ofMagnitude? n.negative n.magnitude with
  | some x => .ok ⟨x, n.whole?⟩
  | none => .error .malformed

end Numeral

/-! ### Progress -/

theorem readSign_length (cs : List Char) : (readSign cs).2.length ≤ cs.length := by
  unfold readSign; split <;> simp

theorem readMinus_length (cs : List Char) : (readMinus cs).2.length ≤ cs.length := by
  unfold readMinus; split <;> simp

theorem readDigits_length {cs digits rest : List Char} (h : readDigits cs = .ok (digits, rest)) :
    rest.length < cs.length := by
  have hs := Text.length_digits_add cs
  unfold readDigits at h
  split at h
  · simp at h
  · rename_i hne
    have := List.length_pos_iff.2 hne
    simp only [Except.ok.injEq, Prod.mk.injEq] at h
    obtain ⟨rfl, rfl⟩ := h
    omega

theorem readWhole_length {cs digits rest : List Char} (h : readWhole cs = .ok (digits, rest)) :
    rest.length < cs.length := by
  have hs := Text.length_digits_add cs
  simp only [readWhole] at h
  split at h
  · simp at h
  · rename_i hne
    have := List.length_pos_iff.2 hne
    split at h
    · simp at h
    · simp only [Except.ok.injEq, Prod.mk.injEq] at h
      obtain ⟨rfl, rfl⟩ := h
      omega

theorem readFraction_length {cs digits rest : List Char}
    (h : readFraction cs = .ok (digits, rest)) : rest.length ≤ cs.length := by
  unfold readFraction at h
  split at h
  · have := readDigits_length h
    simp only [List.length_cons]
    omega
  · simp only [Except.ok.injEq, Prod.mk.injEq] at h
    simp [h.2]

theorem readExponent_length {cs rest : List Char} {e : Option (Bool × List Char)}
    (h : readExponent cs = .ok (e, rest)) : rest.length ≤ cs.length := by
  unfold readExponent at h
  split at h
  · simp only [Except.ok.injEq, Prod.mk.injEq] at h
    simp [← h.2]
  · rename_i c cs
    split at h
    · have hs := readSign_length cs
      rcases hd : readDigits (readSign cs).2 with p | ⟨digits, rest'⟩
      · simp [hd, bind, Except.bind] at h
      · have := readDigits_length hd
        simp only [hd, bind, Except.bind, pure, Except.pure, Except.ok.injEq, Prod.mk.injEq] at h
        rw [← h.2, List.length_cons]
        omega
    · simp only [Except.ok.injEq, Prod.mk.injEq] at h
      simp [← h.2]

/-- Reading a number takes at least one character off the text. -/
theorem Numeral.read_length {cs rest : List Char} {n : Numeral} (h : Numeral.read cs = .ok (n, rest)) :
    rest.length < cs.length := by
  have hm := readMinus_length cs
  simp only [Numeral.read, bind, Except.bind, pure, Except.pure] at h
  rcases hw : readWhole (readMinus cs).2 with p | ⟨whole, cs₁⟩
  · simp [hw] at h
  have := readWhole_length hw
  rcases hf : readFraction cs₁ with p | ⟨fraction, cs₂⟩
  · simp [hw, hf] at h
  have := readFraction_length hf
  rcases he : readExponent cs₂ with p | ⟨exponent, cs₃⟩
  · simp [hw, hf, he] at h
  have := readExponent_length he
  simp only [hw, hf, he, Except.ok.injEq, Prod.mk.injEq] at h
  rw [← h.2]
  omega

end LightArbiter.Json
