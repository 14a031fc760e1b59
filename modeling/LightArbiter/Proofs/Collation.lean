import Mathlib.Tactic

/-!
# The order of texts

Texts are compared character by character, by the codes of the characters. UTF-8 keeps that order:
of two characters the one with the lower code has the lower bytes, whatever follows them. So the
order of texts is the order of their bytes.
-/

namespace LightArbiter

variable {c d : Char} {cs ds : List Char} {s t : String}

/-- The bytes of a text in UTF-8. -/
def bytesOf (text : String) : List UInt8 :=
  text.toUTF8.data.toList

lemma bytesOf_eq (text : String) : bytesOf text = text.toList.flatMap String.utf8EncodeChar := by
  rw [bytesOf, String.toUTF8, ← String.utf8Encode_toList, List.utf8Encode, List.data_toByteArray]

/-- The character with the lower code has the lower bytes, whatever follows the two. -/
lemma encode_append_lt (h : c < d) (x y : List UInt8) :
    String.utf8EncodeChar c ++ x < String.utf8EncodeChar d ++ y := by
  have hcode : c.val.toNat < d.val.toNat := h
  have hd : d.val.toNat < 0x110000 := by
    rcases d.valid with hd | ⟨-, hd⟩
    · exact hd.trans (by decide)
    · exact hd
  -- A code is spread over the bytes six bits at a time, so the digits to the base 64 are compared.
  have hdigits (v : Nat) : v / 4096 = v / 64 / 64 ∧ v / 262144 = v / 64 / 64 / 64 := by omega
  unfold String.utf8EncodeChar
  simp only [hdigits]
  split_ifs <;>
    simp only [List.cons_append, List.nil_append, List.cons_lt_cons_iff, UInt8.lt_iff_toNat_lt,
      ← UInt8.toNat_inj, UInt8.toNat_ofNat'] <;> omega

lemma flatMap_encode_lt (h : cs < ds) :
    cs.flatMap String.utf8EncodeChar < ds.flatMap String.utf8EncodeChar := by
  induction h with
  | @nil d ds =>
    rw [List.flatMap_nil, List.flatMap_cons]
    cases hd : String.utf8EncodeChar d with
    | nil => exact absurd hd String.utf8EncodeChar_ne_nil
    | cons b bytes => exact List.nil_lt_cons ..
  | rel hlt => exact encode_append_lt hlt _ _
  | cons _ ih => exact List.append_left_lt ih

lemma bytesOf_lt (h : s < t) : bytesOf s < bytesOf t := by
  rw [bytesOf_eq, bytesOf_eq]
  exact flatMap_encode_lt (String.lt_iff.mp h)

/-- Texts are in the order of their bytes. -/
theorem bytesOf_lt_iff : bytesOf s < bytesOf t ↔ s < t := by
  refine ⟨fun h => ?_, bytesOf_lt⟩
  by_contra hlt
  by_cases hgt : t < s
  · exact List.lt_asymm h (bytesOf_lt hgt)
  · have heq : s = t := String.le_antisymm (String.not_lt.mp hgt) (String.not_lt.mp hlt)
    exact List.lt_irrefl _ (heq ▸ h)

-- The order of UTF-16 code units would be another one.
example : "\uffff" < "😀" ∧ bytesOf "\uffff" < bytesOf "😀" := by decide

end LightArbiter
