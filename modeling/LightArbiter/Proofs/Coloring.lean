import LightArbiter.Color
import LightArbiter.Proofs.Words
import Mathlib.Data.Nat.Digits.Defs

/-!
# How colors are written

A number is written in decimal digits, with any zeros in front of them and perhaps a plus. `Writes`
says how a color is written with such numbers: blanks may stand around the whole and around each
component, and nowhere else.

Reading accepts exactly what is written so, and the canonical form of a color is one way to do it.
-/

namespace LightArbiter

open Text

/-! ### Numbers -/

namespace Text

variable {cs : List Char} {n : Nat}

/-- The number that digits write: each counts ten times as much as the one behind it. -/
def placeValue (ds : List Char) : Nat :=
  Nat.ofDigits 10 (ds.reverse.map fun d => d.toNat - '0'.toNat)

lemma digitsValue_eq_placeValue (ds : List Char) : digitsValue ds = placeValue ds := by
  induction ds using List.reverseRecOn with
  | nil => rfl
  | append_singleton ds d ih =>
    have hvalue : digitsValue (ds ++ [d]) = 10 * digitsValue ds + (d.toNat - '0'.toNat) :=
      Nat.ofDigitChars_append 0
    rw [hvalue, ih, placeValue, placeValue, List.reverse_concat, List.map_cons, Nat.ofDigits_cons,
      Nat.add_comm]

lemma natural?_plus (ds : List Char) : natural? ('+' :: ds) =
    if ds ≠ [] ∧ ds.all Char.isDigit then some (placeValue ds) else none := by
  rw [← digitsValue_eq_placeValue]
  rfl

lemma natural?_of_ne (h : ∀ c ∈ cs.head?, c ≠ '+') : natural? cs =
    if cs ≠ [] ∧ cs.all Char.isDigit then some (placeValue cs) else none := by
  rw [← digitsValue_eq_placeValue, natural?]
  rintro ds rfl
  exact h '+' rfl rfl

/-- A plus in front is passed over, and the rest has to be digits. -/
lemma exists_natural?_eq (cs : List Char) :
    ∃ plus ds, cs = plus ++ ds ∧ (plus = [] ∨ plus = ['+']) ∧
      natural? cs = if ds ≠ [] ∧ ds.all Char.isDigit then some (placeValue ds) else none := by
  by_cases hcs : ∃ ds, cs = '+' :: ds
  · obtain ⟨ds, rfl⟩ := hcs
    exact ⟨['+'], ds, rfl, .inr rfl, natural?_plus ds⟩
  · refine ⟨[], cs, rfl, .inl rfl, natural?_of_ne ?_⟩
    rintro c hc rfl
    exact hcs ⟨_, List.eq_cons_of_mem_head? hc⟩

/-- A number is read exactly if its digits are written, perhaps after a plus. -/
lemma natural?_eq_some_iff :
    natural? cs = some n ↔ ∃ plus ds, cs = plus ++ ds ∧ (plus = [] ∨ plus = ['+']) ∧ ds ≠ [] ∧
      (∀ d ∈ ds, d.isDigit = true) ∧ placeValue ds = n := by
  constructor
  · intro h
    obtain ⟨plus, ds, hcs, hplus, hread⟩ := exists_natural?_eq cs
    rw [hread, Option.ite_none_right_eq_some] at h
    obtain ⟨⟨hne, hall⟩, hvalue⟩ := h
    exact ⟨plus, ds, hcs, hplus, hne, List.all_eq_true.mp hall, Option.some.inj hvalue⟩
  · rintro ⟨plus, ds, rfl, rfl | rfl, hne, hdigits, rfl⟩
    · have hhead : ∀ c ∈ ds.head?, c ≠ '+' := by
        rintro c hc rfl
        exact absurd (hdigits '+' (List.mem_of_mem_head? hc)) (by decide)
      exact (natural?_of_ne hhead).trans (if_pos ⟨hne, List.all_eq_true.mpr hdigits⟩)
    · exact (natural?_plus ds).trans (if_pos ⟨hne, List.all_eq_true.mpr hdigits⟩)

end Text

namespace Color

variable {cs inner plus digits : List Char} {c : Char} {component : UInt8} {color : Color} {n : Nat}
  {text : String}

/-! ### Components -/

/-- How a component is written: the digits of its value, perhaps after a plus, between blanks.
Digits of a number above 255 write no component. -/
inductive WritesComponent : List Char → UInt8 → Prop where
  | intro {before plus digits after : List Char} {component : UInt8} (blank_before : Blank before)
      (plus_eq : plus = [] ∨ plus = ['+']) (digits_ne_nil : digits ≠ [])
      (all_digits : ∀ d ∈ digits, d.isDigit = true) (value : placeValue digits = component.toNat)
      (blank_after : Blank after) :
      WritesComponent (before ++ (plus ++ digits) ++ after) component

lemma eq_plus_or_isDigit (hplus : plus = [] ∨ plus = ['+'])
    (hdigits : ∀ d ∈ digits, d.isDigit = true) (h : c ∈ plus ++ digits) :
    c = '+' ∨ c.isDigit = true := by
  rcases List.mem_append.mp h with h | h
  · rcases hplus with rfl | rfl
    · cases h
    · exact .inl (List.mem_singleton.mp h)
  · exact .inr (hdigits c h)

/-- There is no blank within a number. -/
lemma isBlank_of_mem_number (hplus : plus = [] ∨ plus = ['+'])
    (hdigits : ∀ d ∈ digits, d.isDigit = true) (h : c ∈ plus ++ digits) : isBlank c = false := by
  rcases eq_plus_or_isDigit hplus hdigits h with rfl | hdigit
  · decide
  · exact isBlank_of_isDigit hdigit

lemma byte?_eq_some_iff : byte? n = some component ↔ n = component.toNat := by
  have hle : component.toNat ≤ 255 := Nat.le_of_lt_succ component.toNat_lt
  rw [byte?, Option.ite_none_right_eq_some, Option.some.injEq]
  constructor
  · rintro ⟨hn, rfl⟩
    rw [UInt8.toNat_ofNat', Nat.mod_eq_of_lt (Nat.lt_succ_of_le hn)]
  · rintro rfl
    exact ⟨hle, UInt8.ofNat_toNat⟩

lemma component?_eq_some_iff : component? cs = some component ↔ WritesComponent cs component := by
  constructor
  · intro h
    obtain ⟨n, hn, hbyte⟩ := Option.bind_eq_some_iff.mp h
    obtain ⟨-, before, after, hbefore, hafter, hcs⟩ := exists_trim cs
    obtain ⟨plus, digits, htrim, hplus, hne, hdigits, hvalue⟩ := natural?_eq_some_iff.mp hn
    rw [hcs, htrim]
    exact .intro hbefore hplus hne hdigits (hvalue.trans (byte?_eq_some_iff.mp hbyte)) hafter
  · rintro ⟨hbefore, hplus, hne, hdigits, hvalue, hafter⟩
    rename_i before plus digits after
    have htrimmed : Trimmed (plus ++ digits) :=
      ⟨fun c hc => isBlank_of_mem_number hplus hdigits (List.mem_of_mem_head? hc),
        fun c hc => isBlank_of_mem_number hplus hdigits (List.mem_of_getLast? hc)⟩
    rw [component?, htrimmed.trim_append hbefore hafter]
    exact Option.bind_eq_some_iff.mpr ⟨_, natural?_eq_some_iff.mpr
      ⟨plus, digits, rfl, hplus, hne, hdigits, rfl⟩, byte?_eq_some_iff.mpr hvalue⟩

lemma WritesComponent.comma_notMem (h : WritesComponent cs component) : ',' ∉ cs := by
  obtain ⟨hbefore, hplus, -, hdigits, -, hafter⟩ := h
  intro hcomma
  rcases List.mem_append.mp hcomma with hcomma | hcomma
  · rcases List.mem_append.mp hcomma with hcomma | hcomma
    · exact absurd (hbefore ',' hcomma) (by decide)
    · exact absurd (eq_plus_or_isDigit hplus hdigits hcomma) (by decide)
  · exact absurd (hafter ',' hcomma) (by decide)

lemma isDigit_of_mem_componentText (h : c ∈ componentText component) : c.isDigit = true :=
  Nat.isDigit_of_mem_toDigits (by decide) (by decide) h

/-- The text of a component writes it, with blanks in front of it or without. -/
lemma writesComponent_componentText (before : List Char) (h : Blank before) (component : UInt8) :
    WritesComponent (before ++ componentText component) component := by
  have hvalue : placeValue (componentText component) = component.toNat := by
    rw [← digitsValue_eq_placeValue, componentText, digitsValue_toDigits]
  have hwrites : WritesComponent (before ++ ([] ++ componentText component) ++ []) component :=
    .intro h (.inl rfl) Nat.toDigits_ne_nil (fun _ => isDigit_of_mem_componentText) hvalue
      (by simp [Blank])
  simpa using hwrites

/-! ### Colors -/

/-- How a color is written: its components between commas and in parentheses, between blanks. -/
inductive Writes : List Char → Color → Prop where
  | intro {before red green blue after : List Char} {color : Color} (blank_before : Blank before)
      (writes_red : WritesComponent red color.red)
      (writes_green : WritesComponent green color.green)
      (writes_blue : WritesComponent blue color.blue) (blank_after : Blank after) :
      Writes (before ++ ('(' :: (red ++ ',' :: (green ++ ',' :: blue)) ++ [')']) ++ after) color

lemma inner?_eq_some_iff : inner? cs = some inner ↔ cs = '(' :: inner ++ [')'] := by
  constructor
  · intro h
    unfold inner? at h
    split at h
    · rename_i rest
      rw [Option.ite_none_right_eq_some, Option.some.injEq] at h
      obtain ⟨hlast, rfl⟩ := h
      rw [List.cons_append, List.dropLast_append_getLast? _ hlast]
    · cases h
  · rintro rfl
    rw [List.cons_append, inner?, List.getLast?_concat, if_pos rfl, List.dropLast_concat]

/-- A text in parentheses has no blank at its ends. -/
lemma trimmed_parenthesized (inner : List Char) : Trimmed ('(' :: inner ++ [')']) := by
  constructor
  · rintro _ ⟨⟩
    rfl
  · rw [List.getLast?_concat]
    rintro _ ⟨⟩
    rfl

/-- A color is read exactly if it is written. -/
lemma ofChars?_eq_some_iff_writes : ofChars? cs = some color ↔ Writes cs color := by
  constructor
  · intro h
    obtain ⟨inner, hinner, h⟩ := Option.bind_eq_some_iff.mp h
    obtain ⟨-, before, after, hbefore, hafter, hcs⟩ := exists_trim cs
    split at h
    · rename_i red green blue hsplit
      simp only [Option.bind_eq_bind, Option.bind_eq_some_iff] at h
      obtain ⟨r, hred, g, hgreen, b, hblue, hcolor⟩ := h
      obtain rfl : (⟨r, g, b⟩ : Color) = color := Option.some.inj hcolor
      have hjoin : inner = red ++ ',' :: (green ++ ',' :: blue) := by
        have hpieces : [','].intercalate (inner.splitOn ',') = inner := List.intercalate_splitOn ','
        rw [← hpieces, hsplit]
        simp [List.intercalate]
      rw [hcs, inner?_eq_some_iff.mp hinner, hjoin]
      exact .intro hbefore (component?_eq_some_iff.mp hred) (component?_eq_some_iff.mp hgreen)
        (component?_eq_some_iff.mp hblue) hafter
    · cases h
  · rintro ⟨hbefore, hred, hgreen, hblue, hafter⟩
    rename_i before red green blue after
    have hsplit : (red ++ ',' :: (green ++ ',' :: blue)).splitOn ',' = [red, green, blue] := by
      rw [List.splitOn_append_cons_self_of_not_mem hred.comma_notMem,
        List.splitOn_append_cons_self_of_not_mem hgreen.comma_notMem,
        List.splitOn_eq_singleton hblue.comma_notMem]
    rw [ofChars?, (trimmed_parenthesized _).trim_append hbefore hafter,
      inner?_eq_some_iff.mpr rfl]
    simp [hsplit, component?_eq_some_iff.mpr hred, component?_eq_some_iff.mpr hgreen,
      component?_eq_some_iff.mpr hblue]

/-- The canonical form of a color writes it. -/
lemma writes_chars (color : Color) : Writes color.chars color := by
  have hspace : ∀ component, WritesComponent (' ' :: componentText component) component :=
    writesComponent_componentText [' '] (by decide)
  have hwrites : Writes ([] ++ ('(' :: (componentText color.red ++ ',' ::
      (' ' :: componentText color.green ++ ',' :: (' ' :: componentText color.blue))) ++ [')']) ++
        []) color :=
    .intro (by decide) (writesComponent_componentText [] (by decide) color.red)
      (hspace color.green) (hspace color.blue) (by decide)
  simpa [chars] using hwrites

/-- A color is read as it is written. -/
lemma ofChars?_chars (color : Color) : ofChars? color.chars = some color :=
  ofChars?_eq_some_iff_writes.mpr color.writes_chars

lemma ofText_eq_ok_iff : Color.ofText text = .ok color ↔ ofChars? text.toList = some color := by
  rw [Color.ofText]
  cases ofChars? text.toList <;> simp

lemma ofText_text (color : Color) : Color.ofText color.text = .ok color := by
  rw [ofText_eq_ok_iff, Color.text, String.toList_ofList, ofChars?_chars]

/--
A text is read as a color exactly if it writes this color. Every other text is refused, and the
error holds it as it stands. The canonical form of a color is read as that color.
-/
theorem ofText_eq_ok_iff_writes (text : String) :
    (∀ color, Color.ofText text = .ok color ↔ Writes text.toList color) ∧
      (∀ error, Color.ofText text = .error error ↔
        error = ⟨text⟩ ∧ ∀ color, ¬Writes text.toList color) ∧
      ∀ color : Color, Color.ofText color.text = .ok color := by
  have hread : ∀ color, Color.ofText text = .ok color ↔ Writes text.toList color := fun color =>
    ofText_eq_ok_iff.trans ofChars?_eq_some_iff_writes
  refine ⟨hread, fun error => ?_, ofText_text⟩
  simp only [← hread]
  rw [Color.ofText]
  cases ofChars? text.toList <;> simp [eq_comm]

-- Blanks of any kind, zeros and a plus are allowed, but no blank within a number.
example :
    Color.ofText "\u3000( +000255,0 ,\t07)\n" = .ok ⟨255, 0, 7⟩ ∧
      Color.ofText "(25 5, 0, 7)" = .error ⟨"(25 5, 0, 7)"⟩ ∧
      Color.ofText "(256, 0, 7)" = .error ⟨"(256, 0, 7)"⟩ := by
  decide

end Color

end LightArbiter
