import LightArbiter.Json.Writer
import LightArbiter.Proofs.Words

/-!
# Tokens of what is written

Strings, truth values and coordinates are written so that the pass over the text comes to one token
for each of them, whatever stands behind it. A number goes on for as long as it can, so that what
stands behind one matters: a mark ends it. A coordinate is taken to read back as itself where its
text stands alone, and then it does so in front of a mark.
-/

namespace LightArbiter

/-! ### Codes of characters -/

/-- Is the code of no character below this one? -/
def AtLeast (code : Nat) (cs : List Char) : Prop :=
  ∀ c ∈ cs, code ≤ c.toNat

section AtLeast

variable {code : Nat} {c : Char} {cs ds : List Char}

@[simp] lemma atLeast_nil : AtLeast code [] := by simp [AtLeast]

@[simp] lemma atLeast_cons : AtLeast code (c :: cs) ↔ code ≤ c.toNat ∧ AtLeast code cs := by
  simp [AtLeast]

@[simp] lemma atLeast_append : AtLeast code (cs ++ ds) ↔ AtLeast code cs ∧ AtLeast code ds := by
  simp [AtLeast, or_imp, forall_and]

lemma AtLeast.sublist (h : AtLeast code cs) (hds : ds.Sublist cs) : AtLeast code ds := fun c hc =>
  h c (hds.subset hc)

lemma AtLeast.mono {other : Nat} (h : AtLeast code cs) (hle : other ≤ code) : AtLeast other cs :=
  fun c hc => hle.trans (h c hc)

lemma atLeast_toDigits (n : Nat) : AtLeast 0x30 (Nat.toDigits 10 n) := by
  intro c hc
  have hdigit : c.isDigit = true := Nat.isDigit_of_mem_toDigits (by decide) (by decide) hc
  exact (Char.isDigit_iff_toNat.mp hdigit).1

lemma atLeast_replicate (h : code ≤ c.toNat) (n : Nat) : AtLeast code (List.replicate n c) := by
  intro d hd
  rwa [List.eq_of_mem_replicate hd]

end AtLeast

namespace Json

/-! ### Strings -/

section Strings

variable {c : Char} {rest text : List Char}

lemma hexDigit?_hexDigit (n : Nat) : Text.hexDigit? (hexDigit n) = some (n % 16) := by
  have hdigits : ∀ m < 16, Text.hexDigit? (Nat.digitChar m) = some m := by decide
  exact hdigits _ (Nat.mod_lt n (by decide))

/-- The escape of a control character without a letter of its own. -/
lemma readUnit_hexDigit (h : c.toNat < 0x20) :
    readUnit ('0' :: '0' :: hexDigit (c.toNat / 16) :: hexDigit c.toNat :: rest) =
      .ok (c.toNat, rest) := by
  have hzero : Text.hexDigit? '0' = some 0 := by decide
  simp only [readUnit, hexDigit?_hexDigit, hzero]
  rw [Except.ok.injEq, Prod.mk.injEq]
  exact ⟨by omega, rfl⟩

/-- A character stands for itself, or it is escaped. -/
inductive Spelling (c : Char) : List Char → Prop where
  | plain (quote : c ≠ '"') (backslash : c ≠ '\\') (control : ¬c.toNat < 0x20) : Spelling c [c]
  | escape {cs : List Char} (reads : ∀ rest, readEscape (cs ++ rest) = .ok (c, rest))
      (skips : ∀ rest, skipEscape (cs ++ rest) = .ok rest) : Spelling c ('\\' :: cs)

lemma Spelling.of_letter {letter : Char} (hunit : letter ≠ 'u')
    (h : simpleEscape? letter = some c) : Spelling c ['\\', letter] := by
  constructor
  · intro rest
    simp only [List.cons_append, List.nil_append]
    unfold readEscape
    split
    · contradiction
    · simp_all
    · simp_all
  · intro rest
    simp only [List.cons_append, List.nil_append]
    unfold skipEscape
    split
    · contradiction
    · simp_all
    · simp_all

lemma spelling_writeChar (c : Char) : Spelling c (writeChar c) := by
  unfold writeChar
  split_ifs with hquote hbackslash hb hf hn hr ht hcontrol
  · exact .of_letter (by decide) (by simp [hquote, simpleEscape?])
  · exact .of_letter (by decide) (by simp [hbackslash, simpleEscape?])
  · exact .of_letter (by decide) (by simp [hb, simpleEscape?])
  · exact .of_letter (by decide) (by simp [hf, simpleEscape?])
  · exact .of_letter (by decide) (by simp [hn, simpleEscape?])
  · exact .of_letter (by decide) (by simp [hr, simpleEscape?])
  · exact .of_letter (by decide) (by simp [ht, simpleEscape?])
  · have hlow : ¬(0xDC00 ≤ c.toNat ∧ c.toNat ≤ 0xDFFF) := by omega
    have hhigh : ¬(0xD800 ≤ c.toNat ∧ c.toNat ≤ 0xDBFF) := by omega
    constructor
    · intro rest
      simp only [List.cons_append, List.nil_append, readEscape, readUnit_hexDigit hcontrol, bind,
        Except.bind, if_neg hlow, if_neg hhigh, Char.ofNat_toNat]
      rfl
    · intro rest
      simp only [List.cons_append, List.nil_append, skipEscape, readUnit_hexDigit hcontrol]
      rfl
  · exact .plain hquote hbackslash hcontrol

lemma Spelling.readChars_append {spelling : List Char} (h : Spelling c spelling) :
    readChars (spelling ++ rest) = (readChars rest).map fun (text, rest) => (c :: text, rest) := by
  cases h with
  | plain quote backslash control =>
    rw [List.singleton_append, readChars, if_neg quote, if_neg backslash, if_neg control]
  | escape reads _ =>
    rw [List.cons_append, readChars, if_neg (by decide), if_pos rfl]
    split
    next hread => cases (reads rest).symm.trans hread
    next hread =>
      cases (reads rest).symm.trans hread
      rfl

lemma Spelling.skipChars_append {spelling : List Char} (h : Spelling c spelling) :
    skipChars (spelling ++ rest) = skipChars rest := by
  cases h with
  | plain quote backslash control =>
    rw [List.singleton_append, skipChars, if_neg quote, if_neg backslash, if_neg control]
  | escape _ skips =>
    rw [List.cons_append, skipChars, if_neg (by decide), if_pos rfl]
    split
    next hskip => cases (skips rest).symm.trans hskip
    next hskip =>
      cases (skips rest).symm.trans hskip
      rfl

/-- What has been written is read and skipped up to its closing quote. -/
lemma chars_writeChar (text rest : List Char) :
    readChars (text.flatMap writeChar ++ '"' :: rest) = .ok (text, rest) ∧
      skipChars (text.flatMap writeChar ++ '"' :: rest) = .ok rest := by
  induction text with
  | nil =>
    constructor
    · rw [List.flatMap_nil, List.nil_append, readChars, if_pos rfl]
    · rw [List.flatMap_nil, List.nil_append, skipChars, if_pos rfl]
  | cons c text ih =>
    rw [List.flatMap_cons, List.append_assoc, (spelling_writeChar c).readChars_append,
      (spelling_writeChar c).skipChars_append, ih.1, ih.2]
    exact ⟨rfl, rfl⟩

lemma atLeast_writeChar (c : Char) : AtLeast 0x20 (writeChar c) := by
  have hdigits : ∀ m < 16, 0x20 ≤ (Nat.digitChar m).toNat := by decide
  have hhex (n : Nat) : 0x20 ≤ (hexDigit n).toNat := hdigits _ (Nat.mod_lt n (by decide))
  unfold writeChar
  split_ifs with _ _ _ _ _ _ _ hcontrol
  all_goals simp [hhex]
  exact Nat.not_lt.mp hcontrol

/-- A string is written without control characters. -/
lemma atLeast_writeChars (text : List Char) : AtLeast 0x20 (writeChars text) := by
  have htext : AtLeast 0x20 (text.flatMap writeChar) := by
    intro d hd
    obtain ⟨c, -, hd⟩ := List.mem_flatMap.mp hd
    exact atLeast_writeChar c d hd
  simp [writeChars, htext]

end Strings

/-! ### Numbers -/

section Numbers

variable {c : Char} {cs t ds rest : List Char} {n : Numeral} {exponent : Option (Bool × List Char)}

/-- Does a number end in front of the text? -/
def EndsNumber (t : List Char) : Prop :=
  ∀ c ∈ t.head?, c.isDigit = false ∧ c ≠ '.' ∧ c ≠ 'e' ∧ c ≠ 'E'

lemma digits_append (ht : EndsNumber t) (cs : List Char) :
    Text.digits (cs ++ t) = Text.digits cs ∧
      Text.afterDigits (cs ++ t) = Text.afterDigits cs ++ t := by
  obtain ⟨front, rest, rfl, hfront, hrest⟩ := Text.exists_front Char.isDigit cs
  have hstop : ∀ c ∈ (rest ++ t).head?, c.isDigit = false := by
    intro c hc
    cases rest with
    | nil => exact (ht c hc).1
    | cons d rest => exact hrest c hc
  obtain ⟨hdigits, hafter⟩ := Text.takeWhile_append_eq rest hfront hrest
  obtain ⟨hdigits', hafter'⟩ := Text.takeWhile_append_eq (rest ++ t) hfront hstop
  rw [List.append_assoc]
  constructor
  · exact hdigits'.trans hdigits.symm
  · exact hafter'.trans (congrArg (· ++ t) hafter).symm

lemma readDigits_append (ht : EndsNumber t) (h : readDigits cs = .ok (ds, rest)) :
    readDigits (cs ++ t) = .ok (ds, rest ++ t) := by
  obtain ⟨hdigits, hafter⟩ := digits_append ht cs
  unfold readDigits at h ⊢
  rw [hdigits, hafter]
  split_ifs at h ⊢
  cases h
  rfl

lemma readWhole_append (ht : EndsNumber t) (h : readWhole cs = .ok (ds, rest)) :
    readWhole (cs ++ t) = .ok (ds, rest ++ t) := by
  obtain ⟨hdigits, hafter⟩ := digits_append ht cs
  simp only [readWhole] at h ⊢
  rw [hdigits, hafter]
  split_ifs at h ⊢
  cases h
  rfl

lemma readMinus_append (h : cs ≠ []) :
    readMinus (cs ++ t) = ((readMinus cs).1, (readMinus cs).2 ++ t) := by
  obtain ⟨c, cs, rfl⟩ := List.exists_cons_of_ne_nil h
  simp only [List.cons_append]
  unfold readMinus
  split <;> split <;> simp_all

lemma readFraction_of_ne (h : ∀ c ∈ cs.head?, c ≠ '.') : readFraction cs = .ok ([], cs) := by
  unfold readFraction
  split
  · exact absurd rfl (h '.' rfl)
  · rfl

lemma readFraction_append (ht : EndsNumber t) (h : readFraction cs = .ok (ds, rest)) :
    readFraction (cs ++ t) = .ok (ds, rest ++ t) := by
  cases cs with
  | nil =>
    cases h
    exact readFraction_of_ne fun c hc => (ht c hc).2.1
  | cons c cs =>
    by_cases hpoint : c = '.'
    · subst hpoint
      exact readDigits_append ht h
    · rw [readFraction_of_ne (by simpa using hpoint)] at h
      cases h
      exact readFraction_of_ne (by simpa using hpoint)

lemma readSign_append (h : cs ≠ []) :
    readSign (cs ++ t) = ((readSign cs).1, (readSign cs).2 ++ t) := by
  obtain ⟨c, cs, rfl⟩ := List.exists_cons_of_ne_nil h
  simp only [List.cons_append]
  unfold readSign
  split <;> split <;> simp_all

lemma readExponent_of_mark (hmark : c = 'e' ∨ c = 'E') :
    readExponent (c :: cs) = .ok (exponent, rest) ↔
      ∃ digits, readDigits (readSign cs).2 = .ok (digits, rest) ∧
        exponent = some ((readSign cs).1, digits) := by
  simp only [readExponent, if_pos hmark, bind, Except.bind, pure, Except.pure]
  rcases hdigits : readDigits (readSign cs).2 with problem | ⟨digits, left⟩ <;>
    simp [eq_comm, and_comm]

lemma readExponent_of_ne (h : ∀ c ∈ cs.head?, ¬(c = 'e' ∨ c = 'E')) :
    readExponent cs = .ok (none, cs) := by
  cases cs with
  | nil => rfl
  | cons c cs => exact if_neg (h c rfl)

lemma readExponent_append (ht : EndsNumber t) (h : readExponent cs = .ok (exponent, rest)) :
    readExponent (cs ++ t) = .ok (exponent, rest ++ t) := by
  cases cs with
  | nil =>
    cases h
    exact readExponent_of_ne fun c hc => not_or.mpr (ht c hc).2.2
  | cons c cs =>
    by_cases hmark : c = 'e' ∨ c = 'E'
    · obtain ⟨digits, hdigits, rfl⟩ := (readExponent_of_mark hmark).mp h
      have hne : cs ≠ [] := by
        rintro rfl
        cases hdigits
      rw [List.cons_append, readExponent_of_mark hmark, readSign_append hne]
      exact ⟨digits, readDigits_append ht hdigits, rfl⟩
    · rw [readExponent_of_ne (by simpa using hmark)] at h
      cases h
      exact readExponent_of_ne (by simpa using hmark)

/-- A number is read in four parts, one behind the other. -/
lemma read_eq_ok_iff :
    Numeral.read cs = .ok (n, rest) ↔ n.negative = (readMinus cs).1 ∧
      ∃ cs₁ cs₂, readWhole (readMinus cs).2 = .ok (n.whole, cs₁) ∧
        readFraction cs₁ = .ok (n.fraction, cs₂) ∧ readExponent cs₂ = .ok (n.exponent, rest) := by
  simp only [Numeral.read, bind, Except.bind, pure, Except.pure]
  constructor
  · intro h
    rcases hwhole : readWhole (readMinus cs).2 with problem | ⟨whole, cs₁⟩
    · simp [hwhole] at h
    rcases hfraction : readFraction cs₁ with problem | ⟨fraction, cs₂⟩
    · simp [hwhole, hfraction] at h
    rcases hexponent : readExponent cs₂ with problem | ⟨exponent, cs₃⟩
    · simp [hwhole, hfraction, hexponent] at h
    simp only [hwhole, hfraction, hexponent] at h
    cases h
    exact ⟨rfl, cs₁, cs₂, rfl, hfraction, hexponent⟩
  · rintro ⟨hnegative, cs₁, cs₂, hwhole, hfraction, hexponent⟩
    simp only [hwhole, hfraction, hexponent, ← hnegative]

/-- A number is read in the same way in front of a text that it cannot go on with. -/
lemma read_append (ht : EndsNumber t) (h : Numeral.read cs = .ok (n, rest)) :
    Numeral.read (cs ++ t) = .ok (n, rest ++ t) := by
  have hne : cs ≠ [] := by
    rintro rfl
    cases h
  obtain ⟨hnegative, cs₁, cs₂, hwhole, hfraction, hexponent⟩ := read_eq_ok_iff.mp h
  refine read_eq_ok_iff.mpr ⟨?_, cs₁ ++ t, cs₂ ++ t, ?_, readFraction_append ht hfraction,
    readExponent_append ht hexponent⟩
  · rw [readMinus_append hne]
    exact hnegative
  · rw [readMinus_append hne]
    exact readWhole_append ht hwhole

lemma readDigits_suffix (h : readDigits cs = .ok (ds, rest)) : rest <:+ cs := by
  unfold readDigits at h
  split_ifs at h
  cases h
  exact List.dropWhile_suffix _

lemma readWhole_suffix (h : readWhole cs = .ok (ds, rest)) : rest <:+ cs := by
  simp only [readWhole] at h
  split_ifs at h
  cases h
  exact List.dropWhile_suffix _

lemma readMinus_suffix (cs : List Char) : (readMinus cs).2 <:+ cs := by
  unfold readMinus
  split
  · exact List.suffix_cons ..
  · exact List.suffix_rfl

lemma readSign_suffix (cs : List Char) : (readSign cs).2 <:+ cs := by
  unfold readSign
  split
  · exact List.suffix_cons ..
  · exact List.suffix_cons ..
  · exact List.suffix_rfl

lemma readFraction_suffix (h : readFraction cs = .ok (ds, rest)) : rest <:+ cs := by
  unfold readFraction at h
  split at h
  · exact (readDigits_suffix h).trans (List.suffix_cons ..)
  · cases h
    exact List.suffix_rfl

lemma readExponent_suffix (h : readExponent cs = .ok (exponent, rest)) : rest <:+ cs := by
  cases cs with
  | nil =>
    cases h
    exact List.suffix_rfl
  | cons c cs =>
    by_cases hmark : c = 'e' ∨ c = 'E'
    · obtain ⟨digits, hdigits, -⟩ := (readExponent_of_mark hmark).mp h
      exact ((readDigits_suffix hdigits).trans (readSign_suffix cs)).trans (List.suffix_cons ..)
    · rw [readExponent_of_ne (by simpa using hmark)] at h
      cases h
      exact List.suffix_rfl

/-- A number leaves the end of the text. -/
lemma read_suffix (h : Numeral.read cs = .ok (n, rest)) : rest <:+ cs := by
  obtain ⟨-, cs₁, cs₂, hwhole, hfraction, hexponent⟩ := read_eq_ok_iff.mp h
  calc rest
    _ <:+ cs₂ := readExponent_suffix hexponent
    _ <:+ cs₁ := readFraction_suffix hfraction
    _ <:+ (readMinus cs).2 := readWhole_suffix hwhole
    _ <:+ cs := readMinus_suffix cs

end Numbers

/-! ### Tokens -/

section Scan

variable {c : Char} {cs rest : List Char} {mark word : Token} {n : Numeral}

lemma scan_mark (hspace : isSpace c = false) (h : Token.ofMark? c = some mark) :
    Token.scan (c :: cs) = mark :: Token.scan cs := by
  rw [Token.scan, hspace, h]
  rfl

lemma scan_word (hspace : isSpace c = false) (hmark : Token.ofMark? c = none) (hquote : c ≠ '"')
    (hnumber : ¬(c = '-' ∨ c.isDigit)) (h : readWord c cs = .ok (word, rest)) :
    Token.scan (c :: cs) = word :: Token.scan rest := by
  rw [Token.scan, hspace, hmark, if_neg Bool.false_ne_true]
  simp only [if_neg hquote, if_neg hnumber]
  split
  next herror => cases h.symm.trans herror
  next hword =>
    cases h.symm.trans hword
    rfl

lemma scan_writeChars (text rest : List Char) :
    Token.scan (writeChars text ++ rest) =
      .text (.ok (String.ofList text)) (.ok ()) :: Token.scan rest := by
  have hquote : writeChars text ++ rest = '"' :: (text.flatMap writeChar ++ '"' :: rest) := by
    simp [writeChars]
  obtain ⟨hread, hskip⟩ := chars_writeChar text rest
  have hmark : Token.ofMark? '"' = none := by decide
  rw [hquote, Token.scan, if_neg (by decide), hmark]
  simp only [if_true]
  split
  next hskip' => cases hskip.symm.trans hskip'
  next hskip' =>
    cases hskip.symm.trans hskip'
    rw [readText, hread]
    rfl

lemma scan_writeBoolean (b : Bool) (rest : List Char) :
    Token.scan (writeBoolean b ++ rest) = .boolean b :: Token.scan rest := by
  cases b with
  | true => exact scan_word (by decide) (by decide) (by decide) (by decide) rfl
  | false => exact scan_word (by decide) (by decide) (by decide) (by decide) rfl

/-- Does a number start with the character? -/
def StartsNumber (c : Char) : Prop := c = '-' ∨ c.isDigit = true

lemma StartsNumber.spec (h : StartsNumber c) :
    isSpace c = false ∧ Token.ofMark? c = none ∧ c ≠ '"' := by
  have hne : ∀ d : Char, d ≠ '-' → d.isDigit = false → c ≠ d := by
    rintro d hminus hdigit rfl
    rcases h with rfl | h
    · exact hminus rfl
    · cases hdigit.symm.trans h
  refine ⟨?_, ?_, hne _ (by decide) (by decide)⟩
  · simp [isSpace, hne]
  · simp [Token.ofMark?, hne]

lemma scan_number (hc : StartsNumber c) (h : Numeral.read (c :: cs) = .ok (n, rest)) :
    Token.scan (c :: cs) = .number n.value (.ok ()) :: Token.scan rest := by
  obtain ⟨hspace, hmark, hquote⟩ := hc.spec
  rw [Token.scan, hspace, hmark, if_neg Bool.false_ne_true]
  simp only [if_neg hquote, if_pos (show c = '-' ∨ c.isDigit = true from hc)]
  split
  next hread => cases h.symm.trans hread
  next hread =>
    cases h.symm.trans hread
    rfl

lemma ofMark?_ne_number {value : Except Problem Number} {form : Except Problem Unit} :
    Token.ofMark? c ≠ some (.number value form) := by
  unfold Token.ofMark?
  split_ifs <;> nofun

lemma readWord_ne_number {value : Except Problem Number} {form : Except Problem Unit} :
    readWord c cs ≠ .ok (.number value form, rest) := by
  unfold readWord
  split_ifs
  · cases readRest ['u', 'l', 'l'] cs <;> nofun
  · cases readRest ['r', 'u', 'e'] cs <;> nofun
  · cases readRest ['a', 'l', 's', 'e'] cs <;> nofun
  · nofun

/-- A number is read where the pass comes to one. -/
lemma read_of_scan {number : Number} {form : Except Problem Unit} {tokens : List Token}
    (hspace : isSpace c = false) (h : Token.scan (c :: cs) = .number (.ok number) form :: tokens) :
    StartsNumber c ∧ ∃ n rest, Numeral.read (c :: cs) = .ok (n, rest) ∧ n.value = .ok number ∧
      Token.scan rest = tokens := by
  rw [Token.scan, hspace, if_neg Bool.false_ne_true] at h
  split at h
  next mark hmark =>
    cases h
    exact absurd hmark ofMark?_ne_number
  next =>
    split_ifs at h with hquote hnumber
    · split at h <;> cases h
    · split at h
      next => cases h
      next n rest hread =>
        injection h with hvalue hrest
        injection hvalue with hvalue
        exact ⟨hnumber, n, rest, hread, hvalue, hrest⟩
    · split at h
      next => cases h
      next hword =>
        cases h
        exact absurd hword readWord_ne_number

lemma scan_ne_nil (hspace : isSpace c = false) : Token.scan (c :: cs) ≠ [] := by
  rw [Token.scan, hspace, if_neg Bool.false_ne_true]
  split
  · exact List.cons_ne_nil _ _
  · split_ifs
    all_goals split <;> exact List.cons_ne_nil _ _

end Scan

end Json

/-! ### Coordinates -/

open Json

section Text

variable {c : Char} {cs : List Char} {d : DecimalForm} {x : Coordinate}

/-- No space and no control character is in the text of a decimal form. -/
lemma DecimalForm.atLeast_text : AtLeast 0x21 d.text := by
  have hdigits (n : Nat) : AtLeast 0x21 (Nat.toDigits 10 n) := (atLeast_toDigits n).mono (by decide)
  have htake (k : Nat) := (hdigits d.digits).sublist (List.take_sublist k _)
  have hdrop (k : Nat) := (hdigits d.digits).sublist (List.drop_sublist k _)
  have hzeros (n : Nat) : AtLeast 0x21 (List.replicate n '0') := atLeast_replicate (by decide) n
  simp only [text]
  split_ifs <;> simp [hdigits, htake, hdrop, hzeros, -List.drop_one]

lemma Coordinate.atLeast_text : AtLeast 0x21 x.text := by
  rw [text, atLeast_append]
  exact ⟨by split_ifs <;> simp, DecimalForm.atLeast_text⟩

lemma AtLeast.isSpace_eq_false (h : AtLeast 0x21 cs) (hc : c ∈ cs) : isSpace c = false := by
  have hle := h c hc
  have hne : ∀ d : Char, d.toNat ≤ 0x20 → c ≠ d := by
    rintro d hd rfl
    omega
  simp [isSpace, hne]

end Text

namespace Coordinate

variable {x : Coordinate} {rest : List Char}

/-- Does the text of the coordinate stand for the same double in a payload? -/
def ReadsBack (x : Coordinate) : Prop :=
  readAll Json.readCoordinate x.text = .ok x

instance (x : Coordinate) : Decidable x.ReadsBack :=
  inferInstanceAs (Decidable (readAll Json.readCoordinate x.text = .ok x))

lemma ReadsBack.exists_read (h : x.ReadsBack) :
    ∃ c cs n number, x.text = c :: cs ∧ StartsNumber c ∧ Numeral.read (c :: cs) = .ok (n, []) ∧
      n.value = .ok number ∧ number.coordinate = x := by
  obtain ⟨number, form, hscan, rfl⟩ :
      ∃ number form, Token.scan x.text = [.number (.ok number) form] ∧ number.coordinate = x := by
    unfold ReadsBack readAll at h
    split at h
    · cases h
    next hread =>
      cases h
      unfold Json.readCoordinate at hread
      split at hread
      next number form tokens hscan =>
        cases hread
        exact ⟨number, form, hscan, rfl⟩
      next => cases hread
    · cases h
  have hcodes : AtLeast 0x21 number.coordinate.text := atLeast_text
  rcases htext : number.coordinate.text with _ | ⟨c, cs⟩
  · rw [htext, Token.scan] at hscan
    cases hscan
  · rw [htext] at hscan hcodes
    obtain ⟨hc, n, rest, hread, hvalue, hrest⟩ :=
      read_of_scan (hcodes.isSpace_eq_false List.mem_cons_self) hscan
    -- What the number leaves has no token, and it cannot be spaces, for there are none.
    cases rest with
    | nil => exact ⟨c, cs, n, number, rfl, hc, hread, hvalue, rfl⟩
    | cons d rest =>
      have hd : d ∈ c :: cs := (read_suffix hread).subset List.mem_cons_self
      exact absurd hrest (scan_ne_nil (hcodes.isSpace_eq_false hd))

/-- A coordinate that reads back does so in front of a mark. -/
lemma ReadsBack.read_append (h : x.ReadsBack) (hrest : EndsNumber rest) :
    Json.readCoordinate (Token.scan (x.text ++ rest)) = .ok (x, Token.scan rest) := by
  obtain ⟨c, cs, n, number, htext, hc, hread, hvalue, hx⟩ := h.exists_read
  have hscan : Token.scan (c :: cs ++ rest) = .number n.value (.ok ()) :: Token.scan rest :=
    scan_number hc (Json.read_append hrest hread)
  rw [htext, hscan, hvalue, ← hx]
  rfl

end Coordinate

end LightArbiter
