import LightArbiter.Text.Blank
import Mathlib.Tactic

/-!
# Blanks and words

How a text is put together says what trimming leaves of it and which words it has: there are blanks,
words without a blank in them, and blanks between any two words.
-/

namespace LightArbiter.Text

variable {cs before after text rest word other : List Char} {later : List (List Char)}

/-- Are all characters blank? -/
def Blank (cs : List Char) : Prop := ∀ c ∈ cs, isBlank c = true

/-- Is the text not empty, and without a blank in it? -/
structure IsWord (cs : List Char) : Prop where
  ne_nil : cs ≠ []
  solid : ∀ c ∈ cs, isBlank c = false

/-- Is there no blank at either end? -/
structure Trimmed (cs : List Char) : Prop where
  first : ∀ c ∈ cs.head?, isBlank c = false
  last : ∀ c ∈ cs.getLast?, isBlank c = false

instance (cs : List Char) : Decidable (Blank cs) :=
  List.decidableBAll (fun c => isBlank c = true) cs

lemma isBlank_of_isDigit {c : Char} (h : c.isDigit = true) : isBlank c = false := by
  obtain ⟨hlow, hhigh⟩ := Char.isDigit_iff_toNat.mp h
  change 48 ≤ c.toNat at hlow
  change c.toNat ≤ 57 at hhigh
  simp only [isBlank, Bool.or_eq_false_iff, Bool.and_eq_false_iff, decide_eq_false_iff_not,
    beq_eq_false_iff_ne]
  omega

/-! ### The characters up to one of another kind -/

section Front

variable {p : Char → Bool}

/-- The characters of a kind at the start are those up to the first of another kind. -/
lemma takeWhile_append_eq (rest : List Char) (hbefore : ∀ c ∈ before, p c = true)
    (hrest : ∀ c ∈ rest.head?, p c = false) :
    (before ++ rest).takeWhile p = before ∧ (before ++ rest).dropWhile p = rest := by
  rw [List.takeWhile_append_of_pos hbefore, List.dropWhile_append_of_pos hbefore]
  cases rest with
  | nil => simp
  | cons c rest => simp [hrest c rfl]

/-- Every text has a front of a kind, which ends where the kind does. -/
lemma exists_front (p : Char → Bool) (cs : List Char) :
    ∃ before rest, cs = before ++ rest ∧ (∀ c ∈ before, p c = true) ∧
      ∀ c ∈ rest.head?, p c = false := by
  refine ⟨cs.takeWhile p, cs.dropWhile p, List.takeWhile_append_dropWhile.symm, ?_, ?_⟩
  · exact List.all_eq_true.mp List.all_takeWhile
  · intro c hc
    have hstop := List.head?_dropWhile_not p cs
    rwa [Option.mem_def.mp hc] at hstop

end Front

/-! ### Trimming -/

lemma Blank.reverse (h : Blank cs) : Blank cs.reverse := by
  intro c hc
  exact h c (List.mem_reverse.mp hc)

lemma trimStart_append (hbefore : Blank before) (hcs : ∀ c ∈ cs.head?, isBlank c = false) :
    trimStart (before ++ cs) = cs :=
  (takeWhile_append_eq cs hbefore hcs).2

lemma trimStart_of_blank (h : Blank cs) : trimStart cs = [] := by
  have htrim : trimStart (cs ++ []) = [] := trimStart_append h (by simp)
  rwa [List.append_nil] at htrim

lemma trimEnd_append (hafter : Blank after) (hcs : ∀ c ∈ cs.getLast?, isBlank c = false) :
    trimEnd (cs ++ after) = cs := by
  rw [trimEnd, List.reverse_append, ← List.reverse_inj, List.reverse_reverse]
  rw [← List.head?_reverse] at hcs
  exact (takeWhile_append_eq _ hafter.reverse hcs).2

/-- Trimming leaves what stands between blanks, if it has none at its ends. -/
lemma Trimmed.trim_append (h : Trimmed text) (hbefore : Blank before) (hafter : Blank after) :
    trim (before ++ text ++ after) = text := by
  rw [trim, List.append_assoc]
  cases text with
  | nil =>
    have hblank : Blank (before ++ ([] ++ after)) := by
      simpa [Blank, or_imp, forall_and] using ⟨hbefore, hafter⟩
    rw [trimStart_of_blank hblank, trimEnd_nil]
  | cons c text =>
    have hstart : trimStart (before ++ (c :: text ++ after)) = c :: text ++ after :=
      trimStart_append hbefore h.first
    rw [hstart]
    exact trimEnd_append hafter h.last

/-- Every text is what trimming leaves of it, between blanks. -/
lemma exists_trimmed (cs : List Char) :
    ∃ before text after, cs = before ++ text ++ after ∧ Blank before ∧ Blank after ∧
      Trimmed text := by
  obtain ⟨before, rest, rfl, hbefore, hfirst⟩ := exists_front isBlank cs
  obtain ⟨after, text, hrest, hafter, hlast⟩ := exists_front isBlank rest.reverse
  obtain rfl : rest = text.reverse ++ after.reverse := by
    rw [← List.reverse_append, ← hrest, List.reverse_reverse]
  refine ⟨before, text.reverse, after.reverse, by simp, hbefore, Blank.reverse hafter, ?_, ?_⟩
  · intro c hc
    apply hfirst c
    rw [List.head?_append_of_ne_nil _ (by rintro hnil; simp [hnil] at hc)]
    exact hc
  · rwa [List.getLast?_reverse]

lemma exists_trim (cs : List Char) :
    Trimmed (trim cs) ∧ ∃ before after, Blank before ∧ Blank after ∧
      cs = before ++ trim cs ++ after := by
  obtain ⟨before, text, after, rfl, hbefore, hafter, htext⟩ := exists_trimmed cs
  rw [htext.trim_append hbefore hafter]
  exact ⟨htext, before, after, hbefore, hafter, rfl⟩

/-! ### Words -/

lemma words_append_of_blank (h : Blank before) : words (before ++ cs) = words cs := by
  induction before with
  | nil => rfl
  | cons c before ih =>
    obtain ⟨hc, hbefore⟩ := List.forall_mem_cons.mp h
    rw [← ih hbefore]
    have hsplit : ([] ++ c :: (before ++ cs)).splitOnP isBlank = _ :=
      List.splitOnP_append_cons_of_forall_mem (by simp) c hc (before ++ cs)
    rw [List.nil_append] at hsplit
    rw [words, words, List.cons_append, hsplit]
    rfl

lemma words_of_blank (h : Blank cs) : words cs = [] := by
  have hwords : words (cs ++ []) = words [] := words_append_of_blank h
  rwa [List.append_nil, words_nil] at hwords

/-- A word ends where a blank comes, or where the text ends. -/
lemma IsWord.words_append (h : IsWord word) (hrest : ∀ c ∈ rest.head?, isBlank c = true) :
    words (word ++ rest) = word :: words rest := by
  have hkeep : ∀ pieces : List (List Char), (word :: pieces).filter (fun piece => !piece.isEmpty) =
      word :: pieces.filter fun piece => !piece.isEmpty := by
    intro pieces
    exact List.filter_cons_of_pos (by simpa using h.ne_nil)
  cases rest with
  | nil =>
    rw [List.append_nil, words_nil, words, List.splitOnP_eq_singleton h.solid, hkeep]
    rfl
  | cons c rest =>
    have hc : isBlank c = true := hrest c rfl
    have hblank : Blank [c] := by simpa [Blank] using hc
    rw [← List.singleton_append, words_append_of_blank hblank, List.singleton_append, words, words,
      List.splitOnP_append_cons_of_forall_mem h.solid c hc, hkeep]

/-- The first word of a text, if it has one, has blanks before it and a blank or nothing behind. -/
lemma blank_or_exists_word (cs : List Char) :
    Blank cs ∨ ∃ before word rest, cs = before ++ (word ++ rest) ∧ Blank before ∧ IsWord word ∧
      ∀ c ∈ rest.head?, isBlank c = true := by
  obtain ⟨before, tail, rfl, hbefore, htail⟩ := exists_front isBlank cs
  obtain ⟨word, rest, rfl, hword, hrest⟩ := exists_front (fun c => !isBlank c) tail
  cases word with
  | nil =>
    -- What comes after the blanks is no blank, and it would be in the word.
    cases rest with
    | nil => exact .inl (by simpa [Blank] using hbefore)
    | cons c rest =>
      have hblank : isBlank c = true := by simpa using hrest c rfl
      exact absurd (htail c rfl) (by simp [hblank])
  | cons c word =>
    refine .inr ⟨before, c :: word, rest, rfl, hbefore, ⟨by simp, ?_⟩, ?_⟩
    · simpa using hword
    · simpa using hrest

lemma words_eq_nil_iff : words cs = [] ↔ Blank cs := by
  refine ⟨fun h => ?_, words_of_blank⟩
  rcases blank_or_exists_word cs with hblank | ⟨before, word, rest, rfl, hbefore, hword, hrest⟩
  · exact hblank
  · rw [words_append_of_blank hbefore, hword.words_append hrest] at h
    cases h

lemma words_eq_cons_iff :
    words cs = word :: later ↔ ∃ before rest, cs = before ++ (word ++ rest) ∧ Blank before ∧
      IsWord word ∧ (∀ c ∈ rest.head?, isBlank c = true) ∧ words rest = later := by
  constructor
  · intro h
    rcases blank_or_exists_word cs with hblank | ⟨before, front, rest, rfl, hbefore, hword, hrest⟩
    · rw [words_of_blank hblank] at h
      cases h
    · rw [words_append_of_blank hbefore, hword.words_append hrest] at h
      cases h
      exact ⟨before, rest, rfl, hbefore, hword, hrest, rfl⟩
  · rintro ⟨before, rest, rfl, hbefore, hword, hrest, rfl⟩
    rw [words_append_of_blank hbefore, hword.words_append hrest]

/-- A text has two words exactly if it is these with blanks between them, and perhaps around. -/
lemma words_eq_pair_iff :
    words cs = [word, other] ↔ ∃ before gap after, cs = before ++ word ++ gap ++ other ++ after ∧
      Blank before ∧ Blank gap ∧ gap ≠ [] ∧ Blank after ∧ IsWord word ∧ IsWord other := by
  rw [words_eq_cons_iff]
  constructor
  · rintro ⟨before, rest, rfl, hbefore, hword, hrest, hother⟩
    obtain ⟨gap, after, rfl, hgap, hsecond, -, hafter⟩ := words_eq_cons_iff.mp hother
    refine ⟨before, gap, after, by simp, hbefore, hgap, ?_, words_eq_nil_iff.mp hafter, hword,
      hsecond⟩
    rintro rfl
    obtain ⟨c, tail, rfl⟩ := List.exists_cons_of_ne_nil hsecond.ne_nil
    have hsolid : isBlank c = false := hsecond.solid c List.mem_cons_self
    exact absurd (hrest c rfl) (by simp [hsolid])
  · rintro ⟨before, gap, after, rfl, hbefore, hgap, hne, hafter, hword, hother⟩
    refine ⟨before, gap ++ (other ++ after), by simp, hbefore, hword, ?_, ?_⟩
    · obtain ⟨c, tail, rfl⟩ := List.exists_cons_of_ne_nil hne
      rintro _ ⟨⟩
      exact hgap c List.mem_cons_self
    · refine words_eq_cons_iff.mpr ⟨gap, after, rfl, hgap, hother, ?_, words_of_blank hafter⟩
      intro c hc
      exact hafter c (List.mem_of_mem_head? hc)

end LightArbiter.Text
