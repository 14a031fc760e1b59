import LightArbiter.Pattern.Atom
import LightArbiter.Pattern.Height

/-!
# Classes of a pattern

A class stands in square brackets: atoms, ranges of atoms, named classes, further classes, and
operators between them. Only its form matters here, so of the classes that are open no more is kept
than their heights.
-/

namespace LightArbiter.Pattern

/-- Can a character that is written as it is stand in a class? -/
def Mode.allowsItems (m : Mode) : Bool :=
  !(m.unicode && m.ignoresCase)

/-- The names of the classes that have one. -/
def classNames : List String :=
  ["alnum", "alpha", "ascii", "blank", "cntrl", "digit", "graph", "lower", "print", "punct",
    "space", "upper", "word", "xdigit"]

/-- The text behind a named class, whose name is to start here and to end with a colon. -/
def afterClassName? (cs : List Char) : Option (List Char) :=
  if classNames.any fun name => name.toList == cs.takeWhile (· ≠ ':') then
    match cs.dropWhile (· ≠ ':') with
    | ':' :: ']' :: rest => some rest
    | _ => none
  else none

/-- A named class behind its bracket: whether it is negated, and the text behind it. -/
def readNamedClass? : List Char → Option (Bool × List Char)
  | ':' :: '^' :: cs => (afterClassName? cs).map fun rest => (true, rest)
  | ':' :: cs => (afterClassName? cs).map fun rest => (false, rest)
  | _ => none

/-- The number of hyphens at the start of the text, with gaps around them, and the text behind. -/
def readHyphens (m : Mode) (cs : List Char) : Nat × List Char :=
  match hgap : m.skipGap cs with
  | '-' :: rest =>
    have := Mode.length_lt_of_skipGap hgap
    let (count, rest) := readHyphens m rest
    (count + 1, rest)
  | rest => (0, rest)
termination_by cs.length

/--
A class with the items that only its start can hold: hyphens that stand for themselves, or a closing
bracket that does.
-/
def readFirstItems? (m : Mode) (cs : List Char) : Option (OpenClass × List Char) :=
  match readHyphens m cs with
  | (0, ']' :: rest) => if m.allowsItems then some (({} : OpenClass).push 0, rest) else none
  | (0, rest) => some ({}, rest)
  | (count + 1, rest) =>
    if m.allowsItems then some ({ items := { count := count + 1 } }, rest) else none

/-- A class whose bracket has been read. Among bytes no class may be negated. -/
def enterClass? (m : Mode) (cs : List Char) : Option (OpenClass × List Char) :=
  match m.skipGap cs with
  | '^' :: rest => if m.unicode then readFirstItems? m rest else none
  | cs => readFirstItems? m cs

/--
Does a hyphen, with this text behind it, stand for itself? It does in front of the end of the class
and of another hyphen, where blanks and one number sign do not count if blanks are passed over.
-/
def hyphenIsItem (m : Mode) (cs : List Char) : Bool :=
  let cs := if m.spaced then
      match cs.dropWhile Text.isBlank with
      | '#' :: rest => rest.dropWhile Text.isBlank
      | rest => rest
    else cs
  cs.head? == some ']' || cs.head? == some '-'

/-- The text behind an atom or a range of atoms. -/
def afterItem? (m : Mode) (cs : List Char) : Option (List Char) := do
  let (first, rest) ← readAtom? m cs
  match m.skipGap rest with
  | '-' :: after =>
    if hyphenIsItem m after then
      if first.isAllowedInClass m then return '-' :: after else none
    else
      let (last, rest) ← readAtom? m (m.skipGap after)
      if first.isRange m last then return rest else none
  | rest => if first.isAllowedInClass m then return rest else none

/-- What comes of a step inside a class. -/
inductive ClassStep where
  /-- A class is open, and so are the classes around it, the innermost first. -/
  | inside (current : OpenClass) (outer : List OpenClass)
  /-- The outermost class has ended. -/
  | ended (height : Nat)
deriving DecidableEq, Repr

/-- The end of a class. -/
def endClass (height : Nat) : List OpenClass → ClassStep
  | [] => .ended height
  | around :: outer => .inside (around.push height) outer

/--
One step inside a class: to its end, or behind a named class, the start of a class, an operator or
an item.
-/
def stepInClass? (m : Mode) (current : OpenClass) (outer : List OpenClass) (cs : List Char) :
    Option (ClassStep × List Char) :=
  match m.skipGap cs with
  | [] => none
  | ']' :: rest => some (endClass (current.height + 1) outer, rest)
  | '[' :: rest =>
    match readNamedClass? rest with
    | some (negated, rest) =>
      if m.allowsItems && (m.unicode || !negated) then some (.inside (current.push 0) outer, rest)
      else none
    | none => (enterClass? m rest).map fun (new, rest) => (.inside new (current :: outer), rest)
  | '&' :: '&' :: rest => some (.inside current.operate outer, rest)
  | '-' :: '-' :: rest => some (.inside current.operate outer, rest)
  | '~' :: '~' :: rest => some (.inside current.operate outer, rest)
  | cs => (afterItem? m cs).map fun rest => (.inside (current.push 0) outer, rest)

/-! ### Progress -/

theorem afterClassName?_length {cs rest : List Char} (h : afterClassName? cs = some rest) :
    rest.length < cs.length := by
  have hdrop := (List.dropWhile_sublist (l := cs) (· ≠ ':')).length_le
  unfold afterClassName? at h
  split at h
  · split at h
    · rename_i heq
      simp only [Option.some.injEq] at h
      simp only [heq, List.length_cons] at hdrop
      rw [← h]
      omega
    · simp at h
  · simp at h

theorem readNamedClass?_length {negated : Bool} {cs rest : List Char}
    (h : readNamedClass? cs = some (negated, rest)) : rest.length < cs.length := by
  unfold readNamedClass? at h
  split at h
  case h_3 => simp at h
  all_goals
    obtain ⟨_, hname, hrest⟩ := Option.map_eq_some_iff.mp h
    simp only [Prod.mk.injEq] at hrest
    have := afterClassName?_length (hrest.2 ▸ hname)
    simp only [List.length_cons]
    omega

theorem readHyphens_length (m : Mode) (cs : List Char) :
    (readHyphens m cs).2.length ≤ cs.length := by
  fun_induction readHyphens m cs with
  | case1 _ _ _ hlt _ _ heq ih =>
    rw [heq] at ih
    exact Nat.le_of_lt (Nat.lt_of_le_of_lt ih hlt)
  | case2 cs => exact m.skipGap_length cs

theorem readFirstItems?_length {m : Mode} {new : OpenClass} {cs rest : List Char}
    (h : readFirstItems? m cs = some (new, rest)) : rest.length ≤ cs.length := by
  have hread := readHyphens_length m cs
  unfold readFirstItems? at h
  split at h
  · rename_i heq
    simp only [heq, List.length_cons] at hread
    split at h
    · simp only [Option.some.injEq, Prod.mk.injEq] at h
      rw [← h.2]
      omega
    · simp at h
  · simp_all
  · split at h <;> simp_all

theorem enterClass?_length {m : Mode} {new : OpenClass} {cs rest : List Char}
    (h : enterClass? m cs = some (new, rest)) : rest.length ≤ cs.length := by
  unfold enterClass? at h
  split at h
  · rename_i heq
    split at h
    · exact Nat.le_of_lt
        (Nat.lt_of_le_of_lt (readFirstItems?_length h) (Mode.length_lt_of_skipGap heq))
    · simp at h
  · exact Nat.le_trans (readFirstItems?_length h) (m.skipGap_length cs)

theorem afterItem?_length {m : Mode} {cs rest : List Char} (h : afterItem? m cs = some rest) :
    rest.length < cs.length := by
  obtain ⟨⟨first, rest'⟩, hfirst, h⟩ := Option.bind_eq_some_iff.mp h
  have hlt := readAtom?_length hfirst
  have hgap := m.skipGap_length rest'
  dsimp only at h
  split at h
  · rename_i after heq
    simp only [heq, List.length_cons] at hgap
    split at h
    · split at h
      · simp only [pure, Option.some.injEq] at h
        simp only [← h, List.length_cons]
        omega
      · simp at h
    · obtain ⟨⟨last, rest''⟩, hlast, h⟩ := Option.bind_eq_some_iff.mp h
      have := readAtom?_length hlast
      have := m.skipGap_length after
      dsimp only at h
      split at h
      · simp only [pure, Option.some.injEq] at h
        rw [← h]
        omega
      · simp at h
  · split at h
    · simp only [pure, Option.some.injEq] at h
      rw [← h]
      omega
    · simp at h

theorem stepInClass?_length {m : Mode} {current : OpenClass} {outer : List OpenClass}
    {step : ClassStep} {cs rest : List Char}
    (h : stepInClass? m current outer cs = some (step, rest)) : rest.length < cs.length := by
  have hgap := m.skipGap_length cs
  unfold stepInClass? at h
  split at h
  case h_1 => simp at h
  case h_3 heq =>
    simp only [heq, List.length_cons] at hgap
    split at h
    · rename_i hname
      have := readNamedClass?_length hname
      split at h
      · simp only [Option.some.injEq, Prod.mk.injEq] at h
        rw [← h.2]
        omega
      · simp at h
    · obtain ⟨_, henter, hrest⟩ := Option.map_eq_some_iff.mp h
      simp only [Prod.mk.injEq] at hrest
      have := enterClass?_length henter
      rw [← hrest.2]
      omega
  case h_7 =>
    obtain ⟨_, hitem, hrest⟩ := Option.map_eq_some_iff.mp h
    simp only [Prod.mk.injEq] at hrest
    exact Nat.lt_of_lt_of_le (afterItem?_length (hrest.2 ▸ hitem)) hgap
  all_goals
    rename_i heq
    simp only [heq, List.length_cons] at hgap
    simp only [Option.some.injEq, Prod.mk.injEq] at h
    rw [← h.2]
    omega

/-! ### Whole classes -/

/-- The height of the outermost of the open classes, and the text behind its end. -/
def closeClasses? (m : Mode) (current : OpenClass) (outer : List OpenClass) (cs : List Char) :
    Option (Nat × List Char) :=
  match h : stepInClass? m current outer cs with
  | none => none
  | some (.ended height, rest) => some (height, rest)
  | some (.inside current outer, rest) =>
    have := stepInClass?_length h
    closeClasses? m current outer rest
termination_by cs.length

/-- The height of a class whose bracket has been read, and the text behind the class. -/
def readClass? (m : Mode) (cs : List Char) : Option (Nat × List Char) := do
  let (new, rest) ← enterClass? m cs
  closeClasses? m new [] rest

theorem closeClasses?_length {m : Mode} {current : OpenClass} {outer : List OpenClass}
    {height : Nat} {cs rest : List Char}
    (h : closeClasses? m current outer cs = some (height, rest)) : rest.length < cs.length := by
  fun_induction closeClasses? m current outer cs with
  | case1 => simp at h
  | case2 _ _ _ _ _ hstep =>
    simp only [Option.some.injEq, Prod.mk.injEq] at h
    exact h.2 ▸ stepInClass?_length hstep
  | case3 _ _ _ _ _ _ _ hlt ih =>
    have := ih h
    omega

theorem readClass?_length {m : Mode} {height : Nat} {cs rest : List Char}
    (h : readClass? m cs = some (height, rest)) : rest.length < cs.length := by
  obtain ⟨_, henter, hclose⟩ := Option.bind_eq_some_iff.mp h
  exact Nat.lt_of_lt_of_le (closeClasses?_length hclose) (enterClass?_length henter)

end LightArbiter.Pattern
