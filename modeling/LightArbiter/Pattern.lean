import LightArbiter.Pattern.Class
import LightArbiter.Pattern.Opening

/-!
# Patterns

A pattern is a regular expression. Only its form is looked at, from left to right: what is kept is
the mode, the heights of the groups that are open, the names that are taken, and whether what stands
before can be repeated. No braces count repetitions or enclose codes: a pattern stands in braces
itself, and the first closing brace ends it.
-/

namespace LightArbiter.Pattern

/-- A place between two parts of a pattern. -/
structure Place where
  mode : Mode := {}
  branches : Branches := {}
  /-- The groups that are open: the mode and the branches around each, the innermost first. -/
  outer : List (Mode × Branches) := []
  /-- The names of the groups so far. -/
  names : List (List Char) := []
  /-- Is there something in front that can be repeated? -/
  repeatable : Bool := false
deriving DecidableEq, Repr

namespace Place

/-- The place behind an item of a height. -/
def item (p : Place) (height : Nat) : Place :=
  { p with branches := p.branches.push height, repeatable := true }

/-- The place inside a group that is read in a mode. -/
def enter (p : Place) (mode : Mode) : Place :=
  { p with mode := mode, branches := {}, outer := (p.mode, p.branches) :: p.outer,
           repeatable := false }

/-- The place behind an opening bracket, unless a name is given twice. -/
def open? (p : Place) : Opening → Option Place
  | .group mode => some (p.enter mode)
  | .named name =>
    if p.names.contains name then none else some { p.enter p.mode with names := name :: p.names }
  | .change mode => some { p.item 0 with mode := mode, repeatable := false }

/-- The place behind a closing bracket, if a group is open. -/
def close? (p : Place) : Option Place :=
  match p.outer with
  | [] => none
  | (mode, branches) :: outer =>
    some ({ p with mode := mode, branches := branches, outer := outer }.item
      (p.branches.height + 1))

/-- The place behind a mark of repetition, if there is something to repeat. -/
def repeat? (p : Place) : Option Place :=
  if p.repeatable then some { p with branches := p.branches.raise } else none

/-- The text behind the question mark that makes a repetition as short as possible. -/
def skipLazyMark : List Char → List Char
  | '?' :: cs => cs
  | cs => cs

/-- The place behind a part that starts with this character, and the text behind the part. -/
def step? (p : Place) (c : Char) (cs : List Char) : Option (Place × List Char) :=
  if c = '(' then do
    let (opening, rest) ← readOpening? p.mode cs
    return (← p.open? opening, rest)
  else if c = ')' then p.close?.map fun q => (q, cs)
  else if c = '|' then some ({ p with branches := p.branches.next, repeatable := false }, cs)
  else if c = '[' then (readClass? p.mode cs).map fun (height, rest) => (p.item height, rest)
  else if c = '?' ∨ c = '*' ∨ c = '+' then p.repeat?.map fun q => (q, skipLazyMark cs)
  else if c = '{' then none
  else if c = '.' then if p.mode.unicode then some (p.item 0, cs) else none
  else if c = '^' ∨ c = '$' then some (p.item 0, cs)
  else do
    let (atom, rest) ← readAtom? p.mode (c :: cs)
    if atom.isAllowed p.mode then return (p.item 0, rest) else none

theorem skipLazyMark_length (cs : List Char) : (skipLazyMark cs).length ≤ cs.length := by
  unfold skipLazyMark
  split
  · exact Nat.le_succ _
  · exact Nat.le_refl _

theorem step?_length {p q : Place} {c : Char} {cs rest : List Char}
    (h : p.step? c cs = some (q, rest)) : rest.length ≤ cs.length := by
  unfold step? at h
  split at h
  · obtain ⟨⟨opening, rest'⟩, hopening, h⟩ := Option.bind_eq_some_iff.mp h
    obtain ⟨_, -, h⟩ := Option.bind_eq_some_iff.mp h
    simp only [pure, Option.some.injEq, Prod.mk.injEq] at h
    exact h.2 ▸ readOpening?_length hopening
  split at h
  · obtain ⟨_, -, h⟩ := Option.map_eq_some_iff.mp h
    simp_all
  split at h
  · simp_all
  split at h
  · obtain ⟨_, hclass, h⟩ := Option.map_eq_some_iff.mp h
    simp only [Prod.mk.injEq] at h
    exact h.2 ▸ Nat.le_of_lt (readClass?_length hclass)
  split at h
  · obtain ⟨_, -, h⟩ := Option.map_eq_some_iff.mp h
    simp only [Prod.mk.injEq] at h
    exact h.2 ▸ skipLazyMark_length cs
  split at h
  · simp at h
  split at h
  · simp_all
  split at h
  · simp_all
  · obtain ⟨⟨atom, rest'⟩, hatom, h⟩ := Option.bind_eq_some_iff.mp h
    have := readAtom?_length hatom
    dsimp only at h
    split at h
    · simp only [pure, Option.some.injEq, Prod.mk.injEq] at h
      rw [← h.2]
      exact Nat.le_of_lt_succ this
    · simp at h

/-- The place at the end of the text, if every part of it has its form. -/
def scan? (p : Place) (cs : List Char) : Option Place :=
  match hgap : p.mode.skipGap cs with
  | [] => some p
  | c :: rest =>
    match hstep : p.step? c rest with
    | none => none
    | some (q, rest') =>
      have := Nat.lt_of_le_of_lt (step?_length hstep) (Mode.length_lt_of_skipGap hgap)
      q.scan? rest'
termination_by cs.length

end Place

/-- Is the text a pattern: has every part its form, does every group end, is it low enough? -/
def isPattern (cs : List Char) : Bool :=
  match ({} : Place).scan? cs with
  | some p => p.outer.isEmpty && p.branches.height ≤ heightLimit
  | none => false

end LightArbiter.Pattern
