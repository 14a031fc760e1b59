import LightArbiter.Pattern.Mode
import LightArbiter.Text.Alphabetic

/-!
# Openings of groups

An opening bracket starts a group, which may have a name or flags of its own, or it holds flags for
the rest of the group around it.
-/

namespace LightArbiter.Pattern

/-- What an opening bracket does. -/
inductive Opening where
  /-- It starts a group that is read in a mode. -/
  | group (mode : Mode)
  /-- It starts a group with a name. -/
  | named (name : List Char)
  /-- It changes the mode. -/
  | change (mode : Mode)
deriving DecidableEq, Repr

/-- Is the text the name of a group? -/
def isGroupName : List Char → Bool
  | [] => false
  | c :: cs =>
    (c == '_' || Text.isAlphabetic c) &&
      cs.all fun c => c == '_' || c == '.' || c == '[' || c == ']' || Text.isAlphanumeric c

/-- The name of a group up to its closing mark. -/
def readGroupName? (cs : List Char) : Option (Opening × List Char) :=
  let name := cs.takeWhile (· ≠ '>')
  match cs.dropWhile (· ≠ '>') with
  | [] => none
  | _ :: rest => if isGroupName name then some (.named name, rest) else none

/-- The flags of a group up to a colon, or flags for the rest of a group up to a bracket. -/
def readFlags? (m : Mode) (cs : List Char) : Option (Opening × List Char) :=
  let flags := cs.takeWhile fun c => c ≠ ':' ∧ c ≠ ')'
  if areFlags flags then
    match cs.dropWhile fun c => c ≠ ':' ∧ c ≠ ')' with
    | ':' :: rest => some (.group (m.setFlags flags), rest)
    | _ :: rest => if flags = [] then none else some (.change (m.setFlags flags), rest)
    | [] => none
  else none

/-- What an opening bracket does that stands in front of the text. There is no looking around. -/
def readOpening? (m : Mode) (cs : List Char) : Option (Opening × List Char) :=
  match m.skipGap cs with
  | '?' :: 'P' :: '<' :: rest => readGroupName? rest
  | '?' :: '<' :: rest => readGroupName? rest
  | '?' :: rest => readFlags? m rest
  | rest => some (.group m, rest)

/-! ### Progress -/

theorem readGroupName?_length {opening : Opening} {cs rest : List Char}
    (h : readGroupName? cs = some (opening, rest)) : rest.length < cs.length := by
  have hdrop := (List.dropWhile_sublist (l := cs) (· ≠ '>')).length_le
  unfold readGroupName? at h
  dsimp only at h
  split at h
  · simp at h
  · rename_i heq
    simp only [heq, List.length_cons] at hdrop
    split at h
    · simp only [Option.some.injEq, Prod.mk.injEq] at h
      rw [← h.2]
      omega
    · simp at h

theorem readFlags?_length {m : Mode} {opening : Opening} {cs rest : List Char}
    (h : readFlags? m cs = some (opening, rest)) : rest.length < cs.length := by
  have hdrop := (List.dropWhile_sublist (l := cs) fun c => c ≠ ':' ∧ c ≠ ')').length_le
  unfold readFlags? at h
  dsimp only at h
  split at h
  · split at h
    · rename_i heq
      simp only [heq, List.length_cons] at hdrop
      simp only [Option.some.injEq, Prod.mk.injEq] at h
      rw [← h.2]
      omega
    · rename_i heq
      simp only [heq, List.length_cons] at hdrop
      split at h
      · simp at h
      · simp only [Option.some.injEq, Prod.mk.injEq] at h
        rw [← h.2]
        omega
    · simp at h
  · simp at h

theorem readOpening?_length {m : Mode} {opening : Opening} {cs rest : List Char}
    (h : readOpening? m cs = some (opening, rest)) : rest.length ≤ cs.length := by
  have hgap := m.skipGap_length cs
  unfold readOpening? at h
  split at h
  · rename_i heq
    simp only [heq, List.length_cons] at hgap
    have := readGroupName?_length h
    omega
  · rename_i heq
    simp only [heq, List.length_cons] at hgap
    have := readGroupName?_length h
    omega
  · rename_i heq
    simp only [heq, List.length_cons] at hgap
    have := readFlags?_length h
    omega
  · simp only [Option.some.injEq, Prod.mk.injEq] at h
    exact h.2 ▸ hgap

end LightArbiter.Pattern
