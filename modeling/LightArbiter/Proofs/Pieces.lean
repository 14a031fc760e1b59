import Mathlib.Tactic

/-!
# Pieces of a list

A list can be cut after every occurrence of a mark, as a stream of bytes is cut into lines. What is
behind the last mark is a piece of its own, unless nothing is there. The pieces are the list again
when they are put together, and a mark stands nowhere but at the end of a piece.
-/

namespace LightArbiter

variable {α : Type} [DecidableEq α] {mark a : α} {front l piece : List α}

/-- The pieces of a list, each of them up to a mark and with it, the last one perhaps without. -/
def cutAfter (mark : α) : List α → List (List α)
  | [] => []
  | a :: l =>
    if a = mark then [a] :: cutAfter mark l
    else
      match cutAfter mark l with
      | [] => [[a]]
      | piece :: pieces => (a :: piece) :: pieces

/-- The list without its last element, if that is a certain one. -/
def dropEnd (a : α) (l : List α) : List α :=
  if l.getLast? = some a then l.dropLast else l

@[simp] lemma cutAfter_nil : cutAfter mark [] = [] := rfl

@[simp] lemma cutAfter_cons_mark : cutAfter mark (mark :: l) = [mark] :: cutAfter mark l :=
  if_pos rfl

lemma cutAfter_cons_of_ne (h : a ≠ mark) :
    cutAfter mark (a :: l) =
      match cutAfter mark l with
      | [] => [[a]]
      | piece :: pieces => (a :: piece) :: pieces :=
  if_neg h

/-- Nothing is lost or moved by cutting. -/
lemma flatten_cutAfter (mark : α) (l : List α) : (cutAfter mark l).flatten = l := by
  induction l with
  | nil => rfl
  | cons a l ih =>
    by_cases h : a = mark
    · rw [h, cutAfter_cons_mark, List.flatten_cons, ih, List.singleton_append]
    · rw [cutAfter_cons_of_ne h]
      cases hl : cutAfter mark l <;> simp_all

lemma cutAfter_append_mark (h : mark ∉ front) :
    cutAfter mark (front ++ mark :: l) = (front ++ [mark]) :: cutAfter mark l := by
  induction front with
  | nil => exact cutAfter_cons_mark
  | cons a front ih =>
    rw [List.mem_cons, not_or] at h
    rw [List.cons_append, cutAfter_cons_of_ne (Ne.symm h.1), ih h.2]
    rfl

lemma cutAfter_of_notMem (h : mark ∉ l) (hne : l ≠ []) : cutAfter mark l = [l] := by
  induction l with
  | nil => exact absurd rfl hne
  | cons a l ih =>
    rw [List.mem_cons, not_or] at h
    rw [cutAfter_cons_of_ne (Ne.symm h.1)]
    by_cases hl : l = []
    · rw [hl, cutAfter_nil]
    · rw [ih h.2 hl]

lemma notMem_dropLast_of_mem_cutAfter (h : piece ∈ cutAfter mark l) : mark ∉ piece.dropLast := by
  induction l generalizing piece with
  | nil => cases h
  | cons a l ih =>
    by_cases ha : a = mark
    · rw [ha, cutAfter_cons_mark, List.mem_cons] at h
      rcases h with rfl | h
      · simp
      · exact ih h
    · rw [cutAfter_cons_of_ne ha] at h
      cases hl : cutAfter mark l with
      | nil => simp_all
      | cons first pieces =>
        simp only [hl, List.mem_cons] at h
        rcases h with rfl | h
        · have hfirst := ih (hl ▸ List.mem_cons_self)
          cases first with
          | nil => simp
          | cons b first =>
            rw [List.dropLast_cons_of_ne_nil (List.cons_ne_nil b first), List.mem_cons, not_or]
            exact ⟨Ne.symm ha, hfirst⟩
        · exact ih (hl ▸ List.mem_cons_of_mem _ h)

/-- Lists with a mark behind each are cut into these lists, exactly if there is no mark inside. -/
lemma cutAfter_flatMap_iff {ls : List (List α)} :
    cutAfter mark (ls.flatMap (· ++ [mark])) = ls.map (· ++ [mark]) ↔ ∀ l ∈ ls, mark ∉ l := by
  constructor
  · intro h l hl
    have hpiece : l ++ [mark] ∈ cutAfter mark (ls.flatMap (· ++ [mark])) :=
      h ▸ List.mem_map_of_mem hl
    simpa using notMem_dropLast_of_mem_cutAfter hpiece
  · intro h
    induction ls with
    | nil => rfl
    | cons l ls ih =>
      rw [List.forall_mem_cons] at h
      rw [List.flatMap_cons, List.append_assoc, List.singleton_append, cutAfter_append_mark h.1,
        ih h.2, List.map_cons]

end LightArbiter
