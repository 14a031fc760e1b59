/-!
# Heights

The height of a pattern says how deep its parts nest. Groups, repetitions, classes and whatever
joins several parts are one level each, and a pattern may have only so many of them.
-/

namespace LightArbiter.Pattern

/-- The height that no pattern exceeds. -/
def heightLimit : Nat := 250

/-- A row of parts: how many they are, and how high. -/
structure Row where
  count : Nat := 0
  /-- The height of the highest part in front of the last one. -/
  before : Nat := 0
  /-- The height of the last part. -/
  last : Nat := 0
deriving DecidableEq, Repr

namespace Row

/-- The row with one more part at its end. -/
def push (r : Row) (height : Nat) : Row :=
  ⟨r.count + 1, max r.before r.last, height⟩

/-- The row whose last part is one level higher. -/
def raise (r : Row) : Row := { r with last := r.last + 1 }

/-- The height of the row: a single part is no row yet. -/
def height (r : Row) : Nat :=
  if r.count < 2 then r.last else max r.before r.last + 1

@[simp] theorem height_empty : ({} : Row).height = 0 := rfl

@[simp] theorem height_push_empty (height : Nat) : (({} : Row).push height).height = height := rfl

end Row

/-- The branches of a group: those that have ended, and the items of the one that has not. -/
structure Branches where
  ended : Row := {}
  items : Row := {}
deriving DecidableEq, Repr

namespace Branches

/-- The branches with one more item. -/
def push (b : Branches) (height : Nat) : Branches := { b with items := b.items.push height }

/-- The branches whose last item is repeated. -/
def raise (b : Branches) : Branches := { b with items := b.items.raise }

/-- The branches with a new one. -/
def next (b : Branches) : Branches := { ended := b.ended.push b.items.height }

/-- The height of all branches together. -/
def height (b : Branches) : Nat := b.next.ended.height

end Branches

/-- A class that has not ended: its items, and what stands in front of its last operator. -/
structure OpenClass where
  items : Row := {}
  left : Option Nat := none
deriving DecidableEq, Repr

namespace OpenClass

/-- The class with one more item. -/
def push (k : OpenClass) (height : Nat) : OpenClass := { k with items := k.items.push height }

/-- The height of what the class holds. Operators group to the left. -/
def height (k : OpenClass) : Nat :=
  match k.left with
  | none => k.items.height
  | some left => max left k.items.height + 1

/-- The class behind one more operator. -/
def operate (k : OpenClass) : OpenClass := { left := some k.height }

end OpenClass

end LightArbiter.Pattern
