/-!
# Tiers of users

The first tier has the highest priority. The first two tiers get the light by being present; the
third gets it by asking for it.
-/

namespace LightArbiter

/-- The priority tier of a user, the highest first. -/
inductive Tier where
  | user1
  | user2
  | user3
deriving DecidableEq, Repr, Inhabited

namespace Tier

/-- The place of the tier in the order of priority. -/
def rank : Tier → Nat
  | user1 => 1
  | user2 => 2
  | user3 => 3

/-- A tier is less than another if it comes before it in priority. -/
instance : LE Tier := ⟨fun a b => a.rank ≤ b.rank⟩

instance : LT Tier := ⟨fun a b => a.rank < b.rank⟩

instance (a b : Tier) : Decidable (a ≤ b) := inferInstanceAs (Decidable (a.rank ≤ b.rank))

instance (a b : Tier) : Decidable (a < b) := inferInstanceAs (Decidable (a.rank < b.rank))

/-- The name of the tier in payloads and directives. -/
def name : Tier → String
  | user1 => "USER1"
  | user2 => "USER2"
  | user3 => "USER3"

/-- All tiers, the highest first. -/
def all : List Tier := [user1, user2, user3]

/-- The tier of a name. -/
def ofName? (name : String) : Option Tier :=
  all.find? fun tier => tier.name == name

@[simp] theorem ofName?_name (tier : Tier) : ofName? tier.name = some tier := by
  cases tier <;> rfl

end Tier

end LightArbiter
