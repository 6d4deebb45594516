import Salvo.Bounds

/-!
# Numbers that averages are taken in

Every average is defined once, over a `Scalar`. Programs run at `Float`; at `Rat` the same
definitions are exact.
-/

namespace Salvo

/-- Numbers with the operations that averages need. -/
class Scalar (α : Type) extends Add α, Sub α, Mul α, Div α where
  ofInt : Int → α
  /-- The reported spread of a sample with this variance. -/
  spread : α → α
  /-- Whether a quantity is zero or less. -/
  isNonpos : α → Bool
  /-- The number of whole units in a quantity, as a count. -/
  wholes : α → Nat

namespace Scalar

variable {α : Type} [Scalar α]

def ofCount (n : Nat) : α := ofInt (n : Int)

def sum (xs : List α) : α := xs.foldl (· + ·) (ofCount 0)

end Scalar

/-- Doubles: the spread is the square root of the variance, and what is not a number has no whole
units. -/
instance : Scalar Float where
  ofInt n := Float.ofInt n
  spread := Float.sqrt
  isNonpos x := x <= 0.0
  wholes x := x.floor.toUInt32.toNat

/-- Exact numbers: the spread is the variance itself. -/
instance : Scalar Rat where
  ofInt n := (n : Rat)
  spread := id
  isNonpos x := x ≤ 0
  wholes x := toCount x.floor

end Salvo
