import Salvo.Dice.Source
import Salvo.Scalar
import Salvo.Text.Number

/-!
# Dice expressions

A dice expression is a number of dice of one kind and a modifier, as in `2D6+3`. An expression
without dice is a constant. A roll adds up the faces and the modifier and is never below zero.
-/

namespace Salvo

/-- `count` dice with `sides` sides each, plus `modifier`. -/
structure DiceExpr where
  count : Nat
  sides : Nat
  modifier : Int
deriving DecidableEq, Repr

namespace DiceExpr

def constant (value : Int) : DiceExpr := ⟨0, 0, value⟩

def isConstant (e : DiceExpr) : Bool := e.count == 0

/-- An expression that can be written: a constant, or at least one die with at least one side, with
all its numbers in bounds. -/
def Writable (e : DiceExpr) : Prop :=
  (e.count = 0 ∧ e.sides = 0 ∨
    1 ≤ e.count ∧ e.count ≤ maxCount ∧ 1 ≤ e.sides ∧ e.sides ≤ maxCount) ∧
  minStat ≤ e.modifier ∧ e.modifier ≤ maxStat

instance (e : DiceExpr) : Decidable e.Writable := by unfold Writable; infer_instance

/-- A modifier behind the dice: nothing for zero, else its sign and digits. -/
def modifierText (n : Int) : List Char :=
  if n = 0 then [] else if 0 < n then '+' :: Text.intText n else Text.intText n

/-- The text of an expression; the number of a single die is left out. -/
def chars (e : DiceExpr) : List Char :=
  if e.isConstant then Text.intText e.modifier
  else
    (if e.count = 1 then [] else Text.natText e.count) ++
      'D' :: (Text.natText e.sides ++ modifierText e.modifier)

def text (e : DiceExpr) : String := String.ofList e.chars

def expected (α : Type) [Scalar α] (e : DiceExpr) : α :=
  Scalar.ofCount e.count * (Scalar.ofCount e.sides + Scalar.ofCount 1) / Scalar.ofCount 2 +
    Scalar.ofInt e.modifier

section Roll

variable {σ : Type} [DiceSource σ]

def addFaces (sides : Nat) : Nat → Int → StateM σ Int
  | 0, total => pure total
  | count + 1, total => do
    let face ← DiceSource.roll sides
    addFaces sides count (total + face)

def total (e : DiceExpr) : StateM σ Int := addFaces e.sides e.count e.modifier

def roll (e : DiceExpr) : StateM σ Nat := do
  let n ← e.total
  return toCount n

end Roll

end DiceExpr

end Salvo
