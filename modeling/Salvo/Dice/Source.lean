/-!
# Sources of die faces

Everything that rolls dice takes them from a `DiceSource`, one face at a time, and hands the source
on. `DiceSource.InRange` says that a source keeps to the faces of its dice.
-/

namespace Salvo

/-- A supply of die faces, with a state that moves on with each roll. -/
class DiceSource (σ : Type) where
  /-- The next face of a die with the given number of sides. -/
  roll : Nat → StateM σ Nat

namespace DiceSource

variable {σ : Type} [DiceSource σ]

def d6 : StateM σ Nat := roll 6

/-- A die with at least one side only shows its own faces. -/
def InRange (σ : Type) [DiceSource σ] : Prop :=
  ∀ sides, 1 ≤ sides → ∀ s : σ, 1 ≤ ((roll sides).run s).1 ∧ ((roll sides).run s).1 ≤ sides

end DiceSource

end Salvo
