import Salvo.Dice.Expr
import Salvo.Dice.Generator

/-!
# Sources in range

The seeded generator keeps to the faces of its dice, on every seed. `LoadedDice` are the extreme source
that does so as well: an expression comes to no more on any source than it does on them.
-/

namespace Salvo

theorem Generator.face_le {sides : Nat} (h : 1 ≤ sides) (word : UInt64) :
    face sides word ≤ sides := by
  have hword : word.toNat < wordCount := word.toNat_lt
  have hscaled : word.toNat * sides / wordCount < sides :=
    Nat.div_lt_of_lt_mul (Nat.mul_lt_mul_of_pos_right hword h)
  exact hscaled

theorem Generator.inRange : DiceSource.InRange Generator := by
  intro sides h g
  rw [roll_of_pos h]
  exact ⟨Nat.le_add_left 1 _, face_le h _⟩

/-- Dice that show their highest face every time. -/
structure LoadedDice where

instance : DiceSource LoadedDice where
  roll sides := fun s => (sides, s)

theorem LoadedDice.inRange : DiceSource.InRange LoadedDice := fun sides h _ =>
  ⟨h, Nat.le_refl sides⟩

namespace DiceExpr

def highest (e : DiceExpr) : Int := e.modifier + e.count * e.sides

section Totals

variable {σ : Type} [DiceSource σ]

theorem addFaces_le (hσ : DiceSource.InRange σ) {sides : Nat} (h : 1 ≤ sides) (n : Nat) (total : Int)
    (s : σ) : ((addFaces sides n total).run s).1 ≤ total + (n * sides : Nat) := by
  induction n generalizing total s with
  | zero =>
      rw [Nat.zero_mul]
      exact Int.le_of_eq (Int.add_zero total).symm
  | succ n ih =>
      have hface := (hσ sides h s).2
      have hrest := ih (total + ((DiceSource.roll sides).run s).1) ((DiceSource.roll sides).run s).2
      rw [Nat.succ_mul]
      calc ((addFaces sides (n + 1) total).run s).1
          ≤ total + ((DiceSource.roll sides).run s).1 + (n * sides : Nat) := hrest
        _ ≤ total + (n * sides + sides : Nat) := by omega

theorem roll_le (hσ : DiceSource.InRange σ) {e : DiceExpr} (h : e.Writable) (s : σ) :
    (e.roll.run s).1 ≤ toCount e.highest := by
  have htotal : (e.total.run s).1 ≤ e.highest := by
    rcases h.1 with ⟨hcount, -⟩ | ⟨-, -, hsides, -⟩
    · rw [total, highest, hcount, Int.natCast_zero, Int.zero_mul]
      exact Int.le_of_eq (Int.add_zero e.modifier).symm
    · exact addFaces_le hσ hsides e.count e.modifier s
  exact toCount_mono htotal

theorem addFaces_loadedDice (sides n : Nat) (total : Int) :
    (addFaces sides n total).run LoadedDice.mk = (total + (n * sides : Nat), ⟨⟩) := by
  induction n generalizing total with
  | zero =>
      rw [Nat.zero_mul]
      exact congrArg (·, LoadedDice.mk) (Int.add_zero total).symm
  | succ n ih =>
      have hsum : total + ((n + 1) * sides : Nat) = total + sides + (n * sides : Nat) := by
        rw [Nat.succ_mul]
        omega
      rw [hsum]
      exact ih (total + sides)

theorem roll_loadedDice (e : DiceExpr) :
    e.roll.run LoadedDice.mk = (toCount e.highest, ⟨⟩) := by
  have htotal : e.total.run LoadedDice.mk = (e.highest, ⟨⟩) := addFaces_loadedDice ..
  change (toCount (e.total.run LoadedDice.mk).1, (e.total.run LoadedDice.mk).2) = _
  rw [htotal]

end Totals

end DiceExpr

end Salvo
