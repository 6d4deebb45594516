import Salvo.Dice.Source

/-!
# Repeated rolls

How stages of an attack go through their dice: a step is repeated a number of times, each time on
what the last one left.
-/

namespace Salvo

variable {σ τ : Type}

@[specialize] def times (step : τ → StateM σ τ) : Nat → τ → StateM σ τ
  | 0, t => pure t
  | n + 1, t => do
    let t ← step t
    times step n t

@[simp] theorem times_zero (step : τ → StateM σ τ) (t : τ) : times step 0 t = pure t := rfl

theorem times_succ (step : τ → StateM σ τ) (n : Nat) (t : τ) :
    times step (n + 1) t = (do let t ← step t; times step n t) := rfl

variable [DiceSource σ]

/-- Rolls a die, and once more if asked for; the last roll counts. -/
def rollWithReroll (again : Nat → Bool) : StateM σ Nat := do
  let first ← DiceSource.d6
  if again first then DiceSource.d6 else pure first

def countRolls (holds : Nat → Bool) (n : Nat) : StateM σ Nat :=
  times (fun k => do
    let roll ← DiceSource.d6
    return if holds roll then k + 1 else k) n 0

end Salvo
