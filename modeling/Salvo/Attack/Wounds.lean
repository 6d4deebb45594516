import Salvo.Attack.Hits

/-!
# Wounds and saves

A wound roll that is critical against the defender's category wounds whatever the target number; a
plain six does not. Devastating wounds turn critical wounds into mortal ones, which allow no save.
-/

namespace Salvo

variable {σ : Type} [DiceSource σ]

structure WoundOutcome where
  target : Int
  criticalAt : Nat
  /-- The wounds that allow a save. -/
  wounds : Nat
  criticalWounds : Nat
  mortalWounds : Nat
deriving DecidableEq, Repr, Inhabited

structure WoundTally where
  wounds : Nat := 0
  criticalWounds : Nat := 0
  mortalWounds : Nat := 0
deriving DecidableEq, Repr, Inhabited

/-- The roll is critical by a threshold against the defender's category. -/
def isAntiCritical (roll criticalAt : Nat) : Bool := criticalAt < criticalRoll && criticalAt ≤ roll

def isWound (roll : Nat) (target : Int) (criticalAt : Nat) : Bool :=
  isAntiCritical roll criticalAt || !fallsShort roll target

def woundRoll (fx : WeaponEffects) (target : Int) (criticalAt : Nat) : StateM σ Nat :=
  rollWithReroll fun roll => fx.woundReroll.rerolls roll target criticalAt

def WoundTally.add (t : WoundTally) (devastating : Bool) (roll : Nat) (target : Int)
    (criticalAt : Nat) : WoundTally :=
  if !isWound roll target criticalAt then t
  else if roll < criticalAt then { t with wounds := t.wounds + 1 }
  else if devastating then
    { t with criticalWounds := t.criticalWounds + 1, mortalWounds := t.mortalWounds + 1 }
  else { t with wounds := t.wounds + 1, criticalWounds := t.criticalWounds + 1 }

def countWound (fx : WeaponEffects) (target : Int) (criticalAt : Nat) (t : WoundTally) :
    StateM σ WoundTally := do
  let roll ← woundRoll fx target criticalAt
  return t.add fx.devastatingWounds roll target criticalAt

def resolveWoundsAt (target : Int) (criticalAt hits : Nat) (w : WeaponProfile) :
    StateM σ WoundOutcome := do
  let t ← times (countWound w.effects target criticalAt) hits {}
  return ⟨target, criticalAt, t.wounds, t.criticalWounds, t.mortalWounds⟩

def resolveWounds (hits : Nat) (w : WeaponProfile) (d : DefenderProfile) :
    StateM σ WoundOutcome :=
  resolveWoundsAt (woundTarget w d) (criticalWound w d) hits w

structure SaveOutcome where
  target : Int
  failed : Nat
deriving DecidableEq, Repr, Inhabited

def resolveSavesAt (target : Int) (wounds : Nat) : StateM σ SaveOutcome := do
  let failed ← countRolls (fallsShort · target) wounds
  return ⟨target, failed⟩

def resolveSaves (wounds : Nat) (w : WeaponProfile) (d : DefenderProfile) :
    StateM σ SaveOutcome :=
  resolveSavesAt (saveTarget w d) wounds

end Salvo
