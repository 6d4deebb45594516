import Salvo.Attack.Wounds

/-!
# Damage

Each wound that is not saved deals one instance of damage to the model at hand. What is left over
when a model falls is lost, and once the last model has fallen no more dice are rolled.
-/

namespace Salvo

variable {σ : Type} [DiceSource σ]

def halved (amount : Nat) : Nat := max (amount / 2) 1

/-- Lowers damage, but not below one. -/
def reduced (amount reduction : Nat) : Nat := max (amount - reduction) 1

/-- The damage that a defender takes for an amount: nothing stays nothing, else it is first halved
and then lowered, as far as the defender does either. -/
def mitigated (fx : DefenderEffects) (amount : Nat) : Nat :=
  if amount = 0 then 0
  else
    let amount := if fx.halveDamage then halved amount else amount
    if 0 < fx.damageReduction then reduced amount fx.damageReduction else amount

def damageBonus (fx : WeaponEffects) (e : Engagement) : Int :=
  fx.damageModifier + (if e.halfRange then (fx.melta.getD 0 : Int) else 0)

def damageInstance (w : WeaponProfile) (d : DefenderProfile) (e : Engagement) : StateM σ Nat := do
  let rolled ← w.damage.roll
  return mitigated d.effects (toCount (rolled + damageBonus w.effects e))

/-- The part of an instance of damage that gets through Feel No Pain. -/
def feelNoPain (amount : Nat) (threshold : Option Nat) (mode : FeelNoPainMode) : StateM σ Nat :=
  match threshold with
  | none => pure amount
  | some threshold =>
    if amount = 0 then pure 0
    else
      match mode with
      | .perInstance => do
        let roll ← DiceSource.d6
        return if threshold ≤ roll then 0 else amount
      | .perPoint => countRolls (· < threshold) amount

structure DamageOutcome where
  damage : Nat := 0
  negated : Nat := 0
  modelsDestroyed : Nat := 0
deriving DecidableEq, Repr, Inhabited

/-- A unit under fire: what has happened so far, the models left and the wounds of the first one. -/
structure Casualties where
  outcome : DamageOutcome
  modelsLeft : Nat
  woundsLeft : Nat
deriving DecidableEq, Repr, Inhabited

namespace Casualties

def start (d : DefenderProfile) : Casualties := ⟨{}, d.models, d.wounds⟩

def take (c : Casualties) (wounds rolled dealt : Nat) : Casualties :=
  let damage := addCount c.outcome.damage dealt
  let negated := addCount c.outcome.negated (rolled - dealt)
  let left := applyDamage c.woundsLeft dealt
  if left = 0 then ⟨⟨damage, negated, c.outcome.modelsDestroyed + 1⟩, c.modelsLeft - 1, wounds⟩
  else ⟨⟨damage, negated, c.outcome.modelsDestroyed⟩, c.modelsLeft, left⟩

end Casualties

/-- Allocates a number of instances, one after the other, as long as a model is left. -/
def allocate (w : WeaponProfile) (d : DefenderProfile) (config : AttackConfig) :
    Nat → Casualties → StateM σ Casualties
  | 0, c => pure c
  | n + 1, c =>
    if c.modelsLeft = 0 then pure c
    else do
      let rolled ← damageInstance w d config.engagement
      let dealt ← feelNoPain rolled d.effects.feelNoPain config.feelNoPain
      allocate w d config n (c.take d.wounds rolled dealt)

def resolveDamage (failed mortal : Nat) (w : WeaponProfile) (d : DefenderProfile)
    (config : AttackConfig) : StateM σ DamageOutcome := do
  let c ← allocate w d config (addCount failed mortal) (.start d)
  return c.outcome

end Salvo
