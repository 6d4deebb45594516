import Salvo.Attack.Engagement
import Salvo.Profile.Defender

/-!
# Target numbers

What the dice have to show at each stage of an attack. Target numbers are not kept within the faces
of a die: with a target of one every roll succeeds, with a target of seven none does.
-/

namespace Salvo

def criticalRoll : Nat := 6

/-- Blast weapons gain one attack for this many models. -/
def blastModels : Nat := 5

/-- Cover only helps while the save that it leads to is this good. -/
def coverSaveLimit : Int := 3

def fallsShort (roll : Nat) (target : Int) : Bool := wrapStat roll < target

def woundTable (strength toughness : Int) : Int :=
  if 2 * toughness ≤ strength then 2
  else if toughness < strength then 3
  else if strength = toughness then 4
  else if 2 * strength ≤ toughness then 6
  else 5

/-- The roll that saves: the armour, worsened by armour penetration, or a better invulnerable
save. -/
def saveTable (save ap : Int) (invulnerable : Option Int) : Int :=
  let armour := toStat (save - ap)
  match invulnerable with
  | some inv => if inv < armour then inv else armour
  | none => armour

def applyDamage (wounds damage : Nat) : Nat := wounds - damage

/-- The modifiers of a hit roll. Heavy and stealth only concern ranged weapons. -/
def hitModifier (w : WeaponProfile) (d : DefenderProfile) (e : Engagement) : Int :=
  w.effects.hitModifier + d.effects.hitModifier +
    (if !w.isMelee && w.effects.heavy && e.stationary then 1 else 0) -
    (if !w.isMelee && d.effects.stealth then 1 else 0)

def hitTarget (w : WeaponProfile) (d : DefenderProfile) (e : Engagement) : Int :=
  toStat (w.toHit - hitModifier w d e)

/-- The modifiers of a wound roll. Lance only concerns melee weapons. -/
def woundModifier (w : WeaponProfile) (d : DefenderProfile) : Int :=
  w.effects.woundModifier + d.effects.woundModifier +
    (if w.effects.lance && w.isMelee then 1 else 0)

def woundTarget (w : WeaponProfile) (d : DefenderProfile) : Int :=
  toStat (woundTable w.strength d.toughness - woundModifier w d)

/-- The wound roll that is critical: the lowest threshold against a category of the defender, but
never above the roll that is always critical. -/
def criticalWound (w : WeaponProfile) (d : DefenderProfile) : Nat :=
  match w.effects.antiThreshold? d.matchesCategory with
  | some threshold => min threshold criticalRoll
  | none => criticalRoll

def armourSave (w : WeaponProfile) (d : DefenderProfile) : Int :=
  toStat (d.save - (w.effects.saveModifier + d.effects.saveModifier))

/-- The armour penetration that is left against cover. -/
def effectiveAp (w : WeaponProfile) (d : DefenderProfile) : Int :=
  let covered := toStat (w.ap + 1)
  if d.effects.cover && !w.effects.ignoresCover &&
      toStat (armourSave w d - covered) ≤ coverSaveLimit then covered
  else w.ap

def saveTarget (w : WeaponProfile) (d : DefenderProfile) : Int :=
  saveTable (armourSave w d) (effectiveAp w d) d.invulnerable

/-- The target numbers of an attack. They do not depend on the dice. -/
structure Targets where
  hit : Int
  wound : Int
  criticalWound : Nat
  save : Int
deriving DecidableEq, Repr

def Targets.of (w : WeaponProfile) (d : DefenderProfile) (e : Engagement) : Targets where
  hit := hitTarget w d e
  wound := woundTarget w d
  criticalWound := Salvo.criticalWound w d
  save := saveTarget w d

theorem fallsShort_of_lt {roll : Nat} (h : roll < 2147483648) (target : Int) :
    fallsShort roll target = decide ((roll : Int) < target) := by
  simp [fallsShort, wrapStat_of_lt h]

end Salvo
