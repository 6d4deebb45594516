import Salvo.Attack.Rolls
import Salvo.Attack.Targets

/-!
# Hits

How many attacks a weapon makes and what becomes of them. A critical hit can bring further hits, and
with lethal hits it turns into a wound at once. A torrent weapon hits with every attack and rolls
nothing.

The further hits stop at the largest count. A hit that is counted after that goes beyond it; whether all
hits can be counted is checked apart from this.
-/

namespace Salvo

variable {σ : Type} [DiceSource σ]

structure HitOutcome where
  attacks : Nat
  target : Int
  /-- The hits that go on to wound rolls. -/
  hits : Nat
  criticalHits : Nat
  /-- The hits that became wounds. -/
  autoWounds : Nat
deriving DecidableEq, Repr, Inhabited

structure HitTally where
  hits : Nat := 0
  criticalHits : Nat := 0
  autoWounds : Nat := 0
deriving DecidableEq, Repr, Inhabited

/-- The number of attacks. All weapons of an amount share one roll. -/
def attackCount (w : WeaponProfile) (d : DefenderProfile) (e : Engagement) : StateM σ Nat := do
  let rolled ← w.attacks.roll
  let each := if e.halfRange then addCount rolled (w.effects.rapidFire.getD 0) else rolled
  let all := mulCount each w.amount
  return if w.effects.blast then addCount all (d.models / blastModels) else all

def extraHits (fx : WeaponEffects) : StateM σ Nat :=
  match fx.sustainedHits with
  | some e => e.roll
  | none => pure 0

def hitRoll (fx : WeaponEffects) (target : Int) : StateM σ Nat :=
  rollWithReroll fun roll => fx.hitReroll.rerolls roll target criticalRoll

def countCritical (fx : WeaponEffects) (t : HitTally) : StateM σ HitTally := do
  let extra ← extraHits fx
  let hits := if fx.sustainedHits.isSome then addCount (t.hits + 1) extra else t.hits + 1
  return if fx.lethalHits then ⟨hits - 1, t.criticalHits + 1, t.autoWounds + 1⟩
    else ⟨hits, t.criticalHits + 1, t.autoWounds⟩

def countHit (fx : WeaponEffects) (target : Int) (t : HitTally) : StateM σ HitTally := do
  let roll ← hitRoll fx target
  if fallsShort roll target then pure t
  else if roll < criticalRoll then pure { t with hits := t.hits + 1 }
  else countCritical fx t

def resolveHitsAt (target : Int) (w : WeaponProfile) (d : DefenderProfile) (e : Engagement) :
    StateM σ HitOutcome := do
  let attacks ← attackCount w d e
  if w.effects.torrent then return ⟨attacks, target, attacks, 0, 0⟩
  let t ← times (countHit w.effects target) attacks {}
  return ⟨attacks, target, t.hits, t.criticalHits, t.autoWounds⟩

def resolveHits (w : WeaponProfile) (d : DefenderProfile) (e : Engagement) :
    StateM σ HitOutcome :=
  resolveHitsAt (hitTarget w d e) w d e

end Salvo
