import Salvo.Keyword.Effects
import Salvo.Profile.Stat

/-!
# Weapons

A `WeaponRecord` is what a scenario file says about a weapon. `WeaponProfile.ofRecord` checks it and
derives the effects of its keywords; everything behind it works on profiles.
-/

namespace Salvo

inductive WeaponKind where
  | ranged
  | melee
deriving DecidableEq, Repr, Inhabited

def WeaponKind.name : WeaponKind → String
  | ranged => "ranged"
  | melee => "melee"

structure WeaponRecord where
  name : Option String := none
  kind : WeaponKind := .ranged
  attacks : Option Stat := none
  toHit : Option Stat := none
  strength : Option Stat := none
  ap : Option Stat := none
  damage : Option Stat := none
  amount : Option Stat := none
  keywords : List String := []

/-- A weapon that is ready to attack. Armour penetration is zero or negative. -/
structure WeaponProfile where
  name : String
  kind : WeaponKind
  attacks : DiceExpr
  toHit : Int
  strength : Int
  ap : Int
  damage : DiceExpr
  amount : Nat
  keywords : List String
  effects : WeaponEffects
deriving DecidableEq

def nameOr (fallback : String) : Option String → String
  | none => fallback
  | some name => if (Text.trim name.toList).isEmpty then fallback else name

namespace WeaponProfile

/-- A single ranged weapon without keywords. Armour penetration may be given with either sign. -/
def ofStats (name : String) (attacks : DiceExpr) (toHit strength ap : Int) (damage : DiceExpr) :
    WeaponProfile where
  name := name
  kind := .ranged
  attacks := attacks
  toHit := toHit
  strength := strength
  ap := -(min (ap.natAbs : Int) maxStat)
  damage := damage
  amount := 1
  keywords := []
  effects := {}

def withKeywords (w : WeaponProfile) (tags : List String) : WeaponProfile :=
  { w with keywords := tags, effects := WeaponEffects.ofTags tags }

def skill (f : Field) (torrent : Bool) (stat : Option Stat) : Except ProfileError Int :=
  match Stat.toInt f stat with
  | .ok n => f.inRange 1 maxCharacteristic n
  | .error e => if torrent then .ok 0 else .error e

def ofRecord (r : WeaponRecord) (fallback : String) : Except ProfileError WeaponProfile := do
  let name := nameOr fallback r.name
  let effects := WeaponEffects.ofTags r.keywords
  let attacks ← Stat.toDice ⟨name, "attacks"⟩ r.attacks
  let toHit ← skill ⟨name, "to_hit"⟩ effects.torrent r.toHit
  let strength ← Stat.toIntIn ⟨name, "strength"⟩ 1 maxCharacteristic r.strength
  let ap ← Stat.toIntOr ⟨name, "ap"⟩ 0 (-maxCharacteristic) maxCharacteristic r.ap
  let damage ← Stat.toDice ⟨name, "damage"⟩ r.damage
  let amount ← Stat.toIntOr ⟨name, "amount"⟩ 1 0 maxAmount r.amount
  return {
    name, kind := r.kind, attacks, toHit, strength, ap := -(ap.natAbs : Int), damage,
    amount := amount.toNat, keywords := r.keywords, effects }

def isMelee (w : WeaponProfile) : Bool := w.kind == .melee

end WeaponProfile

end Salvo
