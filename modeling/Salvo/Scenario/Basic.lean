import Salvo.Attack.Engagement
import Salvo.Profile.Defender
import Salvo.Scenario.Format

/-!
# Scenarios

A scenario says which attackers with which weapons attack which defenders, and in which situation.
Every part of it may be left out.
-/

namespace Salvo

structure AttackerRecord where
  name : Option String := none
  weapons : List WeaponRecord := []

structure Scenario where
  engagement : Engagement := {}
  attackers : List AttackerRecord := []
  defenders : List DefenderRecord := []

def weaponKinds : List (String × WeaponKind) :=
  [WeaponKind.ranged, .melee].map fun k => (k.name, k)

def feelNoPainModes : List (String × FeelNoPainMode) :=
  [FeelNoPainMode.perInstance, .perPoint].map fun m => (m.name, m)

section

open DataFormat

variable {ν : Type} [DataFormat ν]

def texts? (v : ν) : Option (List String) := list? text? v

def Engagement.read? (v : ν) : Option Engagement := do
  match ← fields? [["half_range"], ["stationary"]] v with
  | [halfRange, stationary] =>
    return {
      halfRange := ← withDefault? false bool? halfRange
      stationary := ← withDefault? false bool? stationary }
  | _ => none

def FeelNoPainMode.read? (v : ν) : Option FeelNoPainMode := oneOf? feelNoPainModes v

def AttackConfig.read? (v : ν) : Option AttackConfig := do
  match ← fields? [["engagement"], ["feel_no_pain"]] v with
  | [engagement, feelNoPain] =>
    return {
      engagement := ← withDefault? {} Engagement.read? engagement
      feelNoPain := ← withDefault? .perInstance FeelNoPainMode.read? feelNoPain }
  | _ => none

def WeaponKind.read? (v : ν) : Option WeaponKind := oneOf? weaponKinds v

def weaponFields : List FieldNames :=
  [["name"], ["kind"], ["attacks"], ["to_hit", "bs", "ws", "skill"], ["strength", "s"], ["ap"],
    ["damage", "d"], ["amount"], ["keywords"]]

def WeaponRecord.read? (v : ν) : Option WeaponRecord := do
  match ← fields? weaponFields v with
  | [name, kind, attacks, toHit, strength, ap, damage, amount, keywords] =>
    return {
      name := ← optional? text? name
      kind := ← withDefault? .ranged WeaponKind.read? kind
      attacks := ← optional? stat? attacks
      toHit := ← optional? stat? toHit
      strength := ← optional? stat? strength
      ap := ← optional? stat? ap
      damage := ← optional? stat? damage
      amount := ← optional? stat? amount
      keywords := ← withDefault? [] texts? keywords }
  | _ => none

def defenderFields : List FieldNames :=
  [["name"], ["toughness", "t"], ["wounds", "w"], ["models"], ["save", "sv"],
    ["invulnerable", "invuln"], ["unit_type"], ["keywords"]]

def DefenderRecord.read? (v : ν) : Option DefenderRecord := do
  match ← fields? defenderFields v with
  | [name, toughness, wounds, models, save, invulnerable, unitType, keywords] =>
    return {
      name := ← optional? text? name
      toughness := ← optional? stat? toughness
      wounds := ← optional? stat? wounds
      models := ← optional? stat? models
      save := ← optional? stat? save
      invulnerable := ← optional? stat? invulnerable
      unitType := ← optional? text? unitType
      keywords := ← withDefault? [] texts? keywords }
  | _ => none

def AttackerRecord.read? (v : ν) : Option AttackerRecord := do
  match ← fields? [["name"], ["weapons"]] v with
  | [name, weapons] =>
    return {
      name := ← optional? text? name
      weapons := ← withDefault? [] (list? WeaponRecord.read?) weapons }
  | _ => none

def Scenario.read? (v : ν) : Option Scenario := do
  match ← fields? [["engagement"], ["attackers"], ["defenders"]] v with
  | [engagement, attackers, defenders] =>
    return {
      engagement := ← withDefault? {} Engagement.read? engagement
      attackers := ← withDefault? [] (list? AttackerRecord.read?) attackers
      defenders := ← withDefault? [] (list? DefenderRecord.read?) defenders }
  | _ => none

end

end Salvo
