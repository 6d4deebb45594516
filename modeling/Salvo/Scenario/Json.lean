import Salvo.Keyword.Json
import Salvo.Scenario.Basic

/-!
# Scenarios as JSON

A scenario is written with all its fields; those that were left out have their defaults.
-/

namespace Salvo

def Stat.toJson : Stat → Json
  | int n => .int n
  | float x => .float x
  | text s => .text s

def Engagement.toJson (e : Engagement) : Json :=
  .object [("half_range", .bool e.halfRange), ("stationary", .bool e.stationary)]

def WeaponRecord.toJson (r : WeaponRecord) : Json :=
  .object [("name", .option .text r.name), ("kind", .text r.kind.name),
    ("attacks", .option Stat.toJson r.attacks), ("to_hit", .option Stat.toJson r.toHit),
    ("strength", .option Stat.toJson r.strength), ("ap", .option Stat.toJson r.ap),
    ("damage", .option Stat.toJson r.damage), ("amount", .option Stat.toJson r.amount),
    ("keywords", .texts r.keywords)]

def DefenderRecord.toJson (r : DefenderRecord) : Json :=
  .object [("name", .option .text r.name), ("toughness", .option Stat.toJson r.toughness),
    ("wounds", .option Stat.toJson r.wounds), ("models", .option Stat.toJson r.models),
    ("save", .option Stat.toJson r.save), ("invulnerable", .option Stat.toJson r.invulnerable),
    ("unit_type", .option .text r.unitType), ("keywords", .texts r.keywords)]

def AttackerRecord.toJson (r : AttackerRecord) : Json :=
  .object [("name", .option .text r.name), ("weapons", .array (r.weapons.map (·.toJson)))]

def Scenario.toJson (s : Scenario) : Json :=
  .object [("engagement", s.engagement.toJson), ("attackers", .array (s.attackers.map (·.toJson))),
    ("defenders", .array (s.defenders.map (·.toJson)))]

end Salvo
