import Salvo.Json.Writer
import Salvo.Keyword.Effects

/-!
# Effects as JSON
-/

namespace Salvo

def Json.option {α : Type} (write : α → Json) : Option α → Json
  | some a => write a
  | none => .null

def Json.texts (ss : List String) : Json := .array (ss.map .text)

def Json.count (n : Nat) : Json := .int n

def WeaponEffects.toJson (e : WeaponEffects) : Json :=
  .object [("lethal_hits", .bool e.lethalHits), ("devastating_wounds", .bool e.devastatingWounds),
    ("twin_linked", .bool e.twinLinked), ("blast", .bool e.blast),
    ("hazardous", .bool e.hazardous), ("precision", .bool e.precision),
    ("torrent", .bool e.torrent), ("ignores_cover", .bool e.ignoresCover),
    ("heavy", .bool e.heavy), ("lance", .bool e.lance),
    ("sustained_hits", .option (fun d => .text d.text) e.sustainedHits),
    ("rapid_fire", .option .count e.rapidFire), ("melta", .option .count e.melta),
    ("anti", .object (e.anti.entries.map fun (category, n) => (category, .count n))),
    ("hit_modifier", .int e.hitModifier), ("wound_modifier", .int e.woundModifier),
    ("save_modifier", .int e.saveModifier), ("damage_modifier", .int e.damageModifier),
    ("hit_reroll", .text e.hitReroll.name), ("wound_reroll", .text e.woundReroll.name)]

def DefenderEffects.toJson (e : DefenderEffects) : Json :=
  .object [("feel_no_pain", .option .count e.feelNoPain), ("halve_damage", .bool e.halveDamage),
    ("damage_reduction", .count e.damageReduction), ("hit_modifier", .int e.hitModifier),
    ("wound_modifier", .int e.woundModifier), ("save_modifier", .int e.saveModifier),
    ("cover", .bool e.cover), ("stealth", .bool e.stealth), ("categories", .texts e.categories)]

/-- What tags do to weapons and defenders, and which of them do nothing. -/
def Keyword.summary (tags : List String) : Json :=
  .object [("weapon", (WeaponEffects.ofTags tags).toJson),
    ("defender", (DefenderEffects.ofTags tags).toJson),
    ("unrecognized", .texts (unrecognized tags))]

end Salvo
