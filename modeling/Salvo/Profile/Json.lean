import Salvo.Keyword.Json
import Salvo.Profile.Defender

/-!
# Profiles as JSON
-/

namespace Salvo

def WeaponProfile.toJson (w : WeaponProfile) : Json :=
  .object [("name", .text w.name), ("kind", .text w.kind.name), ("attacks", .text w.attacks.text),
    ("to_hit", .int w.toHit), ("strength", .int w.strength), ("ap", .int w.ap),
    ("damage", .text w.damage.text), ("amount", .count w.amount),
    ("keywords", .texts w.keywords), ("effects", w.effects.toJson)]

def DefenderProfile.toJson (d : DefenderProfile) : Json :=
  .object [("name", .text d.name), ("toughness", .int d.toughness), ("wounds", .count d.wounds),
    ("models", .count d.models), ("save", .int d.save),
    ("invulnerable", .option .int d.invulnerable), ("unit_type", .option .text d.unitType),
    ("keywords", .texts d.keywords), ("effects", d.effects.toJson)]

end Salvo
