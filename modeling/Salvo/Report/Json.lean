import Salvo.Json.Writer
import Salvo.Report.Basic

/-!
# Reports as JSON

Attackers and defenders are the keys of nested objects. In the object of a defender the estimate of
the models that fall stands behind the weapons.
-/

namespace Salvo

/-- The key of the estimate among the weapons of a defender. -/
def killsKey : String := "Kills"

def Stats.toJson (s : Stats Float) : Json :=
  .object [("mean", .float s.mean), ("median", .float s.median), ("std", .float s.std),
    ("min", .float s.min), ("max", .float s.max), ("p25", .float s.p25), ("p75", .float s.p75),
    ("p90", .float s.p90), ("p95", .float s.p95), ("killChance", .float s.killChance),
    ("wipeChance", .float s.wipeChance), ("meanModelsDestroyed", .float s.meanModelsDestroyed)]

def WeaponResult.toJson (r : WeaponResult Float) : Json :=
  .object [("Hits", .float r.hits), ("Wounds", .float r.wounds),
    ("FailedSaves", .float r.failedSaves), ("Damage", .float r.damage), ("Stats", r.stats.toJson)]

def DefenderReport.fields (r : DefenderReport Float) : List (String × Json) :=
  r.weapons.entries.map (fun (name, result) => (name, result.toJson)) ++
    [(killsKey, .int r.kills)]

def Report.toJson (r : Report Float) : Json :=
  .object (r.attackers.entries.map fun (attacker, defenders) =>
    (attacker, .object (defenders.entries.map fun (defender, e) => (defender, .object e.fields))))

def Report.jsonText (r : Report Float) : String := r.toJson.pretty

end Salvo
