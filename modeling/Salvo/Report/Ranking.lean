import Salvo.Decimal.Binary
import Salvo.Report.Basic

/-!
# Ranking weapons

Weapons are ranked by the chance to destroy a model, then by mean damage, then by the names of
attacker and weapon. Doubles are compared in their total order, which also places signed zeros and
values that are not numbers.
-/

namespace Salvo

/-- The place of a double in the total order of doubles. -/
def floatKey (x : Float) : Int :=
  let bits := x.toBits.toNat
  if bits < 9223372036854775808 then bits else 9223372036854775807 - (bits : Int)

/-- A row's place in the ranking: lower keys come first. -/
structure RankKey where
  killChance : Int
  damage : Int
  attacker : String
  weapon : String
deriving DecidableEq, Repr

namespace RankKey

def ofRow (row : ReportRow Float) : RankKey :=
  ⟨-floatKey row.result.stats.killChance, -floatKey row.result.damage, row.attacker, row.weapon⟩

def le (a b : RankKey) : Bool :=
  if a.killChance ≠ b.killChance then a.killChance < b.killChance
  else if a.damage ≠ b.damage then a.damage < b.damage
  else if a.attacker ≠ b.attacker then a.attacker < b.attacker
  else a.weapon ≤ b.weapon

end RankKey

namespace Report

/-- The rows, best first. Rows with equal keys stay in their order. -/
def ranked (r : Report Float) : List (ReportRow Float) :=
  r.rows.mergeSort fun a b => (RankKey.ofRow a).le (RankKey.ofRow b)

end Report

end Salvo
