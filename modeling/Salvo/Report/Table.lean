import Salvo.Decimal.Style
import Salvo.Report.Basic

/-!
# Reports as tables

A report is written with commas between the cells, where cells that could be misread are quoted, or
with tabs, where names are written as they are and means are rounded.
-/

namespace Salvo

def needsQuotes (c : Char) : Bool := c == '"' || c == ',' || c == '\r' || c == '\n'

def csvCell (s : String) : String :=
  if s.toList.any needsQuotes then
    "\"" ++ String.ofList (s.toList.flatMap fun c => if c = '"' then ['"', '"'] else [c]) ++ "\""
  else s

def csvLine (cells : List String) : String :=
  String.intercalate "," (cells.map csvCell) ++ "\n"

def csvHeader : List String :=
  ["attacker", "defender", "weapon", "hits", "wounds", "failed_saves", "damage", "median", "std",
    "p90", "kill_chance", "wipe_chance", "kills_estimate"]

def ReportRow.csvCells (row : ReportRow Float) : List String :=
  let number := Decimal.dataStyle.text
  let r := row.result
  [row.attacker, row.defender, row.weapon, number r.hits, number r.wounds, number r.failedSaves,
    number r.damage, number r.stats.median, number r.stats.std, number r.stats.p90,
    number r.stats.killChance, number r.stats.wipeChance, toString row.kills]

/-- A report with commas between the cells. Without rows there is no header either. -/
def Report.csv (r : Report Float) : String :=
  match r.rows with
  | [] => ""
  | rows => String.join ((csvHeader :: rows.map ReportRow.csvCells).map csvLine)

def tableHeader : List String :=
  ["attacker", "defender", "weapon", "hits", "wounds", "failed_saves", "damage", "median", "p90",
    "kill_chance", "kills~"]

def ReportRow.tableCells (row : ReportRow Float) : List String :=
  let r := row.result
  [row.attacker, row.defender, row.weapon, Decimal.fixedText 2 r.hits,
    Decimal.fixedText 2 r.wounds, Decimal.fixedText 2 r.failedSaves, Decimal.fixedText 2 r.damage,
    Decimal.plainStyle.text r.stats.median, Decimal.plainStyle.text r.stats.p90,
    Decimal.fixedText 3 r.stats.killChance, toString row.kills]

def tableLine (cells : List String) : String := String.intercalate "\t" cells ++ "\n"

def Report.table (r : Report Float) : String :=
  String.join ((tableHeader :: r.rows.map ReportRow.tableCells).map tableLine)

end Salvo
