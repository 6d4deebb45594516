import Salvo.Json.Reader
import Salvo.Scenario.Resolve
import Salvo.Yaml.Reader

/-!
# Reading scenario files

A file is read as JSON if its name ends so, and as YAML otherwise.
-/

namespace Salvo

/-- The part of a path behind its last slash; slashes and single dots at the end do not count. -/
def fileName (path : String) : List Char :=
  let parts := (path.toList.splitOnP (· == '/')).filter fun p => !p.isEmpty && p != ['.']
  parts.getLast?.getD []

/-- The part of a file name behind its last dot, if there is something in front of that dot. -/
def extension? (path : String) : Option (List Char) :=
  let name := fileName path
  let reversed := name.reverse
  let stem := (reversed.dropWhile (· != '.')).drop 1
  if name.contains '.' && !stem.isEmpty && name != ['.', '.'] then
    some (reversed.takeWhile (· != '.')).reverse
  else none

/-- The name of a file says that it holds JSON, in either letter case. -/
def isJsonPath (path : String) : Bool :=
  (extension? path).any fun e => e.map Char.toLower == "json".toList

def Scenario.parse (isJson : Bool) (text : String) : Except ScenarioError Scenario :=
  if isJson then
    match (Json.parse? text).bind Scenario.read? with
    | some s => .ok s
    | none => .error .json
  else
    match (Yaml.parse? text).bind Scenario.read? with
    | some s => .ok s
    | none => .error .yaml

end Salvo
