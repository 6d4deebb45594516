import Salvo.Scenario.Basic

/-!
# Resolving scenarios

A scenario is resolved by checking all its records. The first one that is at fault decides the error.
Attackers, weapons and defenders without a name are named for their position.
-/

namespace Salvo

/-- An attacker whose weapons are ready. -/
structure Attacker where
  name : String
  weapons : List WeaponProfile
deriving DecidableEq

/-- A scenario whose profiles are all ready. -/
structure ResolvedScenario where
  engagement : Engagement
  attackers : List Attacker
  defenders : List DefenderProfile
deriving DecidableEq

inductive ScenarioError where
  | read (path reason : String)
  | json
  | yaml
  | empty (part : String)
  | profile (e : ProfileError)
deriving DecidableEq, Repr

def ScenarioError.message : ScenarioError → String
  | read path reason => "failed to read scenario file '" ++ path ++ "': " ++ reason
  | json => "failed to parse scenario JSON: not a scenario"
  | yaml => "failed to parse scenario YAML: not a scenario"
  | empty part => "scenario has no " ++ part
  | profile e => e.message

/-- The trimmed name, or the kind of thing and its position if that is empty. -/
def positionName (kind : String) (index : Nat) (name : Option String) : String :=
  let trimmed := Text.trim (name.getD "").toList
  if trimmed.isEmpty then kind ++ "[" ++ toString index ++ "]" else String.ofList trimmed

def AttackerRecord.nameAt (r : AttackerRecord) (index : Nat) : String :=
  positionName "attacker" index r.name

def WeaponRecord.nameAt (r : WeaponRecord) (index : Nat) : String :=
  positionName "weapon" index r.name

def DefenderRecord.nameAt (r : DefenderRecord) (index : Nat) : String :=
  positionName "defender" index r.name

def WeaponRecord.resolveAt (r : WeaponRecord) (index : Nat) : Except ProfileError WeaponProfile :=
  WeaponProfile.ofRecord r (r.nameAt index)

def DefenderRecord.resolveAt (r : DefenderRecord) (index : Nat) :
    Except ProfileError DefenderProfile :=
  DefenderProfile.ofRecord r (r.nameAt index)

def AttackerRecord.resolveAt (r : AttackerRecord) (index : Nat) : Except ProfileError Attacker := do
  let weapons ← r.weapons.zipIdx.mapM fun (w, i) => w.resolveAt i
  return ⟨r.nameAt index, weapons⟩

namespace Scenario

def missingPart? (s : Scenario) : Option String :=
  if s.attackers.isEmpty then some "attackers"
  else if s.defenders.isEmpty then some "defenders"
  else if s.attackers.all (·.weapons.isEmpty) then some "weapons"
  else none

/-- Checks all profiles: the weapons of each attacker, then the defenders. -/
def profiles (s : Scenario) : Except ProfileError (List Attacker × List DefenderProfile) := do
  let attackers ← s.attackers.zipIdx.mapM fun (a, i) => a.resolveAt i
  let defenders ← s.defenders.zipIdx.mapM fun (d, i) => d.resolveAt i
  return (attackers, defenders)

def resolve (s : Scenario) : Except ScenarioError ResolvedScenario :=
  match s.missingPart? with
  | some part => .error (.empty part)
  | none =>
    match s.profiles with
    | .ok (attackers, defenders) => .ok ⟨s.engagement, attackers, defenders⟩
    | .error e => .error (.profile e)

end Scenario

end Salvo
