import Salvo.Scenario.Resolve

/-!
# Validating scenarios

Validation looks at every record of a scenario and collects what it finds: errors keep the scenario
from running, warnings are about values that are odd but can be run, and the rest is information.
-/

namespace Salvo

inductive Severity where
  | error
  | warning
  | info
deriving DecidableEq, Repr

namespace Severity

def name : Severity → String
  | error => "error"
  | warning => "warning"
  | info => "info"

def rank : Severity → Nat
  | error => 0
  | warning => 1
  | info => 2

end Severity

/-- A finding, and the record it is about. -/
structure Diagnostic where
  severity : Severity
  context : String
  message : String
deriving DecidableEq, Repr

def Diagnostic.text (d : Diagnostic) : String :=
  "[" ++ d.severity.name ++ "] " ++ d.context ++ ": " ++ d.message

structure ValidationReport where
  diagnostics : List Diagnostic := []
deriving DecidableEq, Repr

namespace ValidationReport

def count (r : ValidationReport) (s : Severity) : Nat :=
  r.diagnostics.countP fun d => d.severity == s

def hasErrors (r : ValidationReport) : Bool := r.diagnostics.any fun d => d.severity == .error

def sorted (r : ValidationReport) : List Diagnostic :=
  r.diagnostics.mergeSort fun a b => decide (a.severity.rank ≤ b.severity.rank)

end ValidationReport

def diagnoseIf (holds : Bool) (severity : Severity) (context message : String) : List Diagnostic :=
  if holds then [⟨severity, context, message⟩] else []

def checkWeapon (context : String) (w : WeaponProfile) : List Diagnostic :=
  diagnoseIf (!w.effects.torrent && !(2 ≤ w.toHit && w.toHit ≤ 6)) .warning context
      ("to_hit " ++ toString w.toHit ++ " is outside 2-6") ++
    diagnoseIf (w.amount == 0) .warning context "amount is 0; weapon never attacks" ++
    diagnoseIf (w.attacks.isConstant && w.attacks.modifier == 0) .warning context "attacks is 0"

def checkDefender (context : String) (d : DefenderProfile) : List Diagnostic :=
  diagnoseIf (!(2 ≤ d.save && d.save ≤ 7)) .warning context
      ("save " ++ toString d.save ++ " is outside 2-7") ++
    match d.invulnerable with
    | some inv =>
      diagnoseIf (d.save ≤ inv) .info context
        ("invulnerable " ++ toString inv ++ "+ never beats armour " ++ toString d.save ++ "+")
    | none => []

/-- The finding about a profile that cannot be made, or those about the one that is made. -/
def checkProfile {α : Type} (context : String) (check : String → α → List Diagnostic) :
    Except ProfileError α → List Diagnostic
  | .ok a => check context a
  | .error e => [⟨.error, context, e.message⟩]

/-- What is found about the weapon at a position; the names in front of it are in lower case. -/
def validateWeapon (attacker : String) (seen : List (List Char)) (r : WeaponRecord) (index : Nat) :
    List Diagnostic :=
  let name := r.nameAt index
  let context := attacker ++ " / " ++ name
  diagnoseIf (seen.contains (Text.lower name.toList)) .warning context
      "duplicate weapon name; results get a #n suffix" ++
    (Keyword.unrecognized r.keywords).map
      (fun tag => ⟨.info, context, "keyword '" ++ tag ++ "' has no effect"⟩) ++
    checkProfile context checkWeapon (WeaponProfile.ofRecord r name)

def validateWeapons (attacker : String) (seen : List (List Char)) :
    List WeaponRecord → Nat → List Diagnostic
  | [], _ => []
  | r :: rs, index =>
    validateWeapon attacker seen r index ++
      validateWeapons attacker (Text.lower (r.nameAt index).toList :: seen) rs (index + 1)

def validateAttacker (r : AttackerRecord) (index : Nat) : List Diagnostic :=
  let name := r.nameAt index
  diagnoseIf r.weapons.isEmpty .warning name "attacker has no weapons" ++
    validateWeapons name [] r.weapons 0

def validateDefender (r : DefenderRecord) (index : Nat) : List Diagnostic :=
  checkProfile (r.nameAt index) checkDefender (r.resolveAt index)

def Scenario.validate (s : Scenario) : ValidationReport where
  diagnostics :=
    diagnoseIf s.attackers.isEmpty .error "scenario" "no attackers" ++
      diagnoseIf s.defenders.isEmpty .error "scenario" "no defenders" ++
      s.attackers.zipIdx.flatMap (fun (a, i) => validateAttacker a i) ++
      s.defenders.zipIdx.flatMap (fun (d, i) => validateDefender d i)

end Salvo
