/-!
# Engagements

The situation in which an attack takes place, and how Feel No Pain is counted in it.
-/

namespace Salvo

/-- How Feel No Pain rolls are counted. -/
inductive FeelNoPainMode where
  /-- One roll for an instance of damage; a success negates all of it. -/
  | perInstance
  /-- One roll for each point of damage; a success negates one point. -/
  | perPoint
deriving DecidableEq, Repr, Inhabited

def FeelNoPainMode.name : FeelNoPainMode → String
  | perInstance => "per_instance"
  | perPoint => "per_point"

structure Engagement where
  /-- The target is within half range, as rapid fire and melta ask for. -/
  halfRange : Bool := false
  /-- The attacker has not moved, as heavy weapons ask for. -/
  stationary : Bool := false
deriving DecidableEq, Repr, Inhabited

/-- What an attack depends on besides weapon and defender. -/
structure AttackConfig where
  engagement : Engagement := {}
  feelNoPain : FeelNoPainMode := .perInstance
deriving DecidableEq, Repr, Inhabited

end Salvo
