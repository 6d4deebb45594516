import Salvo.Batch.Summary
import Salvo.NameMap
import Salvo.Profile.Defender

/-!
# Reports

A report holds a result for each attacker, defender and weapon, and for each attacker and defender an
estimate of the models that fall. Its rows are in the order of the names.
-/

namespace Salvo

/-- The results of an attacker's weapons against one defender. -/
structure DefenderReport (α : Type) where
  weapons : NameMap (WeaponResult α)
  /-- The models that the mean damages would remove if they were allocated in turn. -/
  kills : Nat

structure Report (α : Type) where
  attackers : NameMap (NameMap (DefenderReport α))

/-- One weapon's result, with the estimate of its attacker and defender. -/
structure ReportRow (α : Type) where
  attacker : String
  defender : String
  weapon : String
  result : WeaponResult α
  kills : Nat

/-- The models that fall if a mean damage is allocated model by model. -/
def approximateKills {α : Type} [Scalar α] (mean : α) (d : DefenderProfile) : Nat :=
  if Scalar.isNonpos mean || d.wounds == 0 then 0
  else min (Scalar.wholes (mean / Scalar.ofCount d.wounds)) d.models

namespace DefenderReport

variable {α : Type}

def empty : DefenderReport α := ⟨∅, 0⟩

def insert (r : DefenderReport α) (weapon : String) (result : WeaponResult α) : DefenderReport α :=
  { r with weapons := r.weapons.insert weapon result }

end DefenderReport

namespace Report

variable {α : Type}

def empty : Report α := ⟨∅⟩

def get? (r : Report α) (attacker defender : String) : Option (DefenderReport α) :=
  (r.attackers.get? attacker).bind (·.get? defender)

def update (r : Report α) (attacker defender : String)
    (f : Option (DefenderReport α) → DefenderReport α) : Report α :=
  ⟨r.attackers.update attacker fun m => (m.getD ∅).update defender f⟩

def insert (r : Report α) (attacker defender weapon : String) (result : WeaponResult α) :
    Report α :=
  r.update attacker defender fun e => (e.getD .empty).insert weapon result

/-- Sets the estimate of an entry; without an entry nothing changes. -/
def setKills (r : Report α) (attacker defender : String) (kills : Nat) : Report α :=
  match r.get? attacker defender with
  | some e => r.update attacker defender fun _ => { e with kills }
  | none => r

def rows (r : Report α) : List (ReportRow α) :=
  r.attackers.entries.flatMap fun (attacker, defenders) =>
    defenders.entries.flatMap fun (defender, e) =>
      e.weapons.entries.map fun (weapon, result) => ⟨attacker, defender, weapon, result, e.kills⟩

def size (r : Report α) : Nat := r.rows.length

theorem get?_update_self (r : Report α) (attacker defender : String)
    (f : Option (DefenderReport α) → DefenderReport α) :
    (r.update attacker defender f).get? attacker defender =
      some (f (r.get? attacker defender)) := by
  simp only [get?, update, NameMap.get?_update_self, Option.bind_some]
  cases r.attackers.get? attacker <;> rfl

theorem get?_update_of_ne (r : Report α) {attacker defender a d : String}
    (h : a ≠ attacker ∨ d ≠ defender) (f : Option (DefenderReport α) → DefenderReport α) :
    (r.update attacker defender f).get? a d = r.get? a d := by
  by_cases ha : a = attacker
  · subst ha
    have hd : d ≠ defender := h.resolve_left fun hn => hn rfl
    simp only [get?, update, NameMap.get?_update_self, Option.bind_some,
      NameMap.get?_update_of_ne _ hd]
    cases r.attackers.get? a <;> rfl
  · simp only [get?, update, NameMap.get?_update_of_ne _ ha]

end Report

end Salvo
