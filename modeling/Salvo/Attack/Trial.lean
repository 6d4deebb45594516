import Salvo.Attack.Damage

/-!
# Trials

One attack from the first roll to the last: hits, wounds, saves and damage. A `Trial` is the summary
of its outcomes. The target numbers are found once and serve any number of trials.
-/

namespace Salvo

variable {σ : Type} [DiceSource σ]

/-- The summary of one attack. -/
structure Trial where
  attacks : Nat := 0
  hits : Nat := 0
  /-- All wounds: saved or not, mortal or not, rolled for or not. -/
  wounds : Nat := 0
  mortalWounds : Nat := 0
  failedSaves : Nat := 0
  damage : Nat := 0
  modelsDestroyed : Nat := 0
deriving DecidableEq, Repr, Inhabited

/-- The outcomes of the four stages of an attack. -/
structure Outcomes where
  hit : HitOutcome
  wound : WoundOutcome
  save : SaveOutcome
  damage : DamageOutcome
deriving DecidableEq, Repr, Inhabited

def Outcomes.trial (o : Outcomes) : Trial where
  attacks := o.hit.attacks
  hits := o.hit.hits
  wounds := o.wound.wounds + o.wound.mortalWounds + o.hit.autoWounds
  mortalWounds := o.wound.mortalWounds
  failedSaves := o.save.failed
  damage := o.damage.damage
  modelsDestroyed := o.damage.modelsDestroyed

def attackAt (t : Targets) (w : WeaponProfile) (d : DefenderProfile) (config : AttackConfig) :
    StateM σ Outcomes := do
  let hit ← resolveHitsAt t.hit w d config.engagement
  let wound ← resolveWoundsAt t.wound t.criticalWound hit.hits w
  let save ← resolveSavesAt t.save (wound.wounds + hit.autoWounds)
  let damage ← resolveDamage save.failed wound.mortalWounds w d config
  return ⟨hit, wound, save, damage⟩

def attack (w : WeaponProfile) (d : DefenderProfile) (config : AttackConfig) : StateM σ Outcomes :=
  attackAt (.of w d config.engagement) w d config

def trial (w : WeaponProfile) (d : DefenderProfile) (config : AttackConfig) : StateM σ Trial := do
  let o ← attack w d config
  return o.trial

/-- Adds a number of trials in front of those that are there. -/
def addTrials (t : Targets) (w : WeaponProfile) (d : DefenderProfile) (config : AttackConfig) :
    Nat → List Trial → StateM σ (List Trial)
  | 0, done => pure done
  | n + 1, done => do
    let o ← attackAt t w d config
    addTrials t w d config n (o.trial :: done)

def trials (w : WeaponProfile) (d : DefenderProfile) (config : AttackConfig) (n : Nat) :
    StateM σ (List Trial) := do
  let done ← addTrials (.of w d config.engagement) w d config n []
  return done.reverse

end Salvo
