import Salvo.Attack.Trace

/-!
# Checked attacks

An attack counts, adds and subtracts within the types of its numbers: totals of dice and damages are
integers of 64 bits, modifiers are integers and counts natural numbers of 32 bits. What runs checks each
of these operations. A `Checked` action has no result if one of them leaves its type, and the whole
command ends there. Operations that stop at their bounds need no check.

The stages are those of an attack, with the checks in the order of their operations.
-/

namespace Salvo

/-- An action that takes faces from a source and can fail. -/
abbrev Checked (σ α : Type) := StateT σ Option α

namespace Checked

section Arithmetic

variable {σ τ α : Type}

/-- An action that does no arithmetic that could fail. -/
def lift (x : StateM σ α) : Checked σ α := fun s => some (x.run s)

def within (lo hi n : Int) : Checked σ Int := if lo ≤ n ∧ n ≤ hi then pure n else failure

def long (n : Int) : Checked σ Int := within minLong maxLong n

def stat (n : Int) : Checked σ Int := within minStat maxStat n

def count (n : Int) : Checked σ Nat := Int.toNat <$> within 0 maxCount n

def stepIf (applies : Bool) (n step : Int) : Checked σ Int :=
  if applies then stat (n + step) else pure n

@[specialize] def times (step : τ → Checked σ τ) : Nat → τ → Checked σ τ
  | 0, t => pure t
  | n + 1, t => do
    let t ← step t
    times step n t

end Arithmetic

section Stages

variable {σ : Type} [DiceSource σ]

def addFaces (sides : Nat) : Nat → Int → Checked σ Int
  | 0, total => pure total
  | n + 1, total => do
    let face ← lift (DiceSource.roll sides)
    let next ← long (total + face)
    addFaces sides n next

def roll (e : DiceExpr) : Checked σ Nat := do
  let n ← addFaces e.sides e.count e.modifier
  return toCount n

def attackCount (w : WeaponProfile) (d : DefenderProfile) (e : Engagement) : Checked σ Nat := do
  let rolled ← roll w.attacks
  let each := if e.halfRange then addCount rolled (w.effects.rapidFire.getD 0) else rolled
  let all := mulCount each w.amount
  return if w.effects.blast then addCount all (d.models / blastModels) else all

def hitTarget (w : WeaponProfile) (d : DefenderProfile) (e : Engagement) : Checked σ Int := do
  let both ← stat (w.effects.hitModifier + d.effects.hitModifier)
  let steady ← stepIf (!w.isMelee && w.effects.heavy && e.stationary) both 1
  let modifier ← stepIf (!w.isMelee && d.effects.stealth) steady (-1)
  return toStat (w.toHit - modifier)

def extraHits (fx : WeaponEffects) : Checked σ Nat :=
  match fx.sustainedHits with
  | some e => roll e
  | none => pure 0

def countCritical (fx : WeaponEffects) (t : HitTally) : Checked σ HitTally := do
  let hit ← count (t.hits + 1)
  let critical ← count (t.criticalHits + 1)
  let extra ← extraHits fx
  let hits := if fx.sustainedHits.isSome then addCount hit extra else hit
  if fx.lethalHits then
    let kept ← count (hits - 1)
    let wounds ← count (t.autoWounds + 1)
    return ⟨kept, critical, wounds⟩
  else return ⟨hits, critical, t.autoWounds⟩

def countHit (fx : WeaponEffects) (target : Int) (t : HitTally) : Checked σ HitTally := do
  let roll ← lift (hitRoll fx target)
  if fallsShort roll target then return t
  else if roll < criticalRoll then
    let hits ← count (t.hits + 1)
    return { t with hits }
  else countCritical fx t

def resolveHits (w : WeaponProfile) (d : DefenderProfile) (e : Engagement) :
    Checked σ HitOutcome := do
  let attacks ← attackCount w d e
  let target ← hitTarget w d e
  if w.effects.torrent then return ⟨attacks, target, attacks, 0, 0⟩
  else
    let t ← times (countHit w.effects target) attacks {}
    return ⟨attacks, target, t.hits, t.criticalHits, t.autoWounds⟩

def woundTarget (w : WeaponProfile) (d : DefenderProfile) : Checked σ Int := do
  let both ← stat (w.effects.woundModifier + d.effects.woundModifier)
  let modifier ← stepIf (w.effects.lance && w.isMelee) both 1
  return toStat (woundTable w.strength d.toughness - modifier)

def addWound (t : WoundTally) (devastating : Bool) (roll : Nat) (target : Int) (criticalAt : Nat) :
    Checked σ WoundTally :=
  if !isWound roll target criticalAt then return t
  else if roll < criticalAt then do
    let wounds ← count (t.wounds + 1)
    return { t with wounds }
  else do
    let criticalWounds ← count (t.criticalWounds + 1)
    if devastating then
      let mortalWounds ← count (t.mortalWounds + 1)
      return { t with criticalWounds, mortalWounds }
    else
      let wounds ← count (t.wounds + 1)
      return { t with criticalWounds, wounds }

def countWound (fx : WeaponEffects) (target : Int) (criticalAt : Nat) (t : WoundTally) :
    Checked σ WoundTally := do
  let roll ← lift (woundRoll fx target criticalAt)
  addWound t fx.devastatingWounds roll target criticalAt

def resolveWounds (hits : Nat) (w : WeaponProfile) (d : DefenderProfile) :
    Checked σ WoundOutcome := do
  let target ← woundTarget w d
  let t ← times (countWound w.effects target (criticalWound w d)) hits {}
  return ⟨target, criticalWound w d, t.wounds, t.criticalWounds, t.mortalWounds⟩

/-- The modifiers of a save; the rest of the target number stops at its bounds. -/
def saveTarget (w : WeaponProfile) (d : DefenderProfile) : Checked σ Int := do
  let _ ← stat (w.effects.saveModifier + d.effects.saveModifier)
  return Salvo.saveTarget w d

/-- Saves are counted in a wider type. -/
def resolveSaves (wounds : Nat) (w : WeaponProfile) (d : DefenderProfile) : Checked σ SaveOutcome := do
  let target ← saveTarget w d
  lift (resolveSavesAt target wounds)

def damageInstance (w : WeaponProfile) (d : DefenderProfile) (e : Engagement) : Checked σ Nat := do
  let rolled ← roll w.damage
  let amount ← long (rolled + w.effects.damageModifier)
  if e.halfRange then
    let amount ← long (amount + (w.effects.melta.getD 0 : Nat))
    return mitigated d.effects (toCount amount)
  else return mitigated d.effects (toCount amount)

def take (c : Casualties) (wounds rolled dealt : Nat) : Checked σ Casualties := do
  let stopped ← count (rolled - dealt)
  let damage := addCount c.outcome.damage dealt
  let negated := addCount c.outcome.negated stopped
  let left := applyDamage c.woundsLeft dealt
  if left = 0 then
    let destroyed ← count (c.outcome.modelsDestroyed + 1)
    let models ← count (c.modelsLeft - 1)
    return ⟨⟨damage, negated, destroyed⟩, models, wounds⟩
  else return ⟨⟨damage, negated, c.outcome.modelsDestroyed⟩, c.modelsLeft, left⟩

def allocate (w : WeaponProfile) (d : DefenderProfile) (config : AttackConfig) :
    Nat → Casualties → Checked σ Casualties
  | 0, c => pure c
  | n + 1, c =>
    if c.modelsLeft = 0 then pure c
    else do
      let rolled ← damageInstance w d config.engagement
      let dealt ← lift (feelNoPain rolled d.effects.feelNoPain config.feelNoPain)
      let c ← take c d.wounds rolled dealt
      allocate w d config n c

def resolveDamage (failed mortal : Nat) (w : WeaponProfile) (d : DefenderProfile)
    (config : AttackConfig) : Checked σ DamageOutcome := do
  let c ← allocate w d config (addCount failed mortal) (.start d)
  return c.outcome

/-- The summary of an attack; its wounds are added up once more. -/
def summary (o : Outcomes) : Checked σ Trial := do
  let rolled ← count (o.wound.wounds + o.wound.mortalWounds)
  let wounds ← count (rolled + o.hit.autoWounds)
  return { o.trial with wounds }

def trial (w : WeaponProfile) (d : DefenderProfile) (config : AttackConfig) : Checked σ Trial := do
  let hit ← resolveHits w d config.engagement
  let wound ← resolveWounds hit.hits w d
  let toSave ← count (wound.wounds + hit.autoWounds)
  let save ← resolveSaves toSave w d
  let damage ← resolveDamage save.failed wound.mortalWounds w d config
  summary ⟨hit, wound, save, damage⟩

/-- Resolves an attack stage by stage, records each stage as soon as it is resolved, and sums the
attack up. -/
def tracedTrial (w : WeaponProfile) (d : DefenderProfile) (config : AttackConfig) (trace : Trace) :
    Checked σ (Trial × Trace) := do
  let hit ← resolveHits w d config.engagement
  let trace := trace.record (phaseEvent "hit" hit.fields)
  let wound ← resolveWounds hit.hits w d
  let trace := trace.record (phaseEvent "wound" wound.fields)
  let toSave ← count (wound.wounds + hit.autoWounds)
  let save ← resolveSaves toSave w d
  let trace := trace.record (phaseEvent "save" save.fields)
  let damage ← resolveDamage save.failed wound.mortalWounds w d config
  let trace := trace.record (phaseEvent "damage" damage.fields)
  let result ← summary ⟨hit, wound, save, damage⟩
  return (result, trace)

/-- Adds a number of trials in front of those that are there. -/
def addTrials (w : WeaponProfile) (d : DefenderProfile) (config : AttackConfig) :
    Nat → List Trial → Checked σ (List Trial)
  | 0, done => pure done
  | n + 1, done => do
    let result ← trial w d config
    addTrials w d config n (result :: done)

def trials (w : WeaponProfile) (d : DefenderProfile) (config : AttackConfig) (n : Nat) :
    Checked σ (List Trial) := do
  let done ← addTrials w d config n []
  return done.reverse

end Stages

end Checked

end Salvo
