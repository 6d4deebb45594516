import Salvo.Attack.Trial
import Salvo.Json.Writer

/-!
# Traces

A trace collects events, unless it is disabled. A traced trial records one event for each stage of
the attack; the trial itself is the same with and without a trace.
-/

namespace Salvo

/-- Something that happened: its kind, the stage it belongs to and some values by name. -/
structure CombatEvent where
  eventType : String
  phase : String
  values : List (String × Json)

namespace CombatEvent

/-- The event as a JSON value; its values are in the order of their names. -/
def toJson (e : CombatEvent) : Json :=
  .object [("event_type", .text e.eventType), ("phase", .text e.phase),
    ("values", (Json.object e.values).sorted)]

def listText (events : List CombatEvent) : String := (Json.array (events.map toJson)).pretty

end CombatEvent

/-- Events in the order in which they were recorded, or nothing at all. -/
structure Trace where
  enabled : Bool
  events : List CombatEvent := []

namespace Trace

def record (t : Trace) (e : CombatEvent) : Trace :=
  if t.enabled then { t with events := t.events ++ [e] } else t

def recordAll (t : Trace) (es : List CombatEvent) : Trace := es.foldl record t

@[simp] theorem record_disabled {t : Trace} (h : t.enabled = false) (e : CombatEvent) :
    t.record e = t := by
  simp [record, h]

theorem recordAll_disabled {t : Trace} (h : t.enabled = false) (es : List CombatEvent) :
    t.recordAll es = t := by
  induction es with
  | nil => rfl
  | cons e es ih => simpa [recordAll, record_disabled h] using ih

theorem recordAll_enabled {t : Trace} (h : t.enabled = true) (es : List CombatEvent) :
    t.recordAll es = { t with events := t.events ++ es } := by
  induction es generalizing t with
  | nil => simp [recordAll]
  | cons e es ih =>
    have : t.recordAll (e :: es) = (t.record e).recordAll es := rfl
    rw [this, ih (by simp [record, h])]
    simp [record, h]

end Trace

def HitOutcome.fields (o : HitOutcome) : List (String × Json) :=
  [("attacks", .int o.attacks), ("target", .int o.target), ("hits", .int o.hits),
    ("critical_hits", .int o.criticalHits), ("auto_wounds", .int o.autoWounds)]

def WoundOutcome.fields (o : WoundOutcome) : List (String × Json) :=
  [("target", .int o.target), ("critical_at", .int o.criticalAt), ("wounds", .int o.wounds),
    ("critical_wounds", .int o.criticalWounds), ("mortal_wounds", .int o.mortalWounds)]

def SaveOutcome.fields (o : SaveOutcome) : List (String × Json) :=
  [("target", .int o.target), ("failed", .int o.failed)]

def DamageOutcome.fields (o : DamageOutcome) : List (String × Json) :=
  [("damage", .int o.damage), ("negated", .int o.negated),
    ("models_destroyed", .int o.modelsDestroyed)]

def Trial.fields (t : Trial) : List (String × Json) :=
  [("attacks", .int t.attacks), ("hits", .int t.hits), ("wounds", .int t.wounds),
    ("mortal_wounds", .int t.mortalWounds), ("failed_saves", .int t.failedSaves),
    ("damage", .int t.damage), ("models_destroyed", .int t.modelsDestroyed)]

def phaseEvent (phase : String) (values : List (String × Json)) : CombatEvent :=
  ⟨"phase_resolved", phase, values⟩

def Outcomes.events (o : Outcomes) : List CombatEvent :=
  [phaseEvent "hit" o.hit.fields, phaseEvent "wound" o.wound.fields,
    phaseEvent "save" o.save.fields, phaseEvent "damage" o.damage.fields]

/-- Resolves an attack stage by stage, records each stage as soon as it is resolved, and sums the
attack up. -/
def tracedTrial {σ : Type} [DiceSource σ] (w : WeaponProfile) (d : DefenderProfile)
    (config : AttackConfig) (trace : Trace) : StateM σ (Trial × Trace) := do
  let hit ← resolveHits w d config.engagement
  let trace := trace.record (phaseEvent "hit" hit.fields)
  let wound ← resolveWounds hit.hits w d
  let trace := trace.record (phaseEvent "wound" wound.fields)
  let save ← resolveSaves (wound.wounds + hit.autoWounds) w d
  let trace := trace.record (phaseEvent "save" save.fields)
  let damage ← resolveDamage save.failed wound.mortalWounds w d config
  let trace := trace.record (phaseEvent "damage" damage.fields)
  return (Outcomes.trial ⟨hit, wound, save, damage⟩, trace)

end Salvo
