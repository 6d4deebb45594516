import Salvo.Batch.Run
import Salvo.Report.Keys
import Salvo.Scenario.Resolve
import Salvo.Settings

/-!
# Running scenarios

A run makes a batch of trials for each combination of attacker, defender and weapon and collects the
summaries in a report. A batch that is cancelled ends the run; what it did so far is not reported.
Tracing makes one trial for each combination, on the seed of its batch.

`run?` and `trace?` are what runs. They check the arithmetic of all their trials and have no result if a
number leaves its type; `run` and `trace` are the same in exact numbers.
-/

namespace Salvo

/-- A weapon of an attacker against a defender. -/
structure Combination where
  attacker : String
  defender : DefenderProfile
  weapon : WeaponProfile
  /-- What the weapon is called in reports. -/
  key : String

namespace Combination

def seed (c : Combination) (base : UInt64) : UInt64 :=
  stableSeed base [c.attacker, c.defender.name, c.key]

def batch (c : Combination) (config : AttackConfig) (settings : Settings) (base : UInt64)
    (schedule : Schedule) : ChunkedRun Trial :=
  runBatchChunked c.weapon c.defender config settings.clampedTrials (c.seed base)
    (max settings.progressReports 1) schedule

def batch? (c : Combination) (config : AttackConfig) (settings : Settings) (base : UInt64)
    (schedule : Schedule) : Option (ChunkedRun Trial) :=
  runBatchChunked? c.weapon c.defender config settings.clampedTrials (c.seed base)
    (max settings.progressReports 1) schedule

end Combination

namespace Attacker

def keyed (a : Attacker) : List (WeaponProfile × String) :=
  a.weapons.zip (weaponKeys (a.weapons.map (·.name)))

/-- The combinations of the attacker's weapons with a defender. -/
def against (a : Attacker) (d : DefenderProfile) : List Combination :=
  a.keyed.map fun (w, key) => ⟨a.name, d, w, key⟩

end Attacker

namespace ResolvedScenario

/-- All pairs of an attacker and a defender, in the order of a run. -/
def pairs (s : ResolvedScenario) : List (Attacker × DefenderProfile) :=
  s.attackers.flatMap fun a => s.defenders.map fun d => (a, d)

def combinations (s : ResolvedScenario) : List Combination :=
  s.pairs.flatMap fun (a, d) => a.against d

def config (s : ResolvedScenario) (settings : Settings) : AttackConfig :=
  ⟨s.engagement, settings.feelNoPain⟩

end ResolvedScenario

/-- The state of a run. -/
structure ScenarioRun (α : Type) where
  report : Report α
  /-- A batch was cancelled, which ended the run. -/
  cancelled : Bool
  progress : Progress
  /-- The number of batches that have begun. -/
  begun : Nat

namespace ScenarioRun

variable {α : Type} [Scalar α]

/-- Adds the batch of a combination that has been made with a schedule, and its mean damage to that of
the weapons before. -/
def addBatch (settings : Settings) (schedule : Schedule) (state : ScenarioRun α × α) (c : Combination)
    (batch : ChunkedRun Trial) : ScenarioRun α × α :=
  let (run, total) := state
  let progress := run.progress.through settings.clampedTrials (max settings.progressReports 1) schedule
  if batch.cancelled then
    ({ run with cancelled := true, progress, begun := run.begun + 1 }, total)
  else
    let result : WeaponResult α := summarize batch.items (some c.defender.models)
    let report := run.report.insert c.attacker c.defender.name c.key result
    (⟨report, false, progress, run.begun + 1⟩, total + result.damage)

/-- Estimates the models of a defender that fall to an attacker, unless the run has ended. -/
def closePair (a : Attacker) (d : DefenderProfile) (state : ScenarioRun α × α) : ScenarioRun α :=
  let (run, total) := state
  if run.cancelled then run
  else { run with report := run.report.setKills a.name d.name (approximateKills total d) }

section

variable (config : AttackConfig) (settings : Settings) (base : UInt64) (schedules : Nat → Schedule)

/-- Makes the batch of a combination, unless the run has ended. `schedules` gives each batch, by its
number, the chunks that are skipped. -/
def addCombination (state : ScenarioRun α × α) (c : Combination) : ScenarioRun α × α :=
  if state.1.cancelled then state
  else
    let schedule := schedules state.1.begun
    addBatch settings schedule state c (c.batch config settings base schedule)

/-- Makes the batches of an attacker's weapons against a defender, and then estimates the models that
fall. -/
def addPair (run : ScenarioRun α) (pair : Attacker × DefenderProfile) : ScenarioRun α :=
  closePair pair.1 pair.2
    ((pair.1.against pair.2).foldl (addCombination config settings base schedules)
      (run, Scalar.ofCount 0))

def addCombination? (state : ScenarioRun α × α) (c : Combination) : Option (ScenarioRun α × α) :=
  if state.1.cancelled then some state
  else do
    let schedule := schedules state.1.begun
    let batch ← c.batch? config settings base schedule
    return addBatch settings schedule state c batch

def addPair? (run : ScenarioRun α) (pair : Attacker × DefenderProfile) : Option (ScenarioRun α) := do
  let state ← (pair.1.against pair.2).foldlM (addCombination? config settings base schedules)
    (run, Scalar.ofCount 0)
  return closePair pair.1 pair.2 state

end

end ScenarioRun

namespace ResolvedScenario

def run (α : Type) [Scalar α] (s : ResolvedScenario) (settings : Settings) (base : UInt64)
    (schedules : Nat → Schedule) (progress : Progress) : ScenarioRun α :=
  s.pairs.foldl (.addPair (s.config settings) settings base schedules)
    ⟨.empty, false, progress, 0⟩

def report (α : Type) [Scalar α] (s : ResolvedScenario) (settings : Settings) (base : UInt64) :
    Report α :=
  (s.run α settings base (fun _ => .whole) {}).report

def run? (α : Type) [Scalar α] (s : ResolvedScenario) (settings : Settings) (base : UInt64)
    (schedules : Nat → Schedule) (progress : Progress) : Option (ScenarioRun α) :=
  s.pairs.foldlM (ScenarioRun.addPair? (s.config settings) settings base schedules)
    ⟨.empty, false, progress, 0⟩

def report? (α : Type) [Scalar α] (s : ResolvedScenario) (settings : Settings) (base : UInt64) :
    Option (Report α) :=
  (s.run? α settings base (fun _ => .whole) {}).map (·.report)

end ResolvedScenario

structure TracedTrial where
  combination : Combination
  seed : UInt64
  result : Trial
  events : List CombatEvent

namespace TracedTrial

def ofCombination (config : AttackConfig) (base : UInt64) (c : Combination) : TracedTrial :=
  let seed := c.seed base
  let ((result, trace), _) :=
    (tracedTrial c.weapon c.defender config ⟨true, []⟩).run (Generator.ofSeed seed)
  ⟨c, seed, result, trace.events⟩

def ofCombination? (config : AttackConfig) (base : UInt64) (c : Combination) : Option TracedTrial := do
  let seed := c.seed base
  let ((result, trace), _) ←
    (Checked.tracedTrial c.weapon c.defender config ⟨true, []⟩).run (Generator.ofSeed seed)
  return ⟨c, seed, result, trace.events⟩

def toJson (t : TracedTrial) : Json :=
  .object [("attacker", .text t.combination.attacker),
    ("defender", .text t.combination.defender.name), ("weapon", .text t.combination.key),
    ("seed", .int t.seed.toNat), ("result", .object t.result.fields),
    ("events", .array (t.events.map CombatEvent.toJson))]

end TracedTrial

/-- One traced trial for each combination, in the order of a run. -/
def ResolvedScenario.trace (s : ResolvedScenario) (settings : Settings) (base : UInt64) :
    List TracedTrial :=
  s.combinations.map (.ofCombination (s.config settings) base)

def ResolvedScenario.trace? (s : ResolvedScenario) (settings : Settings) (base : UInt64) :
    Option (List TracedTrial) :=
  s.combinations.mapM (TracedTrial.ofCombination? (s.config settings) base)

end Salvo
