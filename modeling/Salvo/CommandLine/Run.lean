import Salvo.CommandLine.Host
import Salvo.Keyword.Json
import Salvo.Report.Ranking
import Salvo.Report.Table
import Salvo.Scenario.Parse
import Salvo.Scenario.Run
import Salvo.Scenario.Validate

/-!
# Commands

`simulate` runs a scenario and prints its report, `trace` prints one trial of each combination,
`validate` prints what is found about a scenario, and `keywords` prints what tags do.
-/

namespace Salvo.CommandLine

def usage : String :=
  "usage: mathhammer <simulate|trace|validate|keywords>\n" ++
  "  simulate [scenario] [trials] [seed] [--table|--csv]\n" ++
  "  trace [scenario] [seed] [--events]\n" ++
  "  validate [scenario]\n" ++
  "  keywords <tag>..."

def defaultScenario : String := "scenarios/sample.yaml"

def defaultSettings : String := "mathhammer.yaml"

def settingsVariable : String := "MATHHAMMER_CONFIG"

def positional (args : List String) : List String :=
  args.filter fun a => !"--".isPrefixOf a

def trimmedEnd (s : String) : String := String.ofList (Text.trimEnd s.toList)

/-- A value, and the messages that were written on the way to it. -/
structure Noted (α : Type) where
  value : α
  messages : List String := []

/-- The number of trials: the argument if it is a number, else that of the settings. -/
def trialsOf (arg : Option String) (default : Nat) : Noted Nat :=
  match arg with
  | none => ⟨default, []⟩
  | some value =>
    match Text.readNat? maxWord value.toList with
    | some n => ⟨n, []⟩
    | none => ⟨default, ["invalid trials '" ++ value ++ "', defaulting to " ++ toString default]⟩

def seedOf (arg : Option String) : Noted (Option Nat) :=
  match arg with
  | none => ⟨none, []⟩
  | some value =>
    match Text.readNat? maxWord value.toList with
    | some n => ⟨some n, []⟩
    | none => ⟨none, ["invalid seed '" ++ value ++ "', ignoring"]⟩

section

variable {m : Type → Type} [Monad m]

/-- The seed of the argument, else that of the settings, else a fresh one. -/
def chooseSeed (host : Host m) (arg configured : Option Nat) : m UInt64 :=
  match arg.or configured with
  | some n => pure (UInt64.ofNat n)
  | none => host.freshSeed

/-- The settings of the file and the variables. Without a file they are the defaults. -/
def loadSettings (host : Host m) : m (Except SettingsError Settings) := do
  let path := (← host.lookup settingsVariable).getD defaultSettings
  let trials ← host.lookup Settings.trialsVariable
  let seed ← host.lookup Settings.seedVariable
  let workers ← host.lookup Settings.workersVariable
  let lookup (name : String) : Option String :=
    if name = Settings.trialsVariable then trials
    else if name = Settings.seedVariable then seed
    else workers
  let settings : Except SettingsError Settings :=
    match ← host.file path with
    | .absent _ => .ok {}
    | .unreadable reason => .error (.read path reason)
    | .text s => Settings.parse (isJsonPath path) s
  return settings.bind (·.override lookup)

def loadScenario (host : Host m) (path : String) : m (Except ScenarioError Scenario) := do
  match ← host.file path with
  | .absent reason => return .error (.read path reason)
  | .unreadable reason => return .error (.read path reason)
  | .text s => return Scenario.parse (isJsonPath path) s

/-- Goes on with the settings, or reports why there are none. -/
def withSettings (host : Host m) (next : Settings → m Outcome) : m Outcome := do
  match ← loadSettings host with
  | .ok settings => next settings
  | .error e => return .failure ("configuration error: " ++ e.message)

/-- Goes on with the resolved scenario of a file, or reports why there is none. -/
def withScenario (host : Host m) (path : String) (next : ResolvedScenario → Outcome) :
    m Outcome := do
  let scenario ← loadScenario host path
  match scenario.bind Scenario.resolve with
  | .ok s => return next s
  | .error e => return .failure ("scenario error: " ++ e.message)

def seedLine (seed : UInt64) : String := "seed: " ++ toString seed.toNat

def bestLine (r : Report Float) : String :=
  match r.ranked with
  | [] => ""
  | row :: _ =>
    "best: " ++ row.attacker ++ " / " ++ row.defender ++ " -> " ++ row.weapon ++
      " (kill chance " ++ Decimal.fixedText 3 row.result.stats.killChance ++ ", mean damage " ++
      Decimal.fixedText 2 row.result.damage ++ ")\n"

def printReport (args : List String) (r : Report Float) : Outcome :=
  if args.contains "--csv" then .success (trimmedEnd r.csv)
  else if args.contains "--table" then ⟨0, r.table ++ bestLine r, ""⟩
  else .success (trimmedEnd r.jsonText)

def simulate (host : Host m) (args : List String) : m Outcome :=
  withSettings host fun settings => do
    let names := positional args
    let trials := trialsOf names[1]? settings.trials
    let seedArg := seedOf names[2]?
    let seed ← chooseSeed host seedArg.value settings.seed
    let outcome ← withScenario host (names.headD defaultScenario) fun s =>
      let report? := s.report? Float { settings with trials := trials.value } seed
      (report?.elim .overflow (printReport args)).after [seedLine seed]
    return outcome.after (trials.messages ++ seedArg.messages)

/-- Prints traces, or only their events if an option asks for that. -/
def printTraces (args : List String) (traces : List TracedTrial) : Outcome :=
  if args.contains "--events" then
    .success (trimmedEnd (CombatEvent.listText (traces.flatMap (·.events))))
  else .success (trimmedEnd (Json.array (traces.map TracedTrial.toJson)).pretty)

def trace (host : Host m) (args : List String) : m Outcome :=
  withSettings host fun settings => do
    let names := positional args
    let seedArg := seedOf names[1]?
    let seed ← chooseSeed host seedArg.value settings.seed
    let outcome ← withScenario host (names.headD defaultScenario) fun s =>
      ((s.trace? settings seed).elim .overflow (printTraces args)).after [seedLine seed]
    return outcome.after seedArg.messages

/-- Prints findings, and whether the scenario of a file can be run. -/
def printFindings (path : String) (r : ValidationReport) : Outcome :=
  let outcome : Outcome :=
    if r.hasErrors then
      .failure ("validation failed: " ++ toString (r.count .error) ++ " error(s), " ++
        toString (r.count .warning) ++ " warning(s)")
    else .success ("validation passed: " ++ path)
  outcome.after (r.sorted.map fun d => "- " ++ d.text)

def validate (host : Host m) (args : List String) : m Outcome := do
  let path := (positional args).headD defaultScenario
  match ← loadScenario host path with
  | .ok s => return printFindings path s.validate
  | .error e => return .failure ("validation failed: " ++ e.message)

def keywords (tags : List String) : Outcome :=
  if tags.isEmpty then .misuse "usage: mathhammer keywords <tag>..."
  else .success (trimmedEnd (Keyword.summary tags).pretty)

def run (host : Host m) : List String → m Outcome
  | "simulate" :: args => simulate host args
  | "trace" :: args => trace host args
  | "validate" :: args => validate host args
  | "keywords" :: tags => return keywords tags
  | _ => return .misuse usage

end

end Salvo.CommandLine
