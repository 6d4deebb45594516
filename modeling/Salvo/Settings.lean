import Salvo.Json.Reader
import Salvo.Scenario.Basic
import Salvo.Yaml.Reader

/-!
# Settings

How many trials a run makes, on which seed, with how many workers and in how many chunks. Settings
come from a file, in which every field has a default, and from variables that override it.
-/

namespace Salvo

def maxTrials : Nat := 100000

structure Settings where
  trials : Nat := 1000
  seed : Option Nat := none
  /-- The number of workers; zero for as many as there are. -/
  workers : Nat := 0
  /-- The number of chunks that a batch is divided into. -/
  progressReports : Nat := 100
  feelNoPain : FeelNoPainMode := .perInstance
deriving DecidableEq, Repr

inductive SettingsError where
  | read (path reason : String)
  | json
  | yaml
  | invalidVariable (name value : String)
deriving DecidableEq, Repr

def SettingsError.message : SettingsError → String
  | read path reason => "failed to read settings file '" ++ path ++ "': " ++ reason
  | json => "failed to parse settings JSON: not settings"
  | yaml => "failed to parse settings YAML: not settings"
  | invalidVariable name value =>
    "environment variable " ++ name ++ " has invalid value '" ++ value ++ "'"

namespace Settings

def clampedTrials (s : Settings) : Nat := max 1 (min s.trials maxTrials)

theorem one_le_clampedTrials (s : Settings) : 1 ≤ s.clampedTrials := Nat.le_max_left ..

theorem clampedTrials_le (s : Settings) : s.clampedTrials ≤ maxTrials := by
  simp only [clampedTrials, maxTrials]; omega

def fieldNames : List FieldNames :=
  [["trials"], ["seed"], ["workers"], ["progress_reports"], ["feel_no_pain"]]

open DataFormat in
def read? {ν : Type} [DataFormat ν] (v : ν) : Option Settings := do
  let defaults : Settings := {}
  match ← fields? fieldNames v with
  | [trials, seed, workers, progressReports, feelNoPain] =>
    return {
      trials := ← withDefault? defaults.trials nat? trials
      seed := ← optional? nat? seed
      workers := ← withDefault? defaults.workers nat? workers
      progressReports := ← withDefault? defaults.progressReports nat? progressReports
      feelNoPain := ← withDefault? defaults.feelNoPain FeelNoPainMode.read? feelNoPain }
  | _ => none

/-- Reads the text of a settings file. In YAML a blank text stands for the defaults. -/
def parse (isJson : Bool) (text : String) : Except SettingsError Settings :=
  if isJson then
    match (Json.parse? text).bind read? with
    | some s => .ok s
    | none => .error .json
  else if (Text.trim text.toList).isEmpty then .ok {}
  else
    match (Yaml.parse? text).bind read? with
    | some s => .ok s
    | none => .error .yaml

def trialsVariable : String := "MATHHAMMER_TRIALS"

def seedVariable : String := "MATHHAMMER_SEED"

def workersVariable : String := "MATHHAMMER_WORKERS"

def readVariable (name value : String) : Except SettingsError Nat :=
  match Text.readNat? maxWord (Text.trim value.toList) with
  | some n => .ok n
  | none => .error (.invalidVariable name value)

def overrideOf (lookup : String → Option String) (name : String) :
    Except SettingsError (Option Nat) :=
  match lookup name with
  | some value => (readVariable name value).map some
  | none => .ok none

def override (s : Settings) (lookup : String → Option String) : Except SettingsError Settings := do
  let trials ← overrideOf lookup trialsVariable
  let seed ← overrideOf lookup seedVariable
  let workers ← overrideOf lookup workersVariable
  return {
    s with
    trials := trials.getD s.trials
    seed := seed.or s.seed
    workers := workers.getD s.workers }

end Settings

end Salvo
