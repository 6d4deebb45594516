import Salvo.Attack.Trial
import Salvo.Scalar

/-!
# Summaries of batches

The distribution of the damage over a batch, the rates at which models fall, and the mean of each
stage. Percentiles are taken from the sorted sample, so they are damages that occurred.
-/

namespace Salvo

/-- The distribution of damage, and how often models fall. -/
structure Stats (α : Type) where
  mean : α
  median : α
  std : α
  min : α
  max : α
  p25 : α
  p75 : α
  p90 : α
  p95 : α
  /-- The part of the trials that destroyed a model. -/
  killChance : α
  /-- The part of the trials that destroyed all models. -/
  wipeChance : α
  meanModelsDestroyed : α

/-- The means of the stages, and the distribution of the damage. -/
structure WeaponResult (α : Type) where
  hits : α
  wounds : α
  failedSaves : α
  damage : α
  stats : Stats α

section

variable {α : Type} [Scalar α]

def Stats.zero : Stats α :=
  let z : α := Scalar.ofCount 0
  ⟨z, z, z, z, z, z, z, z, z, z, z, z⟩

def WeaponResult.zero : WeaponResult α :=
  let z : α := Scalar.ofCount 0
  ⟨z, z, z, z, .zero⟩

def meanOf (counts : List Nat) : α :=
  Scalar.sum (counts.map Scalar.ofCount) / Scalar.ofCount counts.length

def varianceOf (mean : α) (counts : List Nat) : α :=
  Scalar.sum (counts.map fun n =>
    let delta := Scalar.ofCount n - mean
    delta * delta) / Scalar.ofCount counts.length

/-- The index of a percentile in a sorted sample of size `n`. -/
def percentileIndex (n percent : Nat) : Nat := Nat.min (n * percent / 100) (n - 1)

def sortedDamage (results : List Trial) : List Nat :=
  (results.map Trial.damage).mergeSort fun a b => decide (a ≤ b)

/-- The number of trials that destroyed at least `models` models. -/
def destroying (models : Nat) (results : List Trial) : Nat :=
  results.countP fun r => models ≤ r.modelsDestroyed

/-- The statistics of trials. Without a number of models nothing counts as wiped out. -/
def computeStats (results : List Trial) (models : Option Nat) : Stats α :=
  if results.isEmpty then .zero
  else
    let n := results.length
    let sorted := sortedDamage results
    let sample := sorted.toArray
    let nth (i : Nat) : α := Scalar.ofCount (sample.getD i 0)
    let rate (k : Nat) : α := Scalar.ofCount k / Scalar.ofCount n
    let mean : α := meanOf sorted
    { mean
      median := nth (n / 2)
      std := Scalar.spread (varianceOf mean sorted)
      min := nth 0
      max := nth (n - 1)
      p25 := nth (percentileIndex n 25)
      p75 := nth (percentileIndex n 75)
      p90 := nth (percentileIndex n 90)
      p95 := nth (percentileIndex n 95)
      killChance := rate (destroying 1 results)
      wipeChance := rate (match models with
        | some m => destroying m results
        | none => 0)
      meanModelsDestroyed := rate ((results.map Trial.modelsDestroyed).foldl (· + ·) 0) }

def summarize (results : List Trial) (models : Option Nat) : WeaponResult α :=
  if results.isEmpty then .zero
  else
    { hits := meanOf (results.map Trial.hits)
      wounds := meanOf (results.map Trial.wounds)
      failedSaves := meanOf (results.map Trial.failedSaves)
      damage := meanOf (results.map Trial.damage)
      stats := computeStats results models }

end

end Salvo
