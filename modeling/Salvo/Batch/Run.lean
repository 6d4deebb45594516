import Salvo.Attack.Checked
import Salvo.Batch.Chunks
import Salvo.Batch.Seed
import Salvo.Dice.Generator

/-!
# Batches of trials

A batch is a number of trials on the dice of one seed. In chunks, each chunk has its own seed. `runBatch?`
and `runBatchChunked?` are what runs; their trials are checked, so they may have no result.
-/

namespace Salvo

def runBatch (w : WeaponProfile) (d : DefenderProfile) (config : AttackConfig) (n : Nat)
    (seed : UInt64) : List Trial :=
  ((trials w d config n).run (Generator.ofSeed seed)).1

def runBatchChunked (w : WeaponProfile) (d : DefenderProfile) (config : AttackConfig) (n : Nat)
    (seed : UInt64) (chunks : Nat) (schedule : Schedule) : ChunkedRun Trial :=
  runChunks n (max chunks 1) schedule fun i r => runBatch w d config r.size (chunkSeed seed i)

def runBatch? (w : WeaponProfile) (d : DefenderProfile) (config : AttackConfig) (n : Nat)
    (seed : UInt64) : Option (List Trial) :=
  ((Checked.trials w d config n).run (Generator.ofSeed seed)).map (·.1)

def runBatchChunked? (w : WeaponProfile) (d : DefenderProfile) (config : AttackConfig) (n : Nat)
    (seed : UInt64) (chunks : Nat) (schedule : Schedule) : Option (ChunkedRun Trial) :=
  runChunks? n (max chunks 1) schedule fun i r => runBatch? w d config r.size (chunkSeed seed i)

end Salvo
