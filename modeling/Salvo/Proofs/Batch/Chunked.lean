import Salvo.Proofs.Batch.Pool
import Salvo.Proofs.Batch.Stream

/-!
# Batches in chunks

A batch in chunks is the batches of its chunks in a row, whoever runs them and in whatever order they
finish. The sizes of the chunks add up to that of the batch.
-/

namespace Salvo

section Ranges

theorem rangeStart_le_succ (total count index : Nat) :
    rangeStart total count index ≤ rangeStart total count (index + 1) := by
  have hextra : min index (total % count) ≤ min (index + 1) (total % count) := by omega
  exact Nat.add_le_add (Nat.mul_le_mul_right _ (Nat.le_succ index)) hextra

theorem sum_sizes_eq_rangeStart (total count n : Nat) :
    ((List.range n).map fun i => rangeStart total count (i + 1) - rangeStart total count i).sum =
      rangeStart total count n := by
  induction n with
  | zero => exact (rangeStart_zero total count).symm
  | succ n ih =>
      have hle := rangeStart_le_succ total count n
      rw [List.range_succ, List.map_append, List.sum_append, ih, List.map_singleton,
        List.sum_singleton]
      omega

theorem sum_size_ranges (total : Nat) {count : Nat} (h : 0 < count) :
    ((ranges total count).map Range.size).sum = total := by
  cases Nat.eq_zero_or_pos total with
  | inl hzero =>
      subst hzero
      rw [ranges_zero_left]
      rfl
  | inr hpos =>
      have hcount : 0 < min count total := by omega
      calc ((ranges total count).map Range.size).sum
          = rangeStart total (min count total) (min count total) := by
            rw [ranges, List.map_map]
            exact sum_sizes_eq_rangeStart total _ _
        _ = total := rangeStart_count total hcount

end Ranges

section Chunks

variable {α : Type}

theorem chunkResults_whole (rs : List Range) (run : Nat → Range → List α) :
    chunkResults rs .whole run = (rs.mapIdx run).map some := by
  refine List.ext_getElem? fun i => ?_
  rw [chunkResults, List.getElem?_mapIdx, List.getElem?_map, List.getElem?_mapIdx, Option.map_map]
  rfl

theorem ofChunks_map_some (parts : List (List α)) :
    ChunkedRun.ofChunks (parts.map some) = ⟨parts.flatten, 0⟩ := by
  have hcount : (parts.map some).countP (·.isNone) = 0 := by
    rw [List.countP_eq_zero]
    intro o ho
    obtain ⟨part, -, rfl⟩ := List.mem_map.1 ho
    exact Bool.false_ne_true
  rw [ChunkedRun.ofChunks, hcount, List.filterMap_map]
  exact congrArg (fun l => ChunkedRun.mk (List.flatten l) 0) List.filterMap_some

theorem runChunks_whole (total count : Nat) (run : Nat → Range → List α) :
    runChunks total count .whole run = ⟨((ranges total count).mapIdx run).flatten, 0⟩ := by
  rw [runChunks, chunkResults_whole, ofChunks_map_some]

theorem runChunks_eq_whole {total count : Nat} {schedule : Schedule} {run : Nat → Range → List α}
    (h : (runChunks total count schedule run).cancelled = false) :
    runChunks total count schedule run = runChunks total count .whole run := by
  rw [runChunks, runChunks, chunkResults_eq_whole h]

theorem PoolJob.threads_ofBatch_pos {total count workers : Nat} {run : Nat → Range → List α} :
    ∀ t ∈ (PoolJob.ofBatch total count workers run).threads, 0 < t := by
  intro t ht
  simp only [PoolJob.ofBatch, threadsFor] at ht
  split at ht
  · cases ht
  · cases ht
    exact Nat.le_max_right _ 1

end Chunks

section Batch

variable (w : WeaponProfile) (d : DefenderProfile) (config : AttackConfig) (n : Nat) (seed : UInt64)

theorem runBatchChunked_whole (chunks : Nat) :
    runBatchChunked w d config n seed chunks .whole =
      ⟨((ranges n (max chunks 1)).mapIdx fun i r =>
        runBatch w d config r.size (chunkSeed seed i)).flatten, 0⟩ :=
  runChunks_whole ..

end Batch

end Salvo
