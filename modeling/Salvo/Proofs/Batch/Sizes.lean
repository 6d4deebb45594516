import Mathlib.Data.List.Induction
import Salvo.Proofs.Batch.Chunked

/-!
# Sizes of chunks

A counter that is advanced by the sizes of chunks goes through their partial sums. The sizes of the
chunks that are run add up to the number of results, and to no more than the size of the batch.
-/

namespace Salvo

section Sums

theorem partialSums_append_singleton (sizes : List Nat) (n : Nat) :
    (sizes ++ [n]).partialSums = sizes.partialSums ++ [sizes.sum + n] := by
  have hsum : sizes.foldl (· + ·) 0 = sizes.sum := List.sum_eq_foldl.symm
  change (sizes ++ [n]).scanl (· + ·) 0 = _
  rw [List.scanl_append, hsum]
  rfl

theorem sum_mem_partialSums (sizes : List Nat) : sizes.sum ∈ sizes.partialSums := by
  induction sizes using List.reverseRecOn with
  | nil => exact List.mem_singleton_self 0
  | append_singleton sizes n _ =>
      rw [partialSums_append_singleton, List.sum_append, List.sum_singleton]
      exact List.mem_append_right _ (List.mem_singleton_self _)

theorem le_sum_of_mem_partialSums {sizes : List Nat} {n : Nat} (h : n ∈ sizes.partialSums) :
    n ≤ sizes.sum := by
  induction sizes using List.reverseRecOn with
  | nil => exact Nat.le_of_eq (List.mem_singleton.1 h)
  | append_singleton sizes m ih =>
      rw [partialSums_append_singleton, List.mem_append, List.mem_singleton] at h
      rw [List.sum_append, List.sum_singleton]
      rcases h with hmem | rfl
      · exact Nat.le_add_right_of_le (ih hmem)
      · exact Nat.le_refl _

/-- A counter that someone listens to announces the partial sums of what it is advanced by. -/
theorem Progress.foldl_advance (total : Nat) (sizes : List Nat) :
    sizes.foldl Progress.advance (Progress.channel.start total) =
      { completed := sizes.sum, total, listening := true,
        log := (sizes.partialSums.map fun n => ⟨n, total⟩).reverse } := by
  induction sizes using List.reverseRecOn with
  | nil => rfl
  | append_singleton sizes n ih =>
      rw [List.foldl_append, ih, partialSums_append_singleton, List.map_append, List.reverse_append,
        List.sum_append, List.sum_singleton]
      rfl

end Sums

section Sizes

variable {α : Type}

theorem countP_eq_countP_range {β : Type} (l : List β) (f : β → Bool) :
    l.countP f = (List.range l.length).countP fun i => (l[i]?).any f := by
  induction l using List.reverseRecOn with
  | nil => rfl
  | append_singleton l b ih =>
      have hbefore : (List.range l.length).countP (fun i => ((l ++ [b])[i]?).any f) =
          (List.range l.length).countP fun i => (l[i]?).any f := by
        refine List.countP_congr fun i hi => ?_
        rw [List.getElem?_append_left (List.mem_range.1 hi)]
      rw [List.length_append, List.length_singleton, List.range_succ, List.countP_append,
        List.countP_append, hbefore, ih, List.countP_singleton, List.countP_singleton,
        List.getElem?_concat_length, Option.any_some]

theorem map_length_chunkResults {run : Nat → Range → List α} (hrun : ∀ i r, (run i r).length = r.size)
    (rs : List Range) (schedule : Schedule) :
    ((chunkResults rs schedule run).filterMap id).map List.length = executedSizes rs schedule := by
  rw [chunkResults, executedSizes, List.map_filterMap]
  induction rs generalizing schedule run with
  | nil => rfl
  | cons r rs ih =>
      have hrest := ih (fun i => hrun (i + 1)) fun i => schedule (i + 1)
      rw [List.mapIdx_cons, List.mapIdx_cons, List.filterMap_cons, List.filterMap_cons]
      by_cases hskip : schedule 0 = true
      · simpa [hskip] using hrest
      · simpa [hskip, hrun] using hrest

theorem length_items_chunkResults {run : Nat → Range → List α}
    (hrun : ∀ i r, (run i r).length = r.size) (rs : List Range) (schedule : Schedule) :
    (ChunkedRun.ofChunks (chunkResults rs schedule run)).items.length =
      (executedSizes rs schedule).sum := by
  rw [← map_length_chunkResults hrun, ← List.length_flatten]
  rfl

theorem executedSizes_append_singleton (rs : List Range) (r : Range) (schedule : Schedule) :
    executedSizes (rs ++ [r]) schedule =
      executedSizes rs schedule ++ if schedule rs.length then [] else [r.size] := by
  rw [executedSizes, List.mapIdx_append, List.filterMap_append]
  congr 1
  rw [List.mapIdx_singleton, Nat.zero_add]
  split <;> rfl

theorem executedSizes_eq (rs : List Range) (schedule : Schedule) :
    executedSizes rs schedule =
      ((List.range rs.length).filter (!schedule ·)).map fun i => (rs[i]?).elim 0 Range.size := by
  induction rs using List.reverseRecOn with
  | nil => rfl
  | append_singleton rs r ih =>
      have hbefore : ((List.range rs.length).filter (!schedule ·)).map
          (fun i => ((rs ++ [r])[i]?).elim 0 Range.size) =
            ((List.range rs.length).filter (!schedule ·)).map
              fun i => (rs[i]?).elim 0 Range.size := by
        refine List.map_congr_left fun i hi => ?_
        rw [List.getElem?_append_left (List.mem_range.1 (List.mem_filter.1 hi).1)]
      rw [executedSizes_append_singleton, List.length_append, List.length_singleton,
        List.range_succ, List.filter_append, List.map_append, hbefore, ih]
      congr 1
      by_cases hskip : schedule rs.length = true <;> simp [hskip]

theorem executedSizes_congr {rs : List Range} {s s' : Schedule} (h : ∀ i < rs.length, s i = s' i) :
    executedSizes rs s = executedSizes rs s' := by
  rw [executedSizes_eq, executedSizes_eq]
  refine congrArg (List.map _) (List.filter_congr fun i hi => ?_)
  rw [h i (List.mem_range.1 hi)]

theorem sum_executedSizes_le (rs : List Range) (schedule : Schedule) :
    (executedSizes rs schedule).sum ≤ (rs.map Range.size).sum := by
  induction rs using List.reverseRecOn with
  | nil => exact Nat.le_refl 0
  | append_singleton rs r ih =>
      rw [executedSizes_append_singleton, List.sum_append, List.map_append, List.sum_append]
      refine Nat.add_le_add ih ?_
      split
      · exact Nat.zero_le _
      · exact Nat.le_refl _

theorem sum_size_ranges_le (total count : Nat) :
    ((ranges total count).map Range.size).sum ≤ total := by
  rcases Nat.eq_zero_or_pos count with rfl | hpos
  · rw [ranges_zero_right]
    exact Nat.zero_le total
  · exact Nat.le_of_eq (sum_size_ranges total hpos)

end Sizes

end Salvo
