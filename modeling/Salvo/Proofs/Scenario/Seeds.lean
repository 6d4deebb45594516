import Salvo.Proofs.Batch.Chunked
import Salvo.Proofs.Batch.SeedDistances
import Salvo.Proofs.Scenario.Combinations

/-!
# Seeds of a scenario's chunks

Every chunk of every combination has a seed: that of the combination's batch, counted up by the number
of the chunk. The chunks of one combination have different seeds. Those of two combinations do exactly
if the seeds of the two batches lie at least as far apart as there are chunks. Which names ensure that
for every base seed is said by the seeds they lead to from zero (`nodup_chunkSeeds_iff`). That they are
different is not enough, and three weapons of one name are too close with the default settings
(`not_nodup_chunkSeeds`).
-/

namespace Salvo

/-- The number of chunks that a batch is divided into. -/
def Settings.chunkCount (settings : Settings) : Nat :=
  (ranges settings.clampedTrials (max settings.progressReports 1)).length

theorem Settings.max_progressReports (settings : Settings) :
    max (max settings.progressReports 1) 1 = max settings.progressReports 1 :=
  Nat.max_eq_left (Nat.le_max_right _ 1)

theorem Settings.chunkCount_pos (settings : Settings) : 0 < settings.chunkCount := by
  have htrials := settings.one_le_clampedTrials
  rw [chunkCount, length_ranges]
  omega

theorem Settings.chunkCount_le (settings : Settings) : settings.chunkCount ≤ maxTrials := by
  have htrials := settings.clampedTrials_le
  rw [chunkCount, length_ranges]
  omega

namespace Combination

def chunkSeeds (c : Combination) (settings : Settings) (base : UInt64) : List UInt64 :=
  (List.range settings.chunkCount).map (chunkSeed (c.seed base))

theorem items_batch_whole (c : Combination) (config : AttackConfig) (settings : Settings)
    (base : UInt64) :
    (c.batch config settings base .whole).items =
      (List.zipWith (fun r seed => runBatch c.weapon c.defender config r.size seed)
        (ranges settings.clampedTrials (max settings.progressReports 1))
        (c.chunkSeeds settings base)).flatten := by
  rw [batch, runBatchChunked_whole, settings.max_progressReports]
  refine congrArg List.flatten (List.ext_getElem ?_ fun i hi _ => ?_)
  · rw [List.length_mapIdx, List.length_zipWith, chunkSeeds, List.length_map, List.length_range,
      Settings.chunkCount, Nat.min_self]
  · rw [List.getElem_mapIdx, List.getElem_zipWith]
    simp only [chunkSeeds, List.getElem_map, List.getElem_range]

theorem nodup_chunkSeeds (c : Combination) (settings : Settings) (base : UInt64) :
    (c.chunkSeeds settings base).Nodup := by
  have hcount : settings.chunkCount ≤ 2 ^ 64 :=
    Nat.le_trans settings.chunkCount_le (by decide)
  refine List.Nodup.map_on (fun i hi j hj heq => ?_) List.nodup_range
  have hi' := List.mem_range.1 hi
  have hj' := List.mem_range.1 hj
  exact chunkSeed_inj (by omega) (by omega) heq

theorem disjoint_chunkSeeds_iff {c d : Combination} {settings : Settings} {base : UInt64} :
    (∀ x ∈ c.chunkSeeds settings base, ∀ y ∈ d.chunkSeeds settings base, x ≠ y) ↔
      SeedsApart settings.chunkCount (c.seed base) (d.seed base) := by
  rw [seedsApart_iff]
  constructor
  · intro h i hi j hj
    exact h _ (List.mem_map_of_mem (List.mem_range.2 hi)) _
      (List.mem_map_of_mem (List.mem_range.2 hj))
  · intro h x hx y hy
    obtain ⟨i, hi, rfl⟩ := List.mem_map.1 hx
    obtain ⟨j, hj, rfl⟩ := List.mem_map.1 hy
    exact h i (List.mem_range.1 hi) j (List.mem_range.1 hj)

/-- The names that the seed of the combination's batch is made of. -/
def seedNames (c : Combination) : List String := [c.attacker, c.defender.name, c.key]

end Combination

namespace ResolvedScenario

/-- The seeds of the chunks of all batches of a run. -/
def chunkSeeds (s : ResolvedScenario) (settings : Settings) (base : UInt64) : List UInt64 :=
  s.combinations.flatMap fun c => c.chunkSeeds settings base

theorem nodup_chunkSeeds_iff_pairwise {s : ResolvedScenario} {settings : Settings} {base : UInt64} :
    (s.chunkSeeds settings base).Nodup ↔ s.combinations.Pairwise fun c d =>
      SeedsApart settings.chunkCount (c.seed base) (d.seed base) := by
  rw [chunkSeeds, List.Nodup, List.pairwise_flatMap]
  simp only [Combination.disjoint_chunkSeeds_iff]
  constructor
  · intro h
    exact h.2
  · intro h
    exact ⟨fun c _ => c.nodup_chunkSeeds settings base, h⟩

theorem forall_nodup_chunkSeeds_iff {s : ResolvedScenario} {settings : Settings} :
    (∀ base, (s.chunkSeeds settings base).Nodup) ↔ s.combinations.Pairwise fun c d =>
      AlwaysApart settings.chunkCount c.seedNames d.seedNames := by
  have hapart (c d : Combination) : AlwaysApart settings.chunkCount c.seedNames d.seedNames ↔
      ∀ base, SeedsApart settings.chunkCount (c.seed base) (d.seed base) := forall_seedsApart_iff.symm
  simp only [nodup_chunkSeeds_iff_pairwise, hapart, List.pairwise_iff_getElem]
  constructor
  · intro h i j hi hj hij base
    exact h base i j hi hj hij
  · intro h base i j hi hj hij
    exact h i j hi hj hij base

/-- The seeds of a run's chunks. The batch of a combination is the batches on its chunks' seeds in a
row. All these seeds are different exactly if the seeds of any two combinations are at least as far
apart as there are chunks, and they are for every base seed exactly if the names of any two combinations
ensure it. The chunks of one combination always have different seeds. Between combinations with names of
one size the base seed makes no difference; names of different sizes keep at most twice as many chunks
apart as they differ by. -/
theorem nodup_chunkSeeds_iff (s : ResolvedScenario) (settings : Settings) :
    (∀ base config, ∀ c ∈ s.combinations, (c.batch config settings base .whole).items =
      (List.zipWith (fun r seed => runBatch c.weapon c.defender config r.size seed)
        (ranges settings.clampedTrials (max settings.progressReports 1))
        (c.chunkSeeds settings base)).flatten) ∧
    (∀ base, (s.chunkSeeds settings base).Nodup ↔ s.combinations.Pairwise fun c d =>
      SeedsApart settings.chunkCount (c.seed base) (d.seed base)) ∧
    ((∀ base, (s.chunkSeeds settings base).Nodup) ↔ s.combinations.Pairwise fun c d =>
      AlwaysApart settings.chunkCount c.seedNames d.seedNames) ∧
    (∀ base, ∀ c ∈ s.combinations, (c.chunkSeeds settings base).Nodup) ∧
    ∀ c ∈ s.combinations, ∀ d ∈ s.combinations,
      ((seedBytes c.seedNames).length = (seedBytes d.seedNames).length → ∀ base,
        c.seed base - d.seed base = c.seed 0 - d.seed 0 ∧
        (SeedsApart settings.chunkCount (c.seed base) (d.seed base) ↔
          AlwaysApart settings.chunkCount c.seedNames d.seedNames)) ∧
      ((seedBytes c.seedNames).length ≠ (seedBytes d.seedNames).length →
        AlwaysApart settings.chunkCount c.seedNames d.seedNames →
        settings.chunkCount ≤ 2 * ((seedBytes c.seedNames).length - (seedBytes d.seedNames).length +
          ((seedBytes d.seedNames).length - (seedBytes c.seedNames).length))) := by
  refine ⟨fun base config c _ => c.items_batch_whole config settings base,
    fun base => nodup_chunkSeeds_iff_pairwise, forall_nodup_chunkSeeds_iff,
    fun base c _ => c.nodup_chunkSeeds settings base, fun c _ d _ => ⟨fun hlength base => ?_, ?_⟩⟩
  · exact ⟨stableSeed_sub_stableSeed hlength base, seedsApart_iff_of_length_eq hlength base⟩
  · intro hlength hapart
    exact hapart.le_of_length_ne hlength

/-- With the default settings a gun and an axe have no seed in common, whatever the base seed. A gun and a
rifle have for some base seed, since their names differ by two bytes only. -/
theorem nodup_chunkSeeds_squads :
    (∀ base, ((squads [("Squad", ["gun", "axe"])]).chunkSeeds {} base).Nodup) ∧
      ¬ ∀ base, ((squads [("Squad", ["gun", "rifle"])]).chunkSeeds {} base).Nodup := by
  obtain ⟨-, -, hsafe, -⟩ := nodup_chunkSeeds_iff (squads [("Squad", ["gun", "axe"])]) {}
  obtain ⟨-, -, hmixed, -, hpairs⟩ := nodup_chunkSeeds_iff (squads [("Squad", ["gun", "rifle"])]) {}
  refine ⟨hsafe.2 (List.pairwise_pair.2 ?_), fun hnodup => ?_⟩
  · have hapart : AlwaysApart 100 ["Squad", "Boyz", "gun"] ["Squad", "Boyz", "axe"] :=
      ⟨by decide +kernel, by decide +kernel⟩
    exact hapart
  · have hapart := List.pairwise_pair.1 (hmixed.1 hnodup)
    have hfew := (hpairs _ List.mem_cons_self _ (List.mem_cons_of_mem _ List.mem_cons_self)).2
      (by decide) hapart
    exact absurd hfew (by decide)

/-- Combinations of a run whose names are of one size but not apart share seeds for every base seed. -/
theorem not_nodup_of_not_alwaysApart {s : ResolvedScenario} {settings : Settings} {c d : Combination}
    {i j : Nat} (hc : s.combinations[i]? = some c) (hd : s.combinations[j]? = some d) (hij : i < j)
    (hlength : (seedBytes c.seedNames).length = (seedBytes d.seedNames).length)
    (h : ¬ AlwaysApart settings.chunkCount c.seedNames d.seedNames) (base : UInt64) :
    ¬ (s.chunkSeeds settings base).Nodup := by
  obtain ⟨hi, rfl⟩ := List.getElem?_eq_some_iff.1 hc
  obtain ⟨hj, rfl⟩ := List.getElem?_eq_some_iff.1 hd
  intro hnodup
  have hapart := List.pairwise_iff_getElem.1 (nodup_chunkSeeds_iff_pairwise.1 hnodup) i j hi hj hij
  exact h ((seedsApart_iff_of_length_eq hlength base).1 hapart)

/-- Two guns of different names share their seeds, whatever the settings and the base seed. With the
default settings and any base seed, three rifles share some: the keys of the second and the third differ
in their numbers only, so the seeds are 37 apart for 100 chunks. -/
theorem not_nodup_chunkSeeds :
    ((squadsRecord [("Squad", ["Ab", "B="])]).resolve = .ok (squads [("Squad", ["Ab", "B="])]) ∧
      ∀ settings base, ¬ ((squads [("Squad", ["Ab", "B="])]).chunkSeeds settings base).Nodup) ∧
    ((squadsRecord [("Squad", ["rifle", "rifle", "rifle"])]).resolve =
        .ok (squads [("Squad", ["rifle", "rifle", "rifle"])]) ∧
      ∀ base, ¬ ((squads [("Squad", ["rifle", "rifle", "rifle"])]).chunkSeeds {} base).Nodup) := by
  refine ⟨⟨rfl, fun settings base => ?_⟩, rfl, fun base => ?_⟩
  · have hsame : stableSeed 0 ["Squad", "Boyz", "Ab"] = stableSeed 0 ["Squad", "Boyz", "B="] := by
      decide +kernel
    have hnear : ¬ AlwaysApart settings.chunkCount ["Squad", "Boyz", "Ab"] ["Squad", "Boyz", "B="] :=
      fun hapart => hapart.stableSeed_ne settings.chunkCount_pos hsame
    exact not_nodup_of_not_alwaysApart (i := 0) (j := 1) rfl rfl (by decide) (by decide) hnear base
  · have hcount : ({} : Settings).chunkCount = 100 := rfl
    have hsecond : seedBytes ["Squad", "Boyz", "rifle#2"] =
        seedBytes ["Squad", "Boyz"] ++ "rifle#".toUTF8.data.toList ++ [50, 0xff] := by decide
    have hthird : seedBytes ["Squad", "Boyz", "rifle#3"] =
        seedBytes ["Squad", "Boyz"] ++ "rifle#".toUTF8.data.toList ++ [51, 0xff] := by decide
    have hnear : ¬ AlwaysApart ({} : Settings).chunkCount ["Squad", "Boyz", "rifle#2"]
        ["Squad", "Boyz", "rifle#3"] := by
      rw [hcount, alwaysApart_iff_of_last_byte hsecond hthird (by decide) (by decide)]
      decide
    exact not_nodup_of_not_alwaysApart (i := 1) (j := 2) rfl rfl (by decide) (by decide +kernel)
      hnear base

end ResolvedScenario

end Salvo
