import Mathlib.Data.List.Nodup
import Salvo.Proofs.Batch.Chunked
import Salvo.Proofs.Scenario.Combinations
import Salvo.Proofs.Scenario.Resolved

/-!
# Entries of a run's report

A run adds the summary of each combination under the combination's names. Of combinations with the
same names the last one stays, so a report has an entry for each of them only if names tell them apart.
-/

namespace Salvo

namespace Combination

def summary (α : Type) [Scalar α] (c : Combination) (config : AttackConfig) (settings : Settings)
    (base : UInt64) : WeaponResult α :=
  summarize (c.batch config settings base .whole).items (some c.defender.models)

theorem cancelled_batch_whole (c : Combination) (config : AttackConfig) (settings : Settings)
    (base : UInt64) : (c.batch config settings base .whole).cancelled = false := by
  rw [batch, runBatchChunked_whole]
  rfl

theorem batch_eq_whole {c : Combination} {config : AttackConfig} {settings : Settings}
    {base : UInt64} {schedule : Schedule}
    (h : (c.batch config settings base schedule).cancelled = false) :
    c.batch config settings base schedule = c.batch config settings base .whole :=
  runChunks_eq_whole h

end Combination

section LastNamed

def lastNamed (names : ResultNames) (cs : List Combination) : Option Combination :=
  cs.reverse.find? fun c => c.names = names

@[simp] theorem lastNamed_nil (names : ResultNames) : lastNamed names [] = none := rfl

theorem lastNamed_append_singleton (names : ResultNames) (cs : List Combination) (c : Combination) :
    lastNamed names (cs ++ [c]) = if names = c.names then some c else lastNamed names cs := by
  rw [lastNamed, List.reverse_append, List.reverse_singleton, List.singleton_append,
    List.find?_cons]
  by_cases h : c.names = names
  · simp [h]
  · simp [h, Ne.symm h, lastNamed]

theorem isSome_lastNamed {names : ResultNames} {cs : List Combination} :
    (lastNamed names cs).isSome = true ↔ names ∈ cs.map Combination.names := by
  rw [lastNamed, List.find?_isSome, List.mem_map]
  simp only [List.mem_reverse, decide_eq_true_eq]

/-- If names tell combinations apart, each one is the last with its names. -/
theorem lastNamed_eq_some {cs : List Combination} (h : (cs.map Combination.names).Nodup)
    {c : Combination} (hc : c ∈ cs) : lastNamed c.names cs = some c := by
  obtain ⟨last, hlast⟩ :=
    Option.isSome_iff_exists.1 (isSome_lastNamed.2 (List.mem_map_of_mem hc))
  have hnames : last.names = c.names := by
    have hfound := List.find?_some hlast
    exact of_decide_eq_true hfound
  have hmem : last ∈ cs := List.mem_reverse.1 (List.mem_of_find?_eq_some hlast)
  rw [hlast, List.inj_on_of_nodup_map h hmem hc hnames]

end LastNamed

namespace ScenarioRun

variable {α : Type} [Scalar α] {config : AttackConfig} {settings : Settings} {base : UInt64}
  {schedules : Nat → Schedule} {run : ScenarioRun α}

section Steps

variable (schedules)

theorem addCombination_of_cancelled (h : run.cancelled = true) (total : α) (c : Combination) :
    addCombination config settings base schedules (run, total) c = (run, total) := by
  rw [addCombination]
  simp only [h, ↓reduceIte]

theorem addCombination_of_skipped (h : run.cancelled = false) {c : Combination}
    (hbatch : (c.batch config settings base (schedules run.begun)).cancelled = true) (total : α) :
    addCombination config settings base schedules (run, total) c =
      ({ run with
          cancelled := true
          progress := run.progress.through settings.clampedTrials (max settings.progressReports 1)
            (schedules run.begun)
          begun := run.begun + 1 }, total) := by
  rw [addCombination]
  simp only [h, addBatch, hbatch, ↓reduceIte, Bool.false_eq_true]

/-- A batch that is not cancelled is made as a whole, and its summary is added. -/
theorem addCombination_of_whole (h : run.cancelled = false) {c : Combination}
    (hbatch : (c.batch config settings base (schedules run.begun)).cancelled = false) (total : α) :
    addCombination config settings base schedules (run, total) c =
      ({ report := run.report.insert c.attacker c.defender.name c.key
            (c.summary α config settings base)
         cancelled := false
         progress := run.progress.through settings.clampedTrials (max settings.progressReports 1)
            (schedules run.begun)
         begun := run.begun + 1 }, total + (c.summary α config settings base).damage) := by
  rw [addCombination]
  simp only [h, addBatch, hbatch, ↓reduceIte, Bool.false_eq_true]
  rw [Combination.batch_eq_whole hbatch]
  rfl

end Steps

section Reported

variable (config settings base) in
/-- Unless it has been cancelled, a run that has made the batches of `done` has reported the last one
under each names. -/
def Reported (done : List Combination) (run : ScenarioRun α) : Prop :=
  run.cancelled = false → ∀ names, run.report.result? names =
    (lastNamed names done).map fun c => c.summary α config settings base

variable {done : List Combination}

theorem Reported.addCombination (h : run.Reported config settings base done)
    (schedules : Nat → Schedule) (total : α) (c : Combination) :
    (addCombination config settings base schedules (run, total) c).1.Reported config settings base
      (done ++ [c]) := by
  cases hrun : run.cancelled with
  | true =>
      rw [addCombination_of_cancelled schedules hrun]
      intro hend
      rw [hrun] at hend
      cases hend
  | false =>
      cases hbatch : (c.batch config settings base (schedules run.begun)).cancelled with
      | true =>
          rw [addCombination_of_skipped schedules hrun hbatch]
          intro hend
          cases hend
      | false =>
          rw [addCombination_of_whole schedules hrun hbatch]
          intro _ names
          have hinsert := run.report.result?_insert c.names names (c.summary α config settings base)
          rw [lastNamed_append_singleton]
          refine hinsert.trans ?_
          rw [h hrun names]
          split <;> rfl

theorem Reported.foldl_addCombination (h : run.Reported config settings base done)
    (schedules : Nat → Schedule) (total : α) (cs : List Combination) :
    (cs.foldl (ScenarioRun.addCombination config settings base schedules) (run, total)).1.Reported
      config settings base (done ++ cs) := by
  induction cs generalizing done run total with
  | nil => rwa [List.append_nil]
  | cons c cs ih =>
      have hrest := ih (h.addCombination schedules total c)
        (ScenarioRun.addCombination config settings base schedules (run, total) c).2
      rwa [List.append_assoc, List.singleton_append] at hrest

theorem Reported.addPair (h : run.Reported config settings base done)
    (schedules : Nat → Schedule) (pair : Attacker × DefenderProfile) :
    (addPair config settings base schedules run pair).Reported config settings base
      (done ++ pair.1.against pair.2) := by
  obtain ⟨a, d⟩ := pair
  have hbatches := h.foldl_addCombination schedules (Scalar.ofCount 0) (a.against d)
  rw [ScenarioRun.addPair, closePair]
  dsimp only
  split
  · exact hbatches
  · intro hend names
    rw [Report.result?_setKills]
    exact hbatches hend names

theorem Reported.foldl_addPair (h : run.Reported config settings base done)
    (schedules : Nat → Schedule) (pairs : List (Attacker × DefenderProfile)) :
    (pairs.foldl (ScenarioRun.addPair config settings base schedules) run).Reported config settings
      base (done ++ pairs.flatMap fun pair => pair.1.against pair.2) := by
  induction pairs generalizing done run with
  | nil => rwa [List.flatMap_nil, List.append_nil]
  | cons pair pairs ih =>
      rw [List.flatMap_cons, ← List.append_assoc]
      exact ih (h.addPair schedules pair)

end Reported

section Cancelled

variable (config settings base)

theorem cancelled_foldl_addCombination_whole (h : run.cancelled = false) (total : α)
    (cs : List Combination) :
    (cs.foldl (addCombination config settings base fun _ => .whole) (run, total)).1.cancelled =
      false := by
  induction cs generalizing run total with
  | nil => exact h
  | cons c cs ih =>
      have hnext : (addCombination config settings base (fun _ => .whole) (run, total)
          c).1.cancelled = false := by
        rw [addCombination_of_whole (fun _ => .whole) h
          (c.cancelled_batch_whole config settings base)]
      exact ih hnext _

theorem cancelled_foldl_addPair_whole (h : run.cancelled = false)
    (pairs : List (Attacker × DefenderProfile)) :
    (pairs.foldl (addPair config settings base fun _ => .whole) run).cancelled = false := by
  induction pairs generalizing run with
  | nil => exact h
  | cons pair pairs ih =>
      refine ih ?_
      have hbatches := cancelled_foldl_addCombination_whole config settings base h
        (Scalar.ofCount 0) (pair.1.against pair.2)
      rw [addPair, closePair]
      split <;> exact hbatches

end Cancelled

end ScenarioRun

namespace Report

/-- Nothing is lost in the report of a scenario: it has as many results as there are weapons to
attack each defender with, and each combination has the summary of its own batch. -/
structure Complete {α : Type} [Scalar α] (r : Report α) (s : ResolvedScenario) (settings : Settings)
    (base : UInt64) : Prop where
  size : r.size = (s.attackers.map (·.weapons.length)).sum * s.defenders.length
  entry : ∀ c ∈ s.combinations,
    r.result? c.names = some (c.summary α (s.config settings) settings base)

end Report

namespace ResolvedScenario

variable {α : Type} [Scalar α] {s : ResolvedScenario} {settings : Settings} {base : UInt64}
  {schedules : Nat → Schedule} {progress : Progress}

theorem cancelled_run_whole (s : ResolvedScenario) (settings : Settings) (base : UInt64)
    (progress : Progress) :
    (s.run α settings base (fun _ => .whole) progress).cancelled = false :=
  ScenarioRun.cancelled_foldl_addPair_whole (s.config settings) settings base rfl s.pairs

/-- The report of a run that is not cancelled has the last of the combinations with the same names. -/
theorem result?_run (h : (s.run α settings base schedules progress).cancelled = false)
    (names : ResultNames) :
    (s.run α settings base schedules progress).report.result? names =
      (lastNamed names s.combinations).map fun c =>
        c.summary α (s.config settings) settings base := by
  have hstart : (⟨.empty, false, progress, 0⟩ : ScenarioRun α).Reported (s.config settings) settings
      base [] := fun _ _ => rfl
  exact hstart.foldl_addPair schedules s.pairs h names

theorem size_run (h : (s.run α settings base schedules progress).cancelled = false) :
    (s.run α settings base schedules progress).report.size =
      (s.combinations.map Combination.names).dedup.length := by
  refine Report.size_eq_length_dedup fun names => ?_
  rw [result?_run h, Option.isSome_map]
  exact isSome_lastNamed

theorem complete_iff_nodup (h : (s.run α settings base schedules progress).cancelled = false) :
    (s.run α settings base schedules progress).report.Complete s settings base ↔
      (s.combinations.map Combination.names).Nodup := by
  constructor
  · intro hcomplete
    have hlength := hcomplete.size
    rw [size_run h, ← length_combinations, ← List.length_map Combination.names] at hlength
    exact List.dedup_eq_self.1 ((List.dedup_sublist _).eq_of_length hlength)
  · intro hnodup
    constructor
    · rw [size_run h, List.dedup_eq_self.2 hnodup, List.length_map, length_combinations]
    · intro c hc
      rw [result?_run h, lastNamed_eq_some hnodup hc, Option.map_some]

/-- A run on its own is not cancelled, and a run that is not cancelled reports every combination of a
resolved scenario exactly if the names in the scenario are distinct. -/
theorem complete_iff_distinctNames (α : Type) [Scalar α] {scenario : Scenario} {s : ResolvedScenario}
    (h : scenario.resolve = .ok s) (settings : Settings) (base : UInt64) :
    (s.run α settings base (fun _ => .whole) {}).cancelled = false ∧
      ∀ schedules progress, (s.run α settings base schedules progress).cancelled = false →
        ((s.run α settings base schedules progress).report.Complete s settings base ↔
          s.DistinctNames) := by
  have hresolves := Scenario.resolve_eq_ok_iff.1 h
  refine ⟨s.cancelled_run_whole settings base {}, fun schedules progress hrun => ?_⟩
  rw [complete_iff_nodup hrun]
  constructor
  · intro hnodup
    exact .of_nodup_map_names hresolves.defenders_ne_nil hresolves.exists_weapons_ne_nil hnodup
  · intro hdistinct
    exact hdistinct.nodup_map_names

theorem complete_squads :
    (squadsRecord [("Red", ["gun", "gun"]), ("Blue", ["gun"])]).resolve =
        .ok (squads [("Red", ["gun", "gun"]), ("Blue", ["gun"])]) ∧
      ((squads [("Red", ["gun", "gun"]), ("Blue", ["gun"])]).report Rat {} 1).Complete
        (squads [("Red", ["gun", "gun"]), ("Blue", ["gun"])]) {} 1 := by
  have h : (squadsRecord [("Red", ["gun", "gun"]), ("Blue", ["gun"])]).resolve =
      .ok (squads [("Red", ["gun", "gun"]), ("Blue", ["gun"])]) := rfl
  obtain ⟨hrun, hcomplete⟩ := complete_iff_distinctNames Rat h {} 1
  refine ⟨h, (hcomplete _ _ hrun).2 ?_⟩
  exact distinctNames_of_nodup (by decide) (by decide)

/-- Two squads of one name share one result. -/
theorem not_complete_squads :
    (squadsRecord [("Squad", ["gun"]), ("Squad", ["gun"])]).resolve =
        .ok (squads [("Squad", ["gun"]), ("Squad", ["gun"])]) ∧
      ((squads [("Squad", ["gun"]), ("Squad", ["gun"])]).report Rat {} 1).size = 1 ∧
      ¬ ((squads [("Squad", ["gun"]), ("Squad", ["gun"])]).report Rat {} 1).Complete
        (squads [("Squad", ["gun"]), ("Squad", ["gun"])]) {} 1 := by
  have hrun := (squads [("Squad", ["gun"]), ("Squad", ["gun"])]).cancelled_run_whole (α := Rat)
    {} 1 {}
  refine ⟨rfl, (size_run hrun).trans (by decide), fun hcomplete => ?_⟩
  have hnodup := (complete_iff_nodup hrun).1 hcomplete
  revert hnodup
  decide

end ResolvedScenario

end Salvo
