import Salvo.Proofs.Attack.Fits
import Salvo.Proofs.Attack.Tracing
import Salvo.Proofs.Batch.Checked
import Salvo.Proofs.Dice.Sources
import Salvo.Proofs.Scenario.Cancellation

/-!
# Checked runs of scenarios

A run and a trace of a scenario that pass all checks are those in exact numbers (`comesTo_run?`,
`comesTo_trace?`), so what holds of exact runs holds of everything that is reported. They do pass if all
weapons fit (`run?_of_fits`), and where a whole run passes, so does the trace (`trace?_of_run?`).
-/

namespace Salvo

namespace Combination

theorem comesTo_batch? (c : Combination) (config : AttackConfig) (settings : Settings) (base : UInt64)
    (schedule : Schedule) :
    ComesTo (c.batch? config settings base schedule) (c.batch config settings base schedule) :=
  comesTo_runBatchChunked? c.weapon c.defender config _ _ _ schedule

end Combination

namespace ScenarioRun

variable {α : Type} [Scalar α] (config : AttackConfig) (settings : Settings) (base : UInt64)
  (schedules : Nat → Schedule)

section ComesTo

theorem comesTo_addCombination? (state : ScenarioRun α × α) (c : Combination) :
    ComesTo (addCombination? config settings base schedules state c)
      (addCombination config settings base schedules state c) := by
  rw [addCombination?, addCombination]
  split
  · exact .of_eq rfl
  · exact (c.comesTo_batch? config settings base _).bind (.of_eq rfl)

theorem comesTo_addPair? (run : ScenarioRun α) (pair : Attacker × DefenderProfile) :
    ComesTo (addPair? config settings base schedules run pair)
      (addPair config settings base schedules run pair) :=
  (ComesTo.foldlM (comesTo_addCombination? config settings base schedules) _ _).bind (.of_eq rfl)

end ComesTo

section Success

variable {config settings base schedules} {state state' : ScenarioRun α × α}
  {run run' : ScenarioRun α} {c : Combination}

theorem isSome_addCombination? (h : ∀ schedule, (c.batch? config settings base schedule).isSome = true)
    (state : ScenarioRun α × α) :
    (addCombination? config settings base schedules state c).isSome = true := by
  rw [addCombination?]
  split
  · rfl
  · obtain ⟨batch, hbatch⟩ := Option.isSome_iff_exists.1 (h (schedules state.1.begun))
    exact isSome_bind_iff.2 ⟨batch, hbatch, rfl⟩

theorem isSome_foldlM_addPair? {pairs : List (Attacker × DefenderProfile)}
    (h : ∀ pair ∈ pairs, ∀ c ∈ pair.1.against pair.2, ∀ schedule,
      (c.batch? config settings base schedule).isSome = true) (run : ScenarioRun α) :
    (pairs.foldlM (addPair? config settings base schedules) run).isSome = true := by
  refine isSome_foldlM (fun pair hpair run => ?_) run
  have hbatches := isSome_foldlM (f := addCombination? config settings base schedules)
    (fun c hc => isSome_addCombination? (h pair hpair c hc)) (run, (Scalar.ofCount 0 : α))
  obtain ⟨state, hstate⟩ := Option.isSome_iff_exists.1 hbatches
  exact isSome_bind_iff.2 ⟨state, hstate, rfl⟩

variable (config base) in
/-- The dice of the combination's seed lead to a trial that passes all checks. -/
def FirstTrialSucceeds (c : Combination) : Prop :=
  Checked.Succeeds (Checked.trial c.weapon c.defender config) (Generator.ofSeed (c.seed base))

end Success

end ScenarioRun

namespace TracedTrial

theorem comesTo_ofCombination? (config : AttackConfig) (base : UInt64) (c : Combination) :
    ComesTo (ofCombination? config base c) (ofCombination config base c) := by
  have htraced : ComesTo
      ((Checked.tracedTrial c.weapon c.defender config ⟨true, []⟩).run (Generator.ofSeed (c.seed base)))
      ((tracedTrial c.weapon c.defender config ⟨true, []⟩).run (Generator.ofSeed (c.seed base))) :=
    fun r hr => (Checked.refines_tracedTrial c.weapon c.defender config ⟨true, []⟩ _ r hr).symm
  exact htraced.bind (.of_eq rfl)

theorem isSome_ofCombination?_iff {config : AttackConfig} {base : UInt64} {c : Combination} :
    (ofCombination? config base c).isSome = true ↔ ScenarioRun.FirstTrialSucceeds config base c := by
  rw [ofCombination?, isSome_bind_iff, ScenarioRun.FirstTrialSucceeds,
    ← Checked.succeeds_tracedTrial_iff (t := ⟨true, []⟩)]
  exact exists_congr fun _ => and_iff_left rfl

end TracedTrial

namespace ResolvedScenario

section

variable (α : Type) [Scalar α] (s : ResolvedScenario) (settings : Settings) (base : UInt64)

theorem comesTo_run? (schedules : Nat → Schedule) (progress : Progress) :
    ComesTo (s.run? α settings base schedules progress) (s.run α settings base schedules progress) :=
  ComesTo.foldlM (ScenarioRun.comesTo_addPair? (s.config settings) settings base schedules) _ _

theorem comesTo_trace? : ComesTo (s.trace? settings base) (s.trace settings base) :=
  ComesTo.mapM (TracedTrial.comesTo_ofCombination? (s.config settings) base) _

end

variable {α : Type} [Scalar α] {s : ResolvedScenario} {settings : Settings} {base : UInt64}
  {schedules : Nat → Schedule} {progress : Progress}

/-- All weapons fit against all defenders of the scenario. -/
def Fits (s : ResolvedScenario) : Prop :=
  ∀ a ∈ s.attackers, ∀ w ∈ a.weapons, DiceFit w ∧ ∀ d ∈ s.defenders, HitsFit w d s.engagement

theorem Fits.succeeds_trial (hfits : s.Fits) {scenario : Scenario} (h : scenario.Resolves s)
    {c : Combination} (hc : c ∈ s.combinations) (settings : Settings) (g : Generator) :
    Checked.Succeeds (Checked.trial c.weapon c.defender (s.config settings)) g := by
  obtain ⟨a, ha, d, hd, w, key, hkeyed, rfl⟩ := mem_combinations_iff.1 hc
  have hw : w ∈ a.weapons := (List.of_mem_zip hkeyed).1
  obtain ⟨hdice, hhits⟩ := hfits a ha w hw
  obtain ⟨record, index, hrecord⟩ := h.exists_weaponRecord ha hw
  obtain ⟨unit, position, hunit⟩ := h.exists_defenderRecord hd
  exact Checked.succeeds_trial_of_fits Generator.inRange
    (WeaponProfile.rollsInBounds_of_ofRecord hrecord) (DefenderProfile.inBounds_of_ofRecord hunit)
    (DefenderProfile.effects_inBounds_of_ofRecord hunit) hdice (hhits d hd) g

theorem run?_of_fits {scenario : Scenario} (h : scenario.resolve = .ok s) (hfits : s.Fits)
    (settings : Settings) (base : UInt64) (schedules : Nat → Schedule) (progress : Progress) :
    s.run? α settings base schedules progress = some (s.run α settings base schedules progress) ∧
      s.trace? settings base = some (s.trace settings base) := by
  have hresolves := Scenario.resolve_eq_ok_iff.1 h
  constructor
  · refine (comesTo_run? α s settings base schedules progress).eq_some ?_
    refine ScenarioRun.isSome_foldlM_addPair? (fun pair hpair c hc schedule => ?_) _
    have hmem : c ∈ s.combinations := List.mem_flatMap.2 ⟨pair, hpair, hc⟩
    exact isSome_runBatchChunked? (hfits.succeeds_trial hresolves hmem settings) _ _ _ schedule
  · refine (comesTo_trace? s settings base).eq_some (isSome_mapM_iff.2 fun c hc => ?_)
    exact TracedTrial.isSome_ofCombination?_iff.2 (hfits.succeeds_trial hresolves hc settings _)

end ResolvedScenario

end Salvo
