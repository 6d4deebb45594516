import Salvo.CommandLine.Run
import Salvo.Proofs.Scenario.Faults

/-!
# Validation and running

Validating a scenario and resolving it look at the same records. Validation finds an error in each of
them that is no profile, and where attackers or defenders are missing; so a scenario without errors
resolves, provided that some attacker has a weapon (`resolves_iff_validate_and_exists_weapon`). That an
attacker has none is only a warning, even if it is true of all of them.
-/

namespace Salvo

theorem ValidationReport.hasErrors_eq_false_iff {r : ValidationReport} :
    r.hasErrors = false ↔ errorMessages r.diagnostics = [] := by
  simp [hasErrors, errorMessages]

namespace Scenario

theorem hasErrors_validate_eq_false_iff {s : Scenario} :
    s.validate.hasErrors = false ↔
      s.attackers ≠ [] ∧ s.defenders ≠ [] ∧ ∃ p, s.profiles = .ok p := by
  rw [ValidationReport.hasErrors_eq_false_iff, errorMessages_validate, ← fault?_eq_none_iff,
    fault?_profiles, List.head?_eq_none_iff]
  simp

theorem exists_resolve_eq_ok_iff {s : Scenario} :
    (∃ r, s.resolve = .ok r) ↔ s.missingPart? = none ∧ ∃ p, s.profiles = .ok p := by
  rw [resolve]
  cases s.missingPart? with
  | some part => simp
  | none => cases s.profiles <;> simp

/-- Missing attackers and defenders are errors, so the weapons are the only part that can still be
missing after validation. -/
theorem missingPart?_of_validate {s : Scenario} (h : s.validate.hasErrors = false) :
    s.missingPart? =
      if s.attackers.all (·.weapons.isEmpty) then some "weapons" else none := by
  obtain ⟨ha, hd, -⟩ := hasErrors_validate_eq_false_iff.1 h
  rw [missingPart?, if_neg (mt List.isEmpty_iff.1 ha), if_neg (mt List.isEmpty_iff.1 hd)]

theorem resolves_iff_validate {s : Scenario} :
    (∃ r, s.resolve = .ok r) ↔
      s.validate.hasErrors = false ∧ ∃ a ∈ s.attackers, a.weapons ≠ [] := by
  rw [exists_resolve_eq_ok_iff, missingPart?_eq_none_iff, hasErrors_validate_eq_false_iff]
  constructor
  · rintro ⟨⟨ha, hd, hweapons⟩, hprofiles⟩
    exact ⟨⟨ha, hd, hprofiles⟩, hweapons⟩
  · rintro ⟨⟨ha, hd, hprofiles⟩, hweapons⟩
    exact ⟨⟨ha, hd, hweapons⟩, hprofiles⟩

theorem resolve_of_unarmed {s : Scenario} (h : s.validate.hasErrors = false)
    (hunarmed : ∀ a ∈ s.attackers, a.weapons = []) : s.resolve = .error (.empty "weapons") := by
  have hall : s.attackers.all (·.weapons.isEmpty) = true := by simpa using hunarmed
  rw [resolve, missingPart?_of_validate h, if_pos hall]

end Scenario

namespace CommandLine

def scenarioPath (args : List String) : String := (positional args).headD defaultScenario

variable {s : Scenario} {host : Host Id} {args : List String}

theorem exit_validate (h : loadScenario host (scenarioPath args) = .ok s) :
    (validate host args).exit = if s.validate.hasErrors then 1 else 0 := by
  have hprint : validate host args = printFindings (scenarioPath args) s.validate := by
    rw [validate]
    change (match loadScenario host (scenarioPath args) with
      | .ok s => printFindings (scenarioPath args) s.validate
      | .error e => Outcome.failure ("validation failed: " ++ e.message)) = _
    rw [h]
  rw [hprint, printFindings]
  cases s.validate.hasErrors <;> rfl

theorem withScenario_eq {path : String} (h : loadScenario host path = .ok s)
    (next : ResolvedScenario → Outcome) :
    withScenario host path next =
      match s.resolve with
      | .ok r => next r
      | .error e => .failure ("scenario error: " ++ e.message) := by
  rw [withScenario]
  change (match (loadScenario host path).bind Scenario.resolve with
    | .ok r => next r
    | .error e => Outcome.failure ("scenario error: " ++ e.message)) = _
  rw [h]
  rfl

end CommandLine

namespace Scenario

/-- A scenario resolves exactly if validation finds no error and some attacker has a weapon. Without
errors and weapons, the weapons are what the attempt to resolve it misses. Commands follow: where
`validate` succeeds and someone is armed, the other commands go on with the resolved scenario, and where
it fails they stop with a scenario error. -/
theorem resolves_iff_validate_and_exists_weapon (s : Scenario) :
    ((∃ r, s.resolve = .ok r) ↔
        s.validate.hasErrors = false ∧ ∃ a ∈ s.attackers, a.weapons ≠ []) ∧
      (s.validate.hasErrors = false → (∀ a ∈ s.attackers, a.weapons = []) →
        s.resolve = .error (.empty "weapons")) ∧
      ∀ (host : Host Id) (args : List String) (next : ResolvedScenario → Outcome),
        CommandLine.loadScenario host (CommandLine.scenarioPath args) = .ok s →
          ((CommandLine.validate host args).exit = 0 → (∃ a ∈ s.attackers, a.weapons ≠ []) →
            ∃ r, s.resolve = .ok r ∧
              CommandLine.withScenario host (CommandLine.scenarioPath args) next = next r) ∧
          ((CommandLine.validate host args).exit ≠ 0 →
            ∃ e : ScenarioError,
              CommandLine.withScenario host (CommandLine.scenarioPath args) next =
                .failure ("scenario error: " ++ e.message)) := by
  refine ⟨resolves_iff_validate, resolve_of_unarmed, fun host args next hload => ?_⟩
  rw [CommandLine.exit_validate hload, CommandLine.withScenario_eq hload]
  cases herrors : s.validate.hasErrors with
  | false =>
      refine ⟨fun _ hweapons => ?_, fun hexit => absurd rfl hexit⟩
      obtain ⟨r, hr⟩ := resolves_iff_validate.2 ⟨herrors, hweapons⟩
      rw [hr]
      exact ⟨r, rfl, rfl⟩
  | true =>
      refine ⟨fun hexit => absurd hexit Nat.one_ne_zero, fun _ => ?_⟩
      cases hresolve : s.resolve with
      | ok r =>
          have hclean := (resolves_iff_validate.1 ⟨r, hresolve⟩).1
          rw [herrors] at hclean
          cases hclean
      | error e => exact ⟨e, rfl⟩

/-- A squad without weapons passes validation and does not resolve. -/
theorem not_resolves_unarmed_squad :
    (squadsRecord [("Squad", [])]).validate.hasErrors = false ∧
      ¬ ∃ r, (squadsRecord [("Squad", [])]).resolve = .ok r := by
  refine ⟨by decide, ?_⟩
  rintro ⟨r, hr⟩
  cases hr

end Scenario

end Salvo
