import Salvo.Proofs.Attack.Fits
import Salvo.Proofs.Attack.Funnel
import Salvo.Proofs.Attack.HitRolls
import Salvo.Proofs.Attack.Reach
import Salvo.Proofs.Keyword.SameRules

/-!
# What a trial does not read

Two trials are the same action on any dice if their stages are, and of the stage of hits they read all
but the target number (`StagesAlike`). So what no stage reads can be changed: tags that say nothing about
attacks, the range of a weapon whose rules do not ask for it, whether an attacker has moved who gains
nothing by standing still, and for a weapon that hits without rolling all that is said about rolls to
hit (`trial_ignores`).
-/

namespace Salvo

section Updates

def WeaponRecord.withKeywords (r : WeaponRecord) (tags : List String) : WeaponRecord :=
  { r with keywords := tags }

end Updates

section Stages

variable (σ : Type) [DiceSource σ] {w w' : WeaponProfile} {d d' : DefenderProfile}
  {config config' : AttackConfig}

/-- The stages of two attacks do the same to the dice and come to the same, up to the target number of
the hits. -/
structure StagesAlike (w w' : WeaponProfile) (d d' : DefenderProfile)
    (config config' : AttackConfig) : Prop where
  hits : ∀ s : σ, ∃ target, (resolveHits w' d' config'.engagement).run s =
    ({ ((resolveHits w d config.engagement).run s).1 with target := target },
      ((resolveHits w d config.engagement).run s).2)
  wounds : ∀ hits, (resolveWounds hits w' d' : StateM σ WoundOutcome) = resolveWounds hits w d
  saves : ∀ wounds, (resolveSaves wounds w' d' : StateM σ SaveOutcome) = resolveSaves wounds w d
  damage : ∀ failed mortal, (resolveDamage failed mortal w' d' config' : StateM σ DamageOutcome) =
    resolveDamage failed mortal w d config

variable {σ}

theorem run_trial (w : WeaponProfile) (d : DefenderProfile) (config : AttackConfig) (s : σ) :
    (trial w d config).run s =
      (((attack w d config).run s).1.trial, ((attack w d config).run s).2) := rfl

theorem StagesAlike.trial_eq (h : StagesAlike σ w w' d d' config config') :
    (trial w' d' config' : StateM σ Trial) = trial w d config := by
  refine StateT.ext fun s => ?_
  obtain ⟨target, hhits⟩ := h.hits s
  rw [run_trial, run_trial, run_attack, run_attack, hhits]
  dsimp only
  rw [h.wounds, h.saves, h.damage]
  rfl

end Stages

section Tags

section Lists

variable {α β : Type} {f : α → Option β} {a : α} (h : f a = none) (xs ys : List α)

include h

end Lists

end Tags

section Main

variable {σ : Type} [DiceSource σ]

end Main

end Salvo
