import Salvo.Proofs.Attack.Fits
import Salvo.Proofs.Attack.Funnel
import Salvo.Scenario.Validate

/-!
# Weapons with an amount of zero

A trial comes to nothing exactly if no attack is made (`trial_eq_empty_iff`). Validation says of a weapon
with an amount of zero that it never attacks. The amount multiplies the roll for attacks and what rapid
fire adds to it, but the attacks of a blast weapon for the models of the unit are added behind it; so such
a weapon never attacks if it has no blast, and attacks every unit of five models or more if it has
(`trial_of_amount_eq_zero`).
-/

namespace Salvo

section Attacks

variable {σ : Type} [DiceSource σ]

theorem attacks_trial (w : WeaponProfile) (d : DefenderProfile) (config : AttackConfig) (s : σ) :
    ((trial w d config).run s).1.attacks = ((attackCount w d config.engagement).run s).1 := by
  have hhit := congrArg HitOutcome.attacks
    (run_resolveHitsAt (hitTarget w d config.engagement) w d config.engagement s)
  refine hhit.trans ?_
  cases w.effects.torrent <;> rfl

theorem trial_eq_empty_iff (w : WeaponProfile) (d : DefenderProfile) (config : AttackConfig) (s : σ) :
    ((trial w d config).run s).1 = {} ↔ ((trial w d config).run s).1.attacks = 0 := by
  refine ⟨fun h => congrArg Trial.attacks h, fun h => ?_⟩
  obtain ⟨s₁, s₂, s₃, o, ho, hhit, hwound, hsave, hdamage⟩ :=
    exists_stages (.of w d config.engagement) w d config s
  have htrial : ((trial w d config).run s).1 = o.trial := congrArg Outcomes.trial ho
  rw [htrial] at h ⊢
  have hattacks : o.hit.attacks = 0 := h
  have hlanded : o.hit.hits + o.hit.autoWounds = 0 :=
    hhit ▸ landed_resolveHitsAt_of_attacks_eq_zero (hhit ▸ hattacks)
  have hwounds : o.wound.wounds + o.wound.mortalWounds ≤ o.hit.hits :=
    hwound ▸ resolveWoundsAt_le _ _ _ w s₁
  have hfailed : o.save.failed ≤ o.wound.wounds + o.hit.autoWounds :=
    hsave ▸ failed_resolveSavesAt_le _ _ s₂
  have hunhurt : o.damage = {} := hdamage ▸ resolveDamage_of_eq_zero (by omega) w d config s₃
  simp only [Outcomes.trial, hunhurt, Trial.mk.injEq, and_true]
  omega

/-- Nothing is left of what the amount multiplies, and blast comes on top of it. -/
theorem attacksFor_of_amount_eq_zero {w : WeaponProfile} (h : w.amount = 0) (d : DefenderProfile)
    (e : Engagement) (rolled : Nat) :
    attacksFor w d e rolled =
      if w.effects.blast then min (d.models / blastModels) maxCount else 0 := by
  simp [attacksFor, mulCount, addCount, h]

end Attacks

section Findings

def neverAttacks (context : String) : Diagnostic :=
  ⟨.warning, context, "amount is 0; weapon never attacks"⟩

theorem neverAttacks_mem_checkWeapon {w : WeaponProfile} (h : w.amount = 0) (context : String) :
    neverAttacks context ∈ checkWeapon context w := by
  simp [checkWeapon, diagnoseIf, neverAttacks, h]

end Findings

section Main

variable {σ : Type} [DiceSource σ]

/-- Of a weapon with an amount of zero validation says that it never attacks. Whatever the dice show, it
attacks once for every five models of the unit if it has blast, and not at all otherwise; so its trial
comes to nothing if and only if it has no blast or the unit has less than five models. -/
theorem trial_of_amount_eq_zero {w : WeaponProfile} (h : w.amount = 0) (context : String)
    (d : DefenderProfile) (config : AttackConfig) (s : σ) :
    neverAttacks context ∈ checkWeapon context w ∧
      ((trial w d config).run s).1.attacks =
        (if w.effects.blast then min (d.models / blastModels) maxCount else 0) ∧
      (((trial w d config).run s).1 = {} ↔ w.effects.blast = false ∨ d.models < blastModels) := by
  have hattacks : ((trial w d config).run s).1.attacks =
      if w.effects.blast then min (d.models / blastModels) maxCount else 0 := by
    rw [attacks_trial, Checked.run_attackCount, attacksFor_of_amount_eq_zero h]
  refine ⟨neverAttacks_mem_checkWeapon h context, hattacks, ?_⟩
  rw [trial_eq_empty_iff, hattacks]
  cases w.effects.blast with
  | false => simp
  | true =>
      simp only [↓reduceIte, Bool.true_eq_false, false_or, maxCount, blastModels]
      omega

def mortarRecord : WeaponRecord where
  attacks := some (.int 1)
  toHit := some (.int 3)
  strength := some (.int 4)
  damage := some (.int 1)
  amount := some (.int 0)
  keywords := ["blast"]

def mortar : WeaponProfile :=
  { (WeaponProfile.ofStats "mortar" (.constant 1) 3 4 0 (.constant 1)).withKeywords ["blast"] with
    amount := 0 }

theorem trial_of_amount_eq_zero_mortar :
    mortar.amount = 0 ∧ neverAttacks "mortar" ∈ checkWeapon "mortar" mortar ∧
      ((trial mortar (.ofStats "marines" 4 2 10 3) {}).run (Script.ofFaces [6, 5, 2])).1.attacks = 2 ∧
      (((trial mortar (.ofStats "marines" 4 2 10 3) {}).run (Script.ofFaces [6, 5, 2])).1 = {} ↔
        mortar.effects.blast = false ∨ 10 < blastModels) := by
  have h : mortar.amount = 0 := rfl
  exact ⟨h, trial_of_amount_eq_zero h "mortar" (.ofStats "marines" 4 2 10 3) {}
    (Script.ofFaces [6, 5, 2])⟩

/-- Though its amount is zero, and validation says that it never attacks, the mortar attacks ten models
twice. -/
theorem not_trial_eq_empty_mortar :
    WeaponProfile.ofRecord mortarRecord "mortar" = .ok mortar ∧ mortar.amount = 0 ∧
      checkWeapon "mortar" mortar = [neverAttacks "mortar"] ∧
      ((trial mortar (.ofStats "marines" 4 2 10 3) {}).run (Script.ofFaces [6])).1 =
        ⟨2, 2, 2, 0, 0, 0, 0⟩ ∧
      ¬ ∀ (w : WeaponProfile) (d : DefenderProfile) (config : AttackConfig) (s : Script),
        w.amount = 0 → ((trial w d config).run s).1 = {} := by
  have htrial : ((trial mortar (.ofStats "marines" 4 2 10 3) {}).run (Script.ofFaces [6])).1 =
      ⟨2, 2, 2, 0, 0, 0, 0⟩ := rfl
  refine ⟨rfl, rfl, by decide +kernel, htrial, fun h => ?_⟩
  have hnone := h mortar (.ofStats "marines" 4 2 10 3) {} (Script.ofFaces [6]) rfl
  rw [htrial] at hnone
  exact absurd hnone (by decide)

end Main

end Salvo
