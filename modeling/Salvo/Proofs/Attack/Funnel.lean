import Salvo.Dice.Script
import Salvo.Proofs.Attack.Stages
import Salvo.Proofs.Profile.Bounds

/-!
# The funnel of an attack

What passes one stage of an attack bounds what the next one can do: hits bound wounds, wounds bound
failed saves, and these, with the mortal wounds, bound the models that fall. `trial_funnel` says so
of every trial. The bound on damage rests on `Casualties.Consistent`, which the allocation keeps from
one instance of damage to the next.
-/

namespace Salvo

section Allocation

variable {d : DefenderProfile} {k : Nat} {c : Casualties}

/-- Where a unit can stand after `k` instances of damage. The damage covers all the wounds that are
gone, unless it has stopped at the largest count. -/
structure Casualties.Consistent (d : DefenderProfile) (k : Nat) (c : Casualties) : Prop where
  models : c.outcome.modelsDestroyed + c.modelsLeft = d.models
  destroyed_le : c.outcome.modelsDestroyed ≤ k
  woundsLeft_pos : 1 ≤ c.woundsLeft
  woundsLeft_le : c.woundsLeft ≤ d.wounds
  lost_le : c.outcome.modelsDestroyed * d.wounds + (d.wounds - c.woundsLeft) ≤ c.outcome.damage ∨
    c.outcome.damage = maxCount

theorem addCount_eq_or (a b : Nat) : addCount a b = a + b ∨ addCount a b = maxCount := by
  simp only [addCount]
  omega

theorem Casualties.consistent_start (h : 1 ≤ d.wounds) : (Casualties.start d).Consistent d 0 where
  models := Nat.zero_add _
  destroyed_le := Nat.le_refl 0
  woundsLeft_pos := h
  woundsLeft_le := Nat.le_refl _
  lost_le := by simp [Casualties.start]

/-- The excess of a killing blow is lost, so it counts at least the wounds that were left. -/
theorem Casualties.Consistent.take (h : c.Consistent d k) (hleft : c.modelsLeft ≠ 0)
    (rolled dealt : Nat) : (c.take d.wounds rolled dealt).Consistent d (k + 1) := by
  obtain ⟨hmodels, hdestroyed, hpos, hle, hlost⟩ := h
  have hdamage := addCount_eq_or c.outcome.damage dealt
  have hmax := addCount_le c.outcome.damage dealt
  have hkept : c.outcome.damage = maxCount → addCount c.outcome.damage dealt = maxCount := by
    intro heq
    simp only [addCount]
    omega
  have hproduct : (c.outcome.modelsDestroyed + 1) * d.wounds =
      c.outcome.modelsDestroyed * d.wounds + d.wounds := Nat.succ_mul _ _
  unfold Casualties.take applyDamage
  dsimp only
  split
  · -- the model falls
    constructor <;> dsimp only <;> omega
  · -- the model stands
    constructor <;> dsimp only <;> omega

theorem Casualties.Consistent.mono {j : Nat} (h : c.Consistent d k) (hle : k ≤ j) :
    c.Consistent d j :=
  { h with destroyed_le := Nat.le_trans h.destroyed_le hle }

variable {σ : Type} [DiceSource σ]

theorem allocate_succ (w : WeaponProfile) (d : DefenderProfile) (config : AttackConfig) (n : Nat)
    (c : Casualties) :
    (allocate w d config (n + 1) c : StateM σ Casualties) =
      if c.modelsLeft = 0 then pure c
      else (do
        let rolled ← damageInstance w d config.engagement
        let dealt ← feelNoPain rolled d.effects.feelNoPain config.feelNoPain
        allocate w d config n (c.take d.wounds rolled dealt)) := rfl

theorem Casualties.Consistent.allocate (w : WeaponProfile) (config : AttackConfig) (n : Nat) (s : σ)
    (h : c.Consistent d k) :
    (((Salvo.allocate w d config n c).run s).1).Consistent d (k + n) := by
  induction n generalizing k c s with
  | zero => exact h
  | succ n ih =>
      rw [allocate_succ]
      split
      · exact h.mono (Nat.le_add_right k _)
      · rename_i hleft
        rw [run_bind, run_bind, Nat.add_comm n 1, ← Nat.add_assoc]
        exact ih _ (h.take hleft _ _)

theorem consistent_resolveDamage (hd : d.InBounds) (failed mortal : Nat) (w : WeaponProfile)
    (config : AttackConfig) (s : σ) :
    ∃ c : Casualties, ((resolveDamage failed mortal w d config).run s).1 = c.outcome ∧
      c.Consistent d (addCount failed mortal) := by
  have hend := (Casualties.consistent_start hd.wounds.1).allocate w config
    (addCount failed mortal) s
  rw [Nat.zero_add] at hend
  exact ⟨_, rfl, hend⟩

theorem modelsDestroyed_resolveDamage_le (hd : d.InBounds) (failed mortal : Nat) (w : WeaponProfile)
    (config : AttackConfig) (s : σ) :
    ((resolveDamage failed mortal w d config).run s).1.modelsDestroyed ≤
      min d.models (failed + mortal) := by
  obtain ⟨c, hc, h⟩ := consistent_resolveDamage hd failed mortal w config s
  have hmodels := h.models
  have hdestroyed := h.destroyed_le
  have hcount : addCount failed mortal ≤ failed + mortal := Nat.min_le_left ..
  rw [hc]
  omega

/-- Each model that falls has lost all its wounds. The product itself can be counted, so the damage
covers it even where it has stopped at the largest count. -/
theorem modelsDestroyed_mul_wounds_le (hd : d.InBounds) (failed mortal : Nat) (w : WeaponProfile)
    (config : AttackConfig) (s : σ) :
    ((resolveDamage failed mortal w d config).run s).1.modelsDestroyed * d.wounds ≤
      ((resolveDamage failed mortal w d config).run s).1.damage := by
  obtain ⟨c, hc, h⟩ := consistent_resolveDamage hd failed mortal w config s
  have hmodels : c.outcome.modelsDestroyed ≤ d.models := by
    have := h.models
    omega
  have hpool : c.outcome.modelsDestroyed * d.wounds ≤ maxCount :=
    Nat.le_trans (Nat.mul_le_mul_right _ hmodels) hd.models_mul_wounds_le
  have hlost := h.lost_le
  rw [hc]
  omega

theorem resolveDamage_of_eq_zero {failed mortal : Nat} (h : failed + mortal = 0) (w : WeaponProfile)
    (d : DefenderProfile) (config : AttackConfig) (s : σ) :
    ((resolveDamage failed mortal w d config).run s).1 = {} := by
  obtain ⟨rfl, rfl⟩ := Nat.add_eq_zero_iff.1 h
  rfl

end Allocation

section Trial

/-- How the counts of a trial bound each other. -/
structure Trial.Funnel (t : Trial) (w : WeaponProfile) (d : DefenderProfile) : Prop where
  unsaved_le : t.failedSaves + t.mortalWounds ≤ t.wounds
  mortalWounds_eq_zero : w.effects.devastatingWounds = false → t.mortalWounds = 0
  modelsDestroyed_le : t.modelsDestroyed ≤ min d.models (t.failedSaves + t.mortalWounds)
  modelsDestroyed_mul_le : t.modelsDestroyed * d.wounds ≤ t.damage
  damage_eq_zero : t.failedSaves + t.mortalWounds = 0 → t.damage = 0
  eq_zero : t.attacks = 0 → t = {}
  hits_le : w.effects.sustainedHits = none ∨ w.effects.torrent = true → t.hits ≤ t.attacks
  wounds_le : w.effects.sustainedHits = none ∨ w.effects.torrent = true → t.wounds ≤ t.attacks

variable {σ : Type} [DiceSource σ]

theorem exists_stages (t : Targets) (w : WeaponProfile) (d : DefenderProfile) (config : AttackConfig)
    (s : σ) : ∃ s₁ s₂ s₃ : σ, ∃ o : Outcomes, ((attackAt t w d config).run s).1 = o ∧
      o.hit = ((resolveHitsAt t.hit w d config.engagement).run s).1 ∧
      o.wound = ((resolveWoundsAt t.wound t.criticalWound o.hit.hits w).run s₁).1 ∧
      o.save = ((resolveSavesAt t.save (o.wound.wounds + o.hit.autoWounds)).run s₂).1 ∧
      o.damage = ((resolveDamage o.save.failed o.wound.mortalWounds w d config).run s₃).1 :=
  ⟨_, _, _, _, rfl, rfl, rfl, rfl, rfl⟩

/-- Every trial against a checked unit is a funnel, on any dice. -/
theorem trial_funnel {r : DefenderRecord} {name : String} {d : DefenderProfile}
    (hd : DefenderProfile.ofRecord r name = .ok d) (w : WeaponProfile) (config : AttackConfig)
    (s : σ) : (((trial w d config).run s).1).Funnel w d := by
  have hbounds := DefenderProfile.inBounds_of_ofRecord hd
  obtain ⟨s₁, s₂, s₃, o, ho, hhit, hwound, hsave, hdamage⟩ :=
    exists_stages (.of w d config.engagement) w d config s
  have htrial : ((trial w d config).run s).1 = o.trial := congrArg Outcomes.trial ho
  have hlanded : w.effects.sustainedHits = none ∨ w.effects.torrent = true →
      o.hit.hits + o.hit.autoWounds ≤ o.hit.attacks := fun h =>
    hhit ▸ landed_resolveHitsAt_le h _ d config.engagement s
  have hnone : o.hit.attacks = 0 → o.hit.hits + o.hit.autoWounds = 0 := fun h =>
    hhit ▸ landed_resolveHitsAt_of_attacks_eq_zero (hhit ▸ h)
  have hwounds : o.wound.wounds + o.wound.mortalWounds ≤ o.hit.hits :=
    hwound ▸ resolveWoundsAt_le _ _ _ w s₁
  have hfailed : o.save.failed ≤ o.wound.wounds + o.hit.autoWounds :=
    hsave ▸ failed_resolveSavesAt_le _ _ s₂
  have hmortal : w.effects.devastatingWounds = false → o.wound.mortalWounds = 0 := fun h =>
    hwound ▸ mortalWounds_resolveWoundsAt h _ _ _ s₁
  have hmodels : o.damage.modelsDestroyed ≤ min d.models (o.save.failed + o.wound.mortalWounds) :=
    hdamage ▸ modelsDestroyed_resolveDamage_le hbounds _ _ w config s₃
  have hpool : o.damage.modelsDestroyed * d.wounds ≤ o.damage.damage :=
    hdamage ▸ modelsDestroyed_mul_wounds_le hbounds _ _ w config s₃
  have hunhurt : o.save.failed + o.wound.mortalWounds = 0 → o.damage = {} := fun h =>
    hdamage ▸ resolveDamage_of_eq_zero h w d config s₃
  rw [htrial]
  refine {
    unsaved_le := ?_
    mortalWounds_eq_zero := hmortal
    modelsDestroyed_le := hmodels
    modelsDestroyed_mul_le := hpool
    damage_eq_zero := fun h => congrArg DamageOutcome.damage (hunhurt h)
    eq_zero := fun h => ?_
    hits_le := fun h => Nat.le_trans (Nat.le_add_right _ _) (hlanded h)
    wounds_le := fun h => ?_ }
  · simp only [Outcomes.trial]
    omega
  · -- without attacks nothing lands, so no stage has anything to roll for
    have hzero := hnone h
    have hfailedZero : o.save.failed + o.wound.mortalWounds = 0 := by omega
    simp only [Outcomes.trial, hunhurt hfailedZero, Trial.mk.injEq, and_true]
    refine ⟨h, ?_⟩
    omega
  · have hle := hlanded h
    simp only [Outcomes.trial]
    omega

/-- A hammer whose critical hits strike again and wound at once, and whose critical wounds allow no
save. -/
def hammer : WeaponProfile :=
  { WeaponProfile.ofStats "hammer" (.constant 4) 3 4 (-1) ⟨1, 3, 0⟩ with
    effects := {
      lethalHits := true
      devastatingWounds := true
      sustainedHits := some (.constant 1) } }

def marinesRecord : DefenderRecord where
  toughness := some (.int 4)
  wounds := some (.text "2")
  models := some (.int 5)
  save := some (.text "3+")

theorem trial_funnel_hammer :
    DefenderProfile.ofRecord marinesRecord "marines" = .ok (.ofStats "marines" 4 2 5 3) ∧
      (((trial hammer (.ofStats "marines" 4 2 5 3) {}).run
        (Script.ofFaces [6, 3, 5, 6, 2, 1, 6])).1).Funnel hammer (.ofStats "marines" 4 2 5 3) := by
  have h : DefenderProfile.ofRecord marinesRecord "marines" =
      .ok (.ofStats "marines" 4 2 5 3) := rfl
  exact ⟨h, trial_funnel h hammer {} (Script.ofFaces [6, 3, 5, 6, 2, 1, 6])⟩

example : ((trial hammer (.ofStats "marines" 4 2 5 3) {}).run
    (Script.ofFaces [6, 3, 5, 6, 2, 1, 6])).1 = ⟨4, 4, 4, 2, 1, 6, 2⟩ := by decide

end Trial

end Salvo
