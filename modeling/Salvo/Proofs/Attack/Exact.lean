import Salvo.Attack.Targets
import Salvo.Proofs.Profile.Numbers

/-!
# Exact target numbers

Target numbers are found by operations that stop at the bounds of a characteristic. Between checked
profiles none of them ever stops: each result is within the bounds by far, so the targets are those of
the rules in plain integers (`targets_eq_exact_of_ofRecord`).
-/

namespace Salvo

/-- A characteristic can have this value. -/
def FitsStat (n : Int) : Prop := minStat ≤ n ∧ n ≤ maxStat

theorem FitsStat.toStat_eq {n : Int} (h : FitsStat n) : toStat n = n := toStat_of_mem h.1 h.2

theorem fitsStat_of_mem {n : Int} (h : -3000 ≤ n ∧ n ≤ 3000) : FitsStat n := by
  simp only [FitsStat, minStat, maxStat]
  omega

section Rules

variable (w : WeaponProfile) (d : DefenderProfile) (e : Engagement)

/-- What makes hitting easier. Standing still helps heavy weapons and stealth hides from ranged ones. -/
def exactHitBonus : Int :=
  w.effects.hitModifier + d.effects.hitModifier +
    (if w.kind = .ranged ∧ w.effects.heavy = true ∧ e.stationary = true then 1 else 0) -
    (if w.kind = .ranged ∧ d.effects.stealth = true then 1 else 0)

def exactHit : Int := w.toHit - exactHitBonus w d e

/-- The wound roll by the rules: strength at least double, greater, equal, less, or at most half. -/
def exactWoundTable (strength toughness : Int) : Int :=
  if 2 * toughness ≤ strength then 2
  else if toughness < strength then 3
  else if toughness = strength then 4
  else if toughness < 2 * strength then 5
  else 6

/-- What makes wounding easier. A lance helps in melee. -/
def exactWoundBonus : Int :=
  w.effects.woundModifier + d.effects.woundModifier +
    (if w.kind = .melee ∧ w.effects.lance = true then 1 else 0)

def exactWound : Int := exactWoundTable w.strength d.toughness - exactWoundBonus w d

def exactArmour : Int := d.save - (w.effects.saveModifier + d.effects.saveModifier)

/-- Cover takes one off the armour penetration, unless the weapon ignores it or the save would still be
worse than a three. -/
def exactAp : Int :=
  if d.effects.cover = true ∧ w.effects.ignoresCover = false ∧ exactArmour w d - (w.ap + 1) ≤ 3
  then w.ap + 1 else w.ap

/-- The better one of the armour save and the invulnerable save, if there is one. -/
def exactSave : Int :=
  match d.invulnerable with
  | some inv => min inv (exactArmour w d - exactAp w d)
  | none => exactArmour w d - exactAp w d

/-- No number on the way to the target numbers is out of the bounds of a characteristic. -/
structure Targets.Unsaturated : Prop where
  hitBonus : FitsStat (exactHitBonus w d e)
  hit : FitsStat (exactHit w d e)
  woundBonus : FitsStat (exactWoundBonus w d)
  wound : FitsStat (exactWound w d)
  saveModifier : FitsStat (w.effects.saveModifier + d.effects.saveModifier)
  armour : FitsStat (exactArmour w d)
  covered : FitsStat (w.ap + 1)
  coveredSave : FitsStat (exactArmour w d - (w.ap + 1))
  save : FitsStat (exactArmour w d - exactAp w d)

end Rules

section Unsaturated

variable {w : WeaponProfile} {d : DefenderProfile} {e : Engagement}

theorem WeaponProfile.kind_eq_ranged_or (w : WeaponProfile) : w.kind = .ranged ∨ w.kind = .melee := by
  cases w.kind with
  | ranged => exact .inl rfl
  | melee => exact .inr rfl

theorem hitModifier_eq_exactHitBonus (w : WeaponProfile) (d : DefenderProfile) (e : Engagement) :
    hitModifier w d e = exactHitBonus w d e := by
  rcases w.kind_eq_ranged_or with hkind | hkind
  · simp [hitModifier, exactHitBonus, WeaponProfile.isMelee, hkind]
  · simp [hitModifier, exactHitBonus, WeaponProfile.isMelee, hkind]

theorem woundModifier_eq_exactWoundBonus (w : WeaponProfile) (d : DefenderProfile) :
    woundModifier w d = exactWoundBonus w d := by
  rcases w.kind_eq_ranged_or with hkind | hkind
  · simp [woundModifier, exactWoundBonus, WeaponProfile.isMelee, hkind]
  · simp [woundModifier, exactWoundBonus, WeaponProfile.isMelee, hkind]

theorem woundTable_eq_exactWoundTable (strength toughness : Int) :
    woundTable strength toughness = exactWoundTable strength toughness := by
  simp only [woundTable, exactWoundTable]
  split_ifs <;> omega

theorem Targets.Unsaturated.hitTarget_eq (h : Targets.Unsaturated w d e) :
    hitTarget w d e = exactHit w d e := by
  rw [hitTarget, hitModifier_eq_exactHitBonus]
  exact h.hit.toStat_eq

theorem Targets.Unsaturated.woundTarget_eq (h : Targets.Unsaturated w d e) :
    woundTarget w d = exactWound w d := by
  rw [woundTarget, woundModifier_eq_exactWoundBonus, woundTable_eq_exactWoundTable]
  exact h.wound.toStat_eq

theorem Targets.Unsaturated.effectiveAp_eq (h : Targets.Unsaturated w d e) :
    effectiveAp w d = exactAp w d := by
  have harmour : armourSave w d = exactArmour w d := h.armour.toStat_eq
  simp only [effectiveAp, exactAp, coverSaveLimit, h.covered.toStat_eq, harmour,
    h.coveredSave.toStat_eq, Bool.and_eq_true, Bool.not_eq_true', decide_eq_true_eq, and_assoc]

theorem Targets.Unsaturated.saveTarget_eq (h : Targets.Unsaturated w d e) :
    saveTarget w d = exactSave w d := by
  have harmour : armourSave w d = exactArmour w d := h.armour.toStat_eq
  rw [saveTarget, exactSave, harmour, h.effectiveAp_eq]
  simp only [saveTable, h.save.toStat_eq]
  cases d.invulnerable with
  | none => rfl
  | some inv =>
      dsimp only
      split <;> omega

end Unsaturated

section Checked

variable {w : WeaponProfile} {d : DefenderProfile}

theorem exactHitBonus_mem (hw : w.effects.InBounds) (hd : d.effects.InBounds) (e : Engagement) :
    -3 ≤ exactHitBonus w d e ∧ exactHitBonus w d e ≤ 3 := by
  have hweapon := hw.hitModifier
  have hdefender := hd.hitModifier
  simp only [exactHitBonus]
  split <;> split <;> omega

theorem exactWoundBonus_mem (hw : w.effects.InBounds) (hd : d.effects.InBounds) :
    -2 ≤ exactWoundBonus w d ∧ exactWoundBonus w d ≤ 3 := by
  have hweapon := hw.woundModifier
  have hdefender := hd.woundModifier
  simp only [exactWoundBonus]
  split <;> omega

theorem exactWoundTable_mem (strength toughness : Int) :
    2 ≤ exactWoundTable strength toughness ∧ exactWoundTable strength toughness ≤ 6 := by
  simp only [exactWoundTable]
  split_ifs <;> decide

theorem exactAp_eq_or (w : WeaponProfile) (d : DefenderProfile) :
    exactAp w d = w.ap ∨ exactAp w d = w.ap + 1 := by
  simp only [exactAp]
  split
  · exact .inr rfl
  · exact .inl rfl

/-- Characteristics of at most a thousand and modifiers of a few leave room to the bounds. -/
theorem Targets.unsaturated_of_inBounds (hw : w.InBounds) (hd : d.InBounds)
    (hweapon : w.effects.InBounds) (hdefender : d.effects.InBounds) (e : Engagement) :
    Targets.Unsaturated w d e := by
  have hhit := exactHitBonus_mem hweapon hdefender e
  have hwound := exactWoundBonus_mem hweapon hdefender
  have htable := exactWoundTable_mem w.strength d.toughness
  have hsaveWeapon := hweapon.saveModifier
  have hsaveDefender := hdefender.saveModifier
  have hskill : 0 ≤ w.toHit ∧ w.toHit ≤ 1000 := by
    have htoHit := hw.toHit
    simp only [maxCharacteristic] at htoHit
    omega
  have hap : -1000 ≤ w.ap ∧ w.ap ≤ 0 := hw.ap
  have hsave : 1 ≤ d.save ∧ d.save ≤ 1000 := hd.save
  have harmour : -3 ≤ exactArmour w d ∧ exactArmour w d ≤ 1004 := by
    simp only [exactArmour]
    omega
  have heffective := exactAp_eq_or w d
  exact {
    hitBonus := fitsStat_of_mem (by omega)
    hit := fitsStat_of_mem (by rw [exactHit]; omega)
    woundBonus := fitsStat_of_mem (by omega)
    wound := fitsStat_of_mem (by rw [exactWound]; omega)
    saveModifier := fitsStat_of_mem (by omega)
    armour := fitsStat_of_mem (by omega)
    covered := fitsStat_of_mem (by omega)
    coveredSave := fitsStat_of_mem (by omega)
    save := fitsStat_of_mem (by omega) }

/-- Checked profiles keep the arithmetic of targets exact. Their numbers are within bounds, the effects
are those of the keywords that they keep, and the record with the opposite armour penetration gives the
same weapon; and in every engagement the target numbers are what the rules make of the numbers in the
profiles, with none on the way to them cut off. -/
theorem targets_eq_exact_of_ofRecord {weapon : WeaponRecord} {unit : DefenderRecord}
    {weaponName unitName : String} (hw : WeaponProfile.ofRecord weapon weaponName = .ok w)
    (hd : DefenderProfile.ofRecord unit unitName = .ok d) :
    w.InBounds ∧ d.InBounds ∧ d.effects = DefenderEffects.ofTags d.keywords ∧
      (∀ f n stat, Stat.toInt f weapon.ap = .ok n → Stat.toInt f (some stat) = .ok (-n) →
        WeaponProfile.ofRecord (weapon.putNumber stat .ap) weaponName = .ok w) ∧
      ∀ e, hitTarget w d e = exactHit w d e ∧ woundTarget w d = exactWound w d ∧
        saveTarget w d = exactSave w d ∧ Targets.Unsaturated w d e := by
  have hfulfils := WeaponProfile.ofRecord_eq_ok_iff.1 hw
  have hweapon := hfulfils.inBounds
  have hunit := DefenderProfile.inBounds_of_ofRecord hd
  have hunsaturated (e : Engagement) : Targets.Unsaturated w d e :=
    Targets.unsaturated_of_inBounds hweapon hunit
      (WeaponProfile.rollsInBounds_of_ofRecord hw).effects
      (DefenderProfile.effects_inBounds_of_ofRecord hd) e
  refine ⟨hweapon, hunit, DefenderProfile.effects_of_ofRecord hd, ?_, ?_⟩
  · intro f n stat hn hneg
    exact WeaponProfile.ofRecord_eq_ok_iff.2 (hfulfils.putNumber_ap hn hneg)
  · intro e
    exact ⟨(hunsaturated e).hitTarget_eq, (hunsaturated e).woundTarget_eq,
      (hunsaturated e).saveTarget_eq, hunsaturated e⟩

def rifleRecord (ap : Stat) : WeaponRecord where
  attacks := some (.int 2)
  toHit := some (.text "3+")
  strength := some (.int 4)
  ap := some ap
  damage := some (.int 1)
  keywords := ["heavy"]

def rifle : WeaponProfile :=
  (WeaponProfile.ofStats "rifle" (.constant 2) 3 4 2 (.constant 1)).withKeywords ["heavy"]

def garrisonRecord : DefenderRecord where
  toughness := some (.int 5)
  wounds := some (.int 1)
  models := some (.int 10)
  save := some (.int 3)
  keywords := ["cover"]

def garrison : DefenderProfile := (DefenderProfile.ofStats "garrison" 5 1 10 3).withKeywords ["cover"]

/-- In cover the save would still be no better than a four, so cover does not help. -/
theorem targets_eq_exact_rifle :
    WeaponProfile.ofRecord (rifleRecord (.text "-2")) "rifle" = .ok rifle ∧
      DefenderProfile.ofRecord garrisonRecord "garrison" = .ok garrison ∧
      WeaponProfile.ofRecord (rifleRecord (.int 2)) "rifle" = .ok rifle ∧
      hitTarget rifle garrison ⟨false, true⟩ = 2 ∧ woundTarget rifle garrison = 5 ∧
      saveTarget rifle garrison = 5 := by
  have hw : WeaponProfile.ofRecord (rifleRecord (.text "-2")) "rifle" = .ok rifle := rfl
  have hd : DefenderProfile.ofRecord garrisonRecord "garrison" = .ok garrison := rfl
  obtain ⟨-, -, -, hsign, hexact⟩ := targets_eq_exact_of_ofRecord hw hd
  have hopposite := hsign ⟨"rifle", "ap"⟩ (-2) (.int 2) rfl rfl
  obtain ⟨hhit, hwound, hsave, -⟩ := hexact ⟨false, true⟩
  exact ⟨hw, hd, hopposite, hhit.trans (by decide), hwound.trans (by decide), hsave.trans (by decide)⟩

end Checked

end Salvo
