import Mathlib.Algebra.Order.Group.Int
import Salvo.Proofs.Attack.Exact

/-!
# Characteristics and target numbers

Target numbers move the way the characteristics do: a stronger attack wounds more easily, a tougher unit
less so, and a better armour save, less armour penetration, cover or an invulnerable save never make
saving harder. Cover helps only up to a limit of the very save that it improves, so a save just behind
the limit jumps over it; but the save without cover is never below the one with cover, and so the jump
goes the right way (`armourTarget_mono`).
-/

namespace Salvo

theorem woundTable_anti {strength strength' : Int} (h : strength ≤ strength') (toughness : Int) :
    woundTable strength' toughness ≤ woundTable strength toughness := by
  simp only [woundTable]
  split_ifs <;> omega

theorem woundTable_mono {toughness toughness' : Int} (h : toughness ≤ toughness') (strength : Int) :
    woundTable strength toughness ≤ woundTable strength toughness' := by
  simp only [woundTable]
  split_ifs <;> omega

section Armour

variable (w : WeaponProfile) (d : DefenderProfile)

def coverCounts : Bool := d.effects.cover && !w.effects.ignoresCover

def plainSave : Int := toStat (armourSave w d - w.ap)

def coveredSave : Int := toStat (armourSave w d - toStat (w.ap + 1))

/-- The save of the armour, with cover as far as it goes. -/
def armourTarget : Int :=
  if coverCounts w d = true ∧ coveredSave w d ≤ coverSaveLimit then coveredSave w d
  else plainSave w d

theorem saveTarget_eq :
    saveTarget w d = d.invulnerable.elim (armourTarget w d) (min · (armourTarget w d)) := by
  have harmour : toStat (armourSave w d - effectiveAp w d) = armourTarget w d := by
    simp only [effectiveAp, armourTarget, coverCounts, coveredSave, plainSave, Bool.and_eq_true,
      decide_eq_true_eq]
    split <;> rfl
  simp only [saveTarget, saveTable, harmour]
  cases d.invulnerable with
  | none => rfl
  | some inv =>
      dsimp only [Option.elim_some]
      split <;> omega

variable {w d} {w' : WeaponProfile} {d' : DefenderProfile}

theorem coveredSave_le_plainSave (h : w.ap ≤ maxStat) : coveredSave w d ≤ plainSave w d := by
  have hap : w.ap ≤ toStat (w.ap + 1) := by
    simp only [toStat]
    omega
  exact toStat_mono (Int.sub_le_sub_left hap _)

theorem armourTarget_mono (hcover : coverCounts w' d' = true → coverCounts w d = true)
    (hcovered : coveredSave w d ≤ coveredSave w' d') (hplain : plainSave w d ≤ plainSave w' d')
    (hap : w'.ap ≤ maxStat) : armourTarget w d ≤ armourTarget w' d' := by
  have hhelps : coveredSave w' d' ≤ plainSave w' d' := coveredSave_le_plainSave hap
  unfold armourTarget
  split
  · split
    · exact hcovered
    · exact hcovered.trans hhelps
  · rename_i hwithout
    split
    · rename_i hwith
      exact absurd ⟨hcover hwith.1, hcovered.trans hwith.2⟩ hwithout
    · exact hplain

theorem saveTarget_mono (hinv : d.invulnerable = d'.invulnerable)
    (h : armourTarget w d ≤ armourTarget w' d') : saveTarget w d ≤ saveTarget w' d' := by
  rw [saveTarget_eq, saveTarget_eq, hinv]
  cases d'.invulnerable with
  | none => exact h
  | some inv => exact min_le_min le_rfl h

end Armour

section Main

def WeaponProfile.withAp (w : WeaponProfile) (ap : Int) : WeaponProfile := { w with ap := ap }

def WeaponProfile.ignoringCover (w : WeaponProfile) : WeaponProfile :=
  { w with effects := { w.effects with ignoresCover := true } }

def DefenderProfile.withSave (d : DefenderProfile) (save : Int) : DefenderProfile :=
  { d with save := save }

def DefenderProfile.withInvulnerable (d : DefenderProfile) (inv : Option Int) : DefenderProfile :=
  { d with invulnerable := inv }

def DefenderProfile.inCover (d : DefenderProfile) : DefenderProfile :=
  { d with effects := { d.effects with cover := true } }

variable {w : WeaponProfile} {d : DefenderProfile}

/-- How the roll that saves follows the characteristics of both sides. -/
structure SaveOrder (w : WeaponProfile) (d : DefenderProfile) : Prop where
  le_of_save_le : ∀ save save' : Int, save ≤ save' →
    saveTarget w (d.withSave save) ≤ saveTarget w (d.withSave save')
  le_of_ap_le : ∀ ap ≤ w.ap, saveTarget w d ≤ saveTarget (w.withAp ap) d
  inCover_le : saveTarget w d.inCover ≤ saveTarget w d
  le_ignoringCover : saveTarget w d ≤ saveTarget w.ignoringCover d
  /-- An invulnerable save is taken where it is lower. -/
  invulnerable_eq : ∀ inv, saveTarget w (d.withInvulnerable (some inv)) =
    min inv (saveTarget w (d.withInvulnerable none))

theorem armourSave_withSave_mono {save save' : Int} (h : save ≤ save') :
    armourSave w (d.withSave save) ≤ armourSave w (d.withSave save') :=
  toStat_mono (Int.sub_le_sub_right h _)

theorem saveOrder_of_ap_le (h : w.ap ≤ maxStat) : SaveOrder w d where
  le_of_save_le save save' hsave := by
    have harmour := armourSave_withSave_mono (w := w) (d := d) hsave
    exact saveTarget_mono rfl (armourTarget_mono id (toStat_mono (Int.sub_le_sub_right harmour _))
      (toStat_mono (Int.sub_le_sub_right harmour _)) h)
  le_of_ap_le ap hap := by
    have hcovered : toStat (ap + 1) ≤ toStat (w.ap + 1) := toStat_mono (Int.add_le_add_right hap 1)
    exact saveTarget_mono rfl (armourTarget_mono id (toStat_mono (Int.sub_le_sub_left hcovered _))
      (toStat_mono (Int.sub_le_sub_left hap _)) (hap.trans h))
  inCover_le := by
    refine saveTarget_mono rfl (armourTarget_mono (fun hcover => ?_) le_rfl le_rfl h)
    exact Bool.and_eq_true_iff.2 ⟨rfl, (Bool.and_eq_true_iff.1 hcover).2⟩
  le_ignoringCover := by
    refine saveTarget_mono rfl (armourTarget_mono (fun hcover => ?_) le_rfl le_rfl h)
    exact absurd (Bool.and_eq_true_iff.1 hcover).2 (by simp [WeaponProfile.ignoringCover])
  invulnerable_eq inv := by
    rw [saveTarget_eq, saveTarget_eq]
    rfl

/-- Target numbers follow the characteristics: more strength never raises the roll that wounds and more
toughness never lowers it; a worse armour save or more armour penetration never lowers the roll that
saves, cover or an invulnerable save never raises it, and ignoring cover never lowers it. -/
theorem targets_ordered :
    (∀ toughness strength strength' : Int, strength ≤ strength' →
      woundTable strength' toughness ≤ woundTable strength toughness) ∧
    (∀ strength toughness toughness' : Int, toughness ≤ toughness' →
      woundTable strength toughness ≤ woundTable strength toughness') ∧
    ∀ (w : WeaponProfile) (d : DefenderProfile), w.ap ≤ maxStat → SaveOrder w d :=
  ⟨fun toughness _ _ h => woundTable_anti h toughness,
    fun strength _ _ h => woundTable_mono h strength, fun _ _ => saveOrder_of_ap_le⟩

theorem targets_ordered_rifle : rifle.ap ≤ maxStat ∧ SaveOrder rifle garrison := by
  have hap : rifle.ap ≤ maxStat := by decide
  exact ⟨hap, targets_ordered.2.2 rifle garrison hap⟩

/-- From a two to a three cover ceases to help, and the roll that saves goes up by two. -/
example : saveTarget rifle (garrison.withSave 2) = 3 ∧ saveTarget rifle (garrison.withSave 3) = 5 := by
  decide

end Main

end Salvo
