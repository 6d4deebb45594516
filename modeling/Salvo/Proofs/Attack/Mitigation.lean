import Mathlib.Algebra.Order.Group.Int
import Salvo.Proofs.Attack.Stages
import Salvo.Proofs.Dice.Throws

/-!
# Damage and protection

An instance of damage is what is rolled and what the weapon adds, halved and lowered by the unit's
protection. Neither of the two goes below one, so only the roll and what is added to it can come to
nothing, and more of them never leads to less (`damageInstance_rules`).
-/

namespace Salvo

section Mitigated

variable {fx : DefenderEffects} {amount amount' : Nat}

@[simp] theorem mitigated_zero (fx : DefenderEffects) : mitigated fx 0 = 0 := rfl

/-- An amount that is not zero is halved and lowered, each to no less than one. -/
theorem mitigated_of_pos (h : 1 ≤ amount) :
    mitigated fx amount =
      max 1 ((if fx.halveDamage then max 1 (amount / 2) else amount) - fx.damageReduction) := by
  rw [mitigated, if_neg (Nat.ne_of_gt h)]
  dsimp only [halved, reduced]
  split <;> split <;> omega

theorem mitigated_le (fx : DefenderEffects) (amount : Nat) : mitigated fx amount ≤ amount := by
  rcases Nat.eq_zero_or_pos amount with rfl | hpos
  · exact Nat.le_refl 0
  · rw [mitigated_of_pos hpos]
    split <;> omega

theorem mitigated_eq_zero_iff : mitigated fx amount = 0 ↔ amount = 0 := by
  rcases Nat.eq_zero_or_pos amount with rfl | hpos
  · simp
  · rw [mitigated_of_pos hpos]
    omega

theorem mitigated_mono (h : amount ≤ amount') (fx : DefenderEffects) :
    mitigated fx amount ≤ mitigated fx amount' := by
  rcases Nat.eq_zero_or_pos amount with rfl | hpos
  · exact Nat.zero_le _
  · rw [mitigated_of_pos hpos, mitigated_of_pos (hpos.trans_le h)]
    refine max_le_max le_rfl (Nat.sub_le_sub_right ?_ _)
    split
    · exact max_le_max le_rfl (Nat.div_le_div_right h)
    · exact h

theorem mitigated_halveDamage_le (fx : DefenderEffects) (amount : Nat) :
    mitigated { fx with halveDamage := true } amount ≤ mitigated fx amount := by
  rcases Nat.eq_zero_or_pos amount with rfl | hpos
  · exact Nat.zero_le _
  · rw [mitigated_of_pos hpos, mitigated_of_pos hpos]
    refine max_le_max le_rfl (Nat.sub_le_sub_right ?_ _)
    change max 1 (amount / 2) ≤ _
    split
    · exact le_rfl
    · exact max_le hpos (Nat.div_le_self amount 2)

theorem mitigated_damageReduction_anti {n n' : Nat} (h : n ≤ n') (fx : DefenderEffects)
    (amount : Nat) : mitigated { fx with damageReduction := n' } amount ≤
      mitigated { fx with damageReduction := n } amount := by
  rcases Nat.eq_zero_or_pos amount with rfl | hpos
  · exact Nat.zero_le _
  · rw [mitigated_of_pos hpos, mitigated_of_pos hpos]
    exact max_le_max le_rfl (Nat.sub_le_sub_left h _)

end Mitigated

def WeaponProfile.withDamage (w : WeaponProfile) (damage : DiceExpr) : WeaponProfile :=
  { w with damage := damage }

def WeaponProfile.withDamageModifier (w : WeaponProfile) (n : Int) : WeaponProfile :=
  { w with effects := { w.effects with damageModifier := n } }

def WeaponProfile.withMelta (w : WeaponProfile) (n : Option Nat) : WeaponProfile :=
  { w with effects := { w.effects with melta := n } }

def DefenderProfile.withHalvedDamage (d : DefenderProfile) : DefenderProfile :=
  { d with effects := { d.effects with halveDamage := true } }

def DefenderProfile.withDamageReduction (d : DefenderProfile) (n : Nat) : DefenderProfile :=
  { d with effects := { d.effects with damageReduction := n } }

section Instances

variable {σ : Type} [DiceSource σ] (w : WeaponProfile) (d : DefenderProfile) (e : Engagement) (s : σ)

/-- What is rolled for an instance of damage, with the weapon's modifier and, at half range, its melta. -/
def rolledDamage : Int :=
  (w.damage.roll.run s).1 + w.effects.damageModifier +
    if e.halfRange then (w.effects.melta.getD 0 : Int) else 0

theorem run_damageInstance :
    (damageInstance w d e).run s =
      (mitigated d.effects (toCount (rolledDamage w e s)), (w.damage.roll.run s).2) := by
  rw [rolledDamage, Int.add_assoc]
  rfl

variable {w e s}

theorem damageInstance_mono {w' : WeaponProfile} {s' : σ}
    (h : rolledDamage w e s ≤ rolledDamage w' e s') :
    ((damageInstance w d e).run s).1 ≤ ((damageInstance w' d e).run s').1 := by
  rw [run_damageInstance, run_damageInstance]
  exact mitigated_mono (toCount_mono h) d.effects

variable (w e s)

/-- How an instance of damage follows from the roll and from all that changes it. -/
structure DamageRules : Prop where
  /-- Only the roll throws dice, and it is the sum of their faces and the modifier of the expression, as
  far as that is a count. -/
  rolled_eq : ∃ faces : List Nat, faces.length = w.damage.count ∧
    DiceSource.Shows s (w.damage.throws faces) ((damageInstance w d e).run s).2 ∧
    (w.damage.roll.run s).1 = min (w.damage.modifier + (faces.sum : Nat)).toNat maxCount
  roll_mono : ∀ (damage : DiceExpr) (s' : σ), (w.damage.roll.run s).1 ≤ (damage.roll.run s').1 →
    ((damageInstance w d e).run s).1 ≤ ((damageInstance (w.withDamage damage) d e).run s').1
  modifier_mono : ∀ n n' : Int, n ≤ n' → ((damageInstance (w.withDamageModifier n) d e).run s).1 ≤
    ((damageInstance (w.withDamageModifier n') d e).run s).1
  /-- Without melta nothing is added. -/
  melta_mono : ∀ n n' : Option Nat, n.getD 0 ≤ n'.getD 0 →
    ((damageInstance (w.withMelta n) d e).run s).1 ≤ ((damageInstance (w.withMelta n') d e).run s).1
  halved_le : ((damageInstance w d.withHalvedDamage e).run s).1 ≤ ((damageInstance w d e).run s).1
  reduction_anti : ∀ n n' : Nat, n ≤ n' →
    ((damageInstance w (d.withDamageReduction n') e).run s).1 ≤
      ((damageInstance w (d.withDamageReduction n) e).run s).1
  eq_zero_iff : ((damageInstance w d e).run s).1 = 0 ↔ rolledDamage w e s ≤ 0
  eq_max : 1 ≤ rolledDamage w e s → rolledDamage w e s ≤ maxCount →
    (((damageInstance w d e).run s).1 : Int) =
      max 1 ((if d.effects.halveDamage then max 1 (rolledDamage w e s / 2) else rolledDamage w e s) -
        d.effects.damageReduction)

theorem damageInstance_rules : DamageRules w d e s where
  rolled_eq := by
    refine ⟨((DiceExpr.rollFaces w.damage.sides w.damage.count).run s).1, length_collect .., ?_, ?_⟩
    · rw [run_damageInstance, DiceExpr.run_roll]
      exact DiceExpr.shows_rollFaces w.damage w.damage.count s
    · rw [DiceExpr.run_roll]
      rfl
  roll_mono damage s' h := damageInstance_mono d (by
    simp only [rolledDamage, WeaponProfile.withDamage]
    omega)
  modifier_mono n n' h := damageInstance_mono d (by
    simp only [rolledDamage, WeaponProfile.withDamageModifier]
    omega)
  melta_mono n n' h := damageInstance_mono d (by
    simp only [rolledDamage, WeaponProfile.withMelta]
    split <;> omega)
  halved_le := mitigated_halveDamage_le d.effects _
  reduction_anti _ _ h := mitigated_damageReduction_anti h d.effects _
  eq_zero_iff := by rw [run_damageInstance, mitigated_eq_zero_iff, toCount_eq_zero_iff]
  eq_max lo hi := by
    have hcount : (toCount (rolledDamage w e s) : Int) = rolledDamage w e s :=
      toCount_of_mem (by omega) hi
    rw [run_damageInstance, mitigated_of_pos (by omega)]
    split <;> omega

/-- A five and two more at half range are halved to three and lowered to two. -/
example :
    let gun := { WeaponProfile.ofStats "gun" (.constant 1) 3 9 (-4) ⟨1, 6, 0⟩ with
      effects := { melta := some 2 } }
    let tank := { DefenderProfile.ofStats "tank" 9 8 1 2 with
      effects := { halveDamage := true, damageReduction := 1 } }
    (damageInstance gun tank ⟨true, false⟩).run (Script.ofFaces [5]) = (2, ⟨#[5], 1⟩) := rfl

end Instances

end Salvo
