import Mathlib.Algebra.Order.BigOperators.Group.List
import Mathlib.Algebra.Order.Group.Nat
import Salvo.Proofs.Attack.Conversion

/-!
# Skill

A lower target number turns misses into hits, and nothing else, as long as the dice that an attack throws
do not depend on it. That is so for a weapon that rerolls nothing, or everything short of a critical hit,
and whose critical hits bring a fixed number of further hits: two runs at different targets then throw the
same dice (`hitRolls_withToHit`), and of the same throws the lower target counts at least as many
(`exactHits_anti`). So a better skill never hits less (`hits_withToHit_atLeast`).
-/

namespace Salvo

def WeaponProfile.withToHit (w : WeaponProfile) (toHit : Int) : WeaponProfile :=
  { w with toHit := toHit }

/-- What is thrown for an attack does not depend on the target number. -/
structure WeaponEffects.TargetFree (fx : WeaponEffects) : Prop where
  hitReroll : fx.hitReroll = .none ∨ fx.hitReroll = .nonCritical
  sustainedHits : ∀ extra ∈ fx.sustainedHits, extra.isConstant

section Counts

variable {r : AttackRoll} {target target' : Int}

theorem AttackRoll.lands_mono (h : target ≤ target') (hlands : r.lands target' = true) :
    r.lands target = true := by
  simp only [lands, fallsShort, Bool.not_eq_true', decide_eq_false_iff_not, not_lt] at hlands ⊢
  exact h.trans hlands

theorem AttackRoll.isCritical_mono (h : target ≤ target') (hcritical : r.isCritical target' = true) :
    r.isCritical target = true := by
  rw [isCritical, Bool.and_eq_true] at hcritical ⊢
  exact ⟨lands_mono h hcritical.1, hcritical.2⟩

theorem exactHits_anti (h : target ≤ target') (fx : WeaponEffects) (rolls : List AttackRoll) :
    exactHits fx target' rolls ≤ exactHits fx target rolls := by
  have hlands : rolls.countP (·.lands target') ≤ rolls.countP (·.lands target) :=
    List.countP_mono_left fun _ _ => AttackRoll.lands_mono h
  have hcritical : (rolls.filter (·.isCritical target')).Sublist
      (rolls.filter (·.isCritical target)) :=
    List.monotone_filter_right rolls fun _ => AttackRoll.isCritical_mono h
  exact Nat.add_le_add hlands ((hcritical.map _).sum_le_sum fun _ _ => Nat.zero_le _)

/-- Of two counts of the same throws the one at the lower target is at least as high. -/
theorem HitTally.Adds.le_of_target_le (h : target ≤ target') {fx : WeaponEffects}
    {rolls : List AttackRoll} {t t' : HitTally} (hadds : ({} : HitTally).Adds fx target rolls t)
    (hadds' : ({} : HitTally).Adds fx target' rolls t') (hfit : exactHits fx target rolls ≤ maxCount) :
    t'.landed ≤ t.landed ∧ t'.criticalHits ≤ t.criticalHits := by
  have hexact : exactHits fx target' rolls ≤ exactHits fx target rolls := exactHits_anti h fx rolls
  have hlanded := hadds.landed_eq (by simpa [landed] using hfit)
  have hlanded' := hadds'.landed_eq (by simpa [landed] using hexact.trans hfit)
  constructor
  · rw [hlanded, hlanded']
    exact Nat.add_le_add_left hexact _
  · rw [hadds.criticalHits_eq, hadds'.criticalHits_eq]
    exact Nat.add_le_add_left
      (List.countP_mono_left fun _ _ => AttackRoll.isCritical_mono h) _

end Counts

section Throws

variable {σ : Type} [DiceSource σ] {fx : WeaponEffects} {w : WeaponProfile}

theorem WeaponEffects.TargetFree.rerolls_eq (h : fx.TargetFree) (roll : Nat) (target target' : Int)
    (criticalAt : Nat) :
    fx.hitReroll.rerolls roll target criticalAt = fx.hitReroll.rerolls roll target' criticalAt := by
  rcases h.hitReroll with hnone | hnonCritical
  · simp [hnone]
  · simp [hnonCritical, RerollPolicy.rerolls]

theorem WeaponEffects.TargetFree.count_extraDice (h : fx.TargetFree) : (extraDice fx).count = 0 := by
  cases hextra : fx.sustainedHits with
  | none => simp [extraDice, hextra, DiceExpr.constant]
  | some extra => simpa [extraDice, hextra, DiceExpr.isConstant] using h.sustainedHits extra hextra

/-- A critical hit throws no dice of its own, so the throws do not show which attacks are critical. -/
theorem WeaponEffects.TargetFree.attackRoll_eq (h : fx.TargetFree) (target target' : Int) :
    (attackRoll fx target : StateM σ AttackRoll) = attackRoll fx target' := by
  have hrerolls : (fun roll => fx.hitReroll.rerolls roll target criticalRoll) =
      fun roll => fx.hitReroll.rerolls roll target' criticalRoll :=
    funext fun roll => h.rerolls_eq roll target target' criticalRoll
  simp only [attackRoll, hrerolls, h.count_extraDice, ite_self]

theorem hitRolls_withToHit (h : w.effects.TargetFree) (d : DefenderProfile) (e : Engagement)
    (toHit toHit' : Int) :
    (hitRolls (w.withToHit toHit) d e : StateM σ (List AttackRoll)) =
      hitRolls (w.withToHit toHit') d e := by
  have hrolls : (attackRolls w.effects (hitTarget (w.withToHit toHit) d e) :
      Nat → StateM σ (List AttackRoll)) =
        attackRolls w.effects (hitTarget (w.withToHit toHit') d e) := by
    funext n
    rw [attackRolls, attackRolls, h.attackRoll_eq]
  exact congrArg (attackCount w d e >>= ·) hrolls

end Throws

section Main

variable {σ : Type} [DiceSource σ] {w : WeaponProfile} {d : DefenderProfile} {e : Engagement}
  {toHit toHit' : Int}

theorem hitTarget_withToHit_mono (h : toHit ≤ toHit') :
    hitTarget (w.withToHit toHit) d e ≤ hitTarget (w.withToHit toHit') d e :=
  toStat_mono (Int.sub_le_sub_right h _)

/-- Two runs of the stage on the same dice, of which one hits at least as much as the other. Hits that
became wounds count as hits. -/
structure HitOutcome.AtLeast (better worse : HitOutcome × σ) : Prop where
  attacks_eq : better.1.attacks = worse.1.attacks
  landed_le : worse.1.hits + worse.1.autoWounds ≤ better.1.hits + better.1.autoWounds
  criticalHits_le : worse.1.criticalHits ≤ better.1.criticalHits
  dice_eq : better.2 = worse.2

/-- A better skill never hits less on the same dice, if what is thrown for an attack does not depend on
the target number and the exact number of hits can be counted. -/
theorem hits_withToHit_atLeast (hfree : w.effects.TargetFree) (h : toHit ≤ toHit') {s : σ}
    (hfit : exactLanded (w.withToHit toHit) d e s ≤ maxCount) :
    HitOutcome.AtLeast ((resolveHits (w.withToHit toHit) d e).run s)
      ((resolveHits (w.withToHit toHit') d e).run s) := by
  cases htorrent : w.effects.torrent with
  | true =>
      have hrun (n : Int) := run_resolveHits_torrent (w.withToHit n) d e htorrent s
      rw [hrun, hrun]
      exact ⟨rfl, le_rfl, le_rfl, rfl⟩
  | false =>
      obtain ⟨t, ht, hadds⟩ := exists_run_resolveHits (w.withToHit toHit) d e htorrent s
      obtain ⟨t', ht', hadds'⟩ := exists_run_resolveHits (w.withToHit toHit') d e htorrent s
      rw [hitRolls_withToHit hfree d e toHit' toHit] at ht' hadds'
      rw [exactLanded_eq (w.withToHit toHit) d e htorrent] at hfit
      have hle := hadds.le_of_target_le (hitTarget_withToHit_mono h) hadds' hfit
      rw [ht, ht']
      exact ⟨rfl, hle.1, hle.2, rfl⟩

/-- A weapon that rerolls everything short of a critical hit. -/
def sabre : WeaponProfile :=
  { WeaponProfile.ofStats "sabre" (.constant 3) 3 4 0 (.constant 1) with
    effects := { lethalHits := true, hitReroll := .nonCritical, sustainedHits := some (.constant 2) } }

theorem hits_withToHit_atLeast_sabre :
    sabre.effects.TargetFree ∧ (3 : Int) ≤ 7 ∧
      exactLanded (sabre.withToHit 3) (.ofStats "marines" 4 2 5 3) {}
        (Script.ofFaces [2, 4, 6, 3, 5]) = 5 ∧
      HitOutcome.AtLeast
        ((resolveHits (sabre.withToHit 3) (.ofStats "marines" 4 2 5 3) {}).run
          (Script.ofFaces [2, 4, 6, 3, 5]))
        ((resolveHits (sabre.withToHit 7) (.ofStats "marines" 4 2 5 3) {}).run
          (Script.ofFaces [2, 4, 6, 3, 5])) := by
  have hfree : sabre.effects.TargetFree :=
    ⟨.inr rfl, by simp [sabre, DiceExpr.isConstant, DiceExpr.constant]⟩
  have hexact : exactLanded (sabre.withToHit 3) (.ofStats "marines" 4 2 5 3) {}
      (Script.ofFaces [2, 4, 6, 3, 5]) = 5 := rfl
  exact ⟨hfree, by decide, hexact, hits_withToHit_atLeast hfree (by decide) (hexact ▸ by decide)⟩

/-- With a seven not even the six hits, but the same five dice are thrown. -/
example :
    (resolveHits (sabre.withToHit 3) (.ofStats "marines" 4 2 5 3) {}).run
        (Script.ofFaces [2, 4, 6, 3, 5]) = (⟨3, 3, 4, 1, 1⟩, ⟨#[2, 4, 6, 3, 5], 5⟩) ∧
      (resolveHits (sabre.withToHit 7) (.ofStats "marines" 4 2 5 3) {}).run
        (Script.ofFaces [2, 4, 6, 3, 5]) = (⟨3, 7, 0, 0, 0⟩, ⟨#[2, 4, 6, 3, 5], 5⟩) := ⟨rfl, rfl⟩

end Main

end Salvo
