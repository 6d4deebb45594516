import Salvo.Proofs.Attack.HitRolls
import Salvo.Proofs.Attack.WoundRolls

/-!
# Converted criticals

Lethal hits make wounds of critical hits, and devastating wounds make mortal wounds of critical wounds.
Neither is read by a roll, so a weapon throws the same dice with the rule and without it, and what the
rule gives to one count it takes from another: with both counts taken together nothing changes
(`criticals_converted`).
-/

namespace Salvo

def WeaponProfile.withLethalHits (w : WeaponProfile) (b : Bool) : WeaponProfile :=
  { w with effects := { w.effects with lethalHits := b } }

def WeaponProfile.withDevastatingWounds (w : WeaponProfile) (b : Bool) : WeaponProfile :=
  { w with effects := { w.effects with devastatingWounds := b } }

section Hits

variable {σ : Type} [DiceSource σ] (w : WeaponProfile) (d : DefenderProfile) (e : Engagement)

def hitRolls : StateM σ (List AttackRoll) := do
  let attacks ← attackCount w d e
  attackRolls w.effects (hitTarget w d e) attacks

/-- The hits that the attacks come to, were there no largest count. -/
def exactLanded (s : σ) : Nat :=
  if w.effects.torrent then ((attackCount w d e).run s).1
  else exactHits w.effects (hitTarget w d e) ((hitRolls w d e).run s).1

theorem exactLanded_eq (h : w.effects.torrent = false) (s : σ) :
    exactLanded w d e s = exactHits w.effects (hitTarget w d e) ((hitRolls w d e).run s).1 :=
  if_neg (Bool.eq_false_iff.1 h)

theorem exists_run_resolveHits (h : w.effects.torrent = false) (s : σ) :
    ∃ t : HitTally,
      (resolveHits w d e).run s =
        (⟨((attackCount w d e).run s).1, hitTarget w d e, t.hits, t.criticalHits, t.autoWounds⟩,
          ((hitRolls w d e).run s).2) ∧
      ({} : HitTally).Adds w.effects (hitTarget w d e) ((hitRolls w d e).run s).1 t := by
  obtain ⟨hdice, hadds⟩ := run_times_countHit w.effects (hitTarget w d e)
    ((attackCount w d e).run s).1 {} ((attackCount w d e).run s).2
  exact ⟨_, (run_resolveHits w d e h s).trans (congrArg (_, ·) hdice), hadds⟩

/-- Two runs of the stage that differ in what became of the critical hits: wounds in one run, hits like
all others in the other. -/
structure HitOutcome.Converts (on off : HitOutcome × σ) : Prop where
  attacks_eq : on.1.attacks = off.1.attacks
  target_eq : on.1.target = off.1.target
  criticalHits_eq : on.1.criticalHits = off.1.criticalHits
  landed_eq : on.1.hits + on.1.autoWounds = off.1.hits + off.1.autoWounds
  autoWounds_on : on.1.autoWounds = on.1.criticalHits
  autoWounds_off : off.1.autoWounds = 0
  dice_eq : on.2 = off.2

theorem hitRolls_withLethalHits (b : Bool) :
    (hitRolls (w.withLethalHits b) d e : StateM σ (List AttackRoll)) = hitRolls w d e := rfl

variable {w d e}

theorem converts_resolveHits {s : σ} (h : exactLanded w d e s ≤ maxCount) :
    HitOutcome.Converts ((resolveHits (w.withLethalHits true) d e).run s)
      ((resolveHits (w.withLethalHits false) d e).run s) := by
  cases htorrent : w.effects.torrent with
  | true =>
      have hrun (b : Bool) := run_resolveHits_torrent (w.withLethalHits b) d e htorrent s
      rw [hrun, hrun]
      exact ⟨rfl, rfl, rfl, rfl, rfl, rfl, rfl⟩
  | false =>
      rw [exactLanded_eq w d e htorrent] at h
      obtain ⟨on, hon, haddsOn⟩ := exists_run_resolveHits (w.withLethalHits true) d e htorrent s
      obtain ⟨off, hoff, haddsOff⟩ := exists_run_resolveHits (w.withLethalHits false) d e htorrent s
      rw [hitRolls_withLethalHits] at hon haddsOn hoff haddsOff
      have hfit : ({} : HitTally).landed + exactHits w.effects (hitTarget w d e)
          ((hitRolls w d e).run s).1 ≤ maxCount := by simpa [HitTally.landed] using h
      have hcritical := haddsOn.criticalHits_eq
      rw [hon, hoff]
      exact {
        attacks_eq := rfl
        target_eq := rfl
        criticalHits_eq := hcritical.trans haddsOff.criticalHits_eq.symm
        landed_eq := (haddsOn.landed_eq hfit).trans (haddsOff.landed_eq hfit).symm
        autoWounds_on := haddsOn.autoWounds_eq.trans hcritical.symm
        autoWounds_off := haddsOff.autoWounds_eq
        dice_eq := rfl }

end Hits

section Wounds

variable {σ : Type} [DiceSource σ] (w : WeaponProfile) (d : DefenderProfile)

/-- Two runs of the stage that differ in what became of the critical wounds: mortal wounds in one run,
wounds like all others in the other. -/
structure WoundOutcome.Converts (on off : WoundOutcome × σ) : Prop where
  target_eq : on.1.target = off.1.target
  criticalAt_eq : on.1.criticalAt = off.1.criticalAt
  criticalWounds_eq : on.1.criticalWounds = off.1.criticalWounds
  wounds_eq : on.1.wounds + on.1.mortalWounds = off.1.wounds + off.1.mortalWounds
  mortalWounds_on : on.1.mortalWounds = on.1.criticalWounds
  mortalWounds_off : off.1.mortalWounds = 0
  dice_eq : on.2 = off.2

theorem woundRolls_withDevastatingWounds (b : Bool) (target : Int) (criticalAt n : Nat) :
    (woundRolls (w.withDevastatingWounds b).effects target criticalAt n : StateM σ (List Nat)) =
      woundRolls w.effects target criticalAt n := by
  induction n with
  | zero => rfl
  | succ n ih =>
      rw [woundRolls, woundRolls, ih]
      rfl

theorem run_resolveWounds_withDevastatingWounds (b : Bool) (hits : Nat) (s : σ) :
    (resolveWounds hits (w.withDevastatingWounds b) d).run s =
      let rolls := (woundRolls w.effects (woundTarget w d) (criticalWound w d) hits).run s
      let t := ({} : WoundTally).addAll b rolls.1 (woundTarget w d) (criticalWound w d)
      (⟨woundTarget w d, criticalWound w d, t.wounds, t.criticalWounds, t.mortalWounds⟩,
        rolls.2) := by
  rw [resolveWounds, resolveWoundsAt, run_bind, run_times_countWound,
    woundRolls_withDevastatingWounds]
  rfl

theorem converts_resolveWounds (hits : Nat) (s : σ) :
    WoundOutcome.Converts ((resolveWounds hits (w.withDevastatingWounds true) d).run s)
      ((resolveWounds hits (w.withDevastatingWounds false) d).run s) := by
  rw [run_resolveWounds_withDevastatingWounds, run_resolveWounds_withDevastatingWounds]
  exact {
    target_eq := rfl
    criticalAt_eq := rfl
    criticalWounds_eq := by simp only [WoundTally.addAll_eq]
    wounds_eq := by simp only [WoundTally.wounds_add_mortalWounds_addAll]
    mortalWounds_on := by simp [WoundTally.addAll_eq]
    mortalWounds_off := by simp [WoundTally.addAll_eq]
    dice_eq := rfl }

end Wounds

section Main

variable {σ : Type} [DiceSource σ]

/-- Lethal hits and devastating wounds convert criticals and never duplicate them. On the same dice the
stage of hits lands as often with lethal hits as without, if the exact number can be counted, and the
stage of wounds deals as many with devastating wounds as without; both leave the same dice. -/
theorem criticals_converted (w : WeaponProfile) (d : DefenderProfile) (e : Engagement) (s : σ) :
    (exactLanded w d e s ≤ maxCount →
      HitOutcome.Converts ((resolveHits (w.withLethalHits true) d e).run s)
        ((resolveHits (w.withLethalHits false) d e).run s)) ∧
    ∀ hits, WoundOutcome.Converts ((resolveWounds hits (w.withDevastatingWounds true) d).run s)
      ((resolveWounds hits (w.withDevastatingWounds false) d).run s) :=
  ⟨converts_resolveHits, fun hits => converts_resolveWounds w d hits s⟩

theorem criticals_converted_flail :
    exactLanded flail (.ofStats "marines" 4 2 5 3) {} (Script.ofFaces [2, 1, 6, 3, 4, 2]) = 5 ∧
      HitOutcome.Converts
        ((resolveHits (flail.withLethalHits true) (.ofStats "marines" 4 2 5 3) {}).run
          (Script.ofFaces [2, 1, 6, 3, 4, 2]))
        ((resolveHits (flail.withLethalHits false) (.ofStats "marines" 4 2 5 3) {}).run
          (Script.ofFaces [2, 1, 6, 3, 4, 2])) := by
  have h : exactLanded flail (.ofStats "marines" 4 2 5 3) {}
      (Script.ofFaces [2, 1, 6, 3, 4, 2]) = 5 := rfl
  exact ⟨h, (criticals_converted flail _ _ _).1 (h ▸ by decide)⟩

end Main

end Salvo
