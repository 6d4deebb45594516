import Salvo.Proofs.Attack.Checked
import Salvo.Proofs.Attack.Mitigation
import Salvo.Proofs.Attack.WoundRolls
import Salvo.Proofs.Profile.Bounds

/-!
# Attacks that fit their types

What it takes for a checked attack to have a result on any dice in range. Modifiers, damages and models
never leave their types. The totals of an expression do not if its highest faces fit (`DiceFit`), and
the counts of hits and wounds do not if they fit for as many attacks as the dice can lead to, each a
critical hit with the most extra hits (`HitsFit`).

Each stage hands on a bound from one attack, hit or instance of damage to the next: `TallyFits`,
`WoundsFit`, and the number of models.
-/

namespace Salvo

def attacksFor (w : WeaponProfile) (d : DefenderProfile) (e : Engagement) (rolled : Nat) : Nat :=
  let each := if e.halfRange then addCount rolled (w.effects.rapidFire.getD 0) else rolled
  let all := mulCount each w.amount
  if w.effects.blast then addCount all (d.models / blastModels) else all

def mostAttacks (w : WeaponProfile) (d : DefenderProfile) (e : Engagement) : Nat :=
  attacksFor w d e (toCount w.attacks.highest)

def mostExtra (fx : WeaponEffects) : Nat :=
  match fx.sustainedHits with
  | some e => toCount e.highest
  | none => 0

/-- All totals of the weapon's expressions fit. -/
structure DiceFit (w : WeaponProfile) : Prop where
  attacks : w.attacks.highest ≤ maxLong
  damage : w.damage.highest ≤ maxLong
  sustainedHits : ∀ e ∈ w.effects.sustainedHits, e.highest ≤ maxLong

/-- The hits fit even if all attacks are critical. The extra hits of the last one may stop at the
largest count, unless there are wounds to be added to them. -/
def HitsFit (w : WeaponProfile) (d : DefenderProfile) (e : Engagement) : Prop :=
  w.effects.torrent = true ∨ mostAttacks w d e ≤ 1 ∨
    if w.effects.lethalHits then mostAttacks w d e * (1 + mostExtra w.effects) ≤ maxCount
    else (mostAttacks w d e - 1) * (1 + mostExtra w.effects) < maxCount

instance (w : WeaponProfile) (d : DefenderProfile) (e : Engagement) : Decidable (HitsFit w d e) := by
  unfold HitsFit
  infer_instance

namespace Checked

variable {σ : Type} {w : WeaponProfile} {d : DefenderProfile} {e : Engagement}

section Targets

variable (hw : w.effects.InBounds) (hd : d.effects.InBounds)

include hw hd

theorem succeeds_hitTarget (e : Engagement) (s : σ) : Succeeds (hitTarget w d e) s := by
  obtain ⟨hwlo, hwhi⟩ := hw.hitModifier
  obtain ⟨hdlo, hdhi⟩ := hd.hitModifier
  refine succeeds_within_bind_iff.2 ⟨?_, succeeds_stepIf_bind ?_ (succeeds_stepIf_bind ?_
    (succeeds_pure _ s))⟩
  all_goals simp only [minStat, maxStat, stepValue]
  · omega
  · omega
  · split <;> omega

theorem succeeds_woundTarget (s : σ) : Succeeds (woundTarget w d) s := by
  obtain ⟨hwlo, hwhi⟩ := hw.woundModifier
  obtain ⟨hdlo, hdhi⟩ := hd.woundModifier
  refine succeeds_within_bind_iff.2 ⟨?_, succeeds_stepIf_bind ?_ (succeeds_pure _ s)⟩
  all_goals simp only [minStat, maxStat]
  all_goals omega

theorem succeeds_resolveSaves [DiceSource σ] (wounds : Nat) (s : σ) :
    Succeeds (resolveSaves wounds w d) s := by
  obtain ⟨hwlo, hwhi⟩ := hw.saveModifier
  obtain ⟨hdlo, hdhi⟩ := hd.saveModifier
  have htarget : Succeeds (saveTarget w d) s := by
    refine succeeds_within_bind_iff.2 ⟨?_, succeeds_pure _ s⟩
    simp only [minStat, maxStat]
    omega
  exact (refines_saveTarget w d).succeeds_bind_iff.2 ⟨htarget, succeeds_lift _ s⟩

end Targets

section Counts

/-- Where the count of wounds can stand after `k` hits. -/
structure WoundsFit (k : Nat) (t : WoundTally) : Prop where
  wounds_le : t.wounds ≤ k
  criticalWounds_le : t.criticalWounds ≤ k
  mortalWounds_le : t.mortalWounds ≤ k

theorem WoundsFit.add {k : Nat} {t : WoundTally} (h : WoundsFit k t) (devastating : Bool)
    (roll : Nat) (target : Int) (criticalAt : Nat) :
    WoundsFit (k + 1) (t.add devastating roll target criticalAt) := by
  obtain ⟨hwounds, hcritical, hmortal⟩ := h
  rw [WoundTally.add_eq]
  constructor
  · dsimp only
    split <;> omega
  · dsimp only
    split <;> omega
  · dsimp only
    split <;> omega

theorem WoundsFit.succeeds_addWound {k : Nat} {t : WoundTally} (h : WoundsFit k t)
    (hk : k < maxCount) (devastating : Bool) (roll : Nat) (target : Int) (criticalAt : Nat) (s : σ) :
    Succeeds (addWound t devastating roll target criticalAt) s := by
  obtain ⟨hwounds, hcritical, hmortal⟩ := h
  unfold addWound
  split
  · exact succeeds_pure t s
  · split
    · exact succeeds_count_bind_iff.2 ⟨⟨by omega, by omega⟩, succeeds_pure _ s⟩
    · refine succeeds_count_bind_iff.2 ⟨⟨by omega, by omega⟩, ?_⟩
      split
      · exact succeeds_count_bind_iff.2 ⟨⟨by omega, by omega⟩, succeeds_pure _ s⟩
      · exact succeeds_count_bind_iff.2 ⟨⟨by omega, by omega⟩, succeeds_pure _ s⟩

theorem succeeds_take {c : Casualties} (hmodels : c.outcome.modelsDestroyed + c.modelsLeft ≤ maxCount)
    (hleft : c.modelsLeft ≠ 0) {rolled dealt : Nat} (hdealt : dealt ≤ rolled)
    (hrolled : rolled ≤ maxCount) (wounds : Nat) (s : σ) :
    Succeeds (take c wounds rolled dealt) s := by
  refine succeeds_count_bind_iff.2 ⟨⟨by omega, by omega⟩, ?_⟩
  dsimp only
  split
  · exact succeeds_count_bind_iff.2 ⟨⟨by omega, by omega⟩, succeeds_count_bind_iff.2
      ⟨⟨by omega, by omega⟩, succeeds_pure _ s⟩⟩
  · exact succeeds_pure _ s

theorem modelsDestroyed_add_modelsLeft_take {c : Casualties} (hleft : c.modelsLeft ≠ 0)
    (wounds rolled dealt : Nat) :
    (c.take wounds rolled dealt).outcome.modelsDestroyed + (c.take wounds rolled dealt).modelsLeft =
      c.outcome.modelsDestroyed + c.modelsLeft := by
  unfold Casualties.take
  dsimp only
  split
  · dsimp only
    omega
  · rfl

end Counts

variable [DiceSource σ]

section Dice

theorem succeeds_addFaces (hσ : DiceSource.InRange σ) {sides : Nat} (h : 1 ≤ sides) (n : Nat)
    {total : Int} (s : σ) (hlo : minLong ≤ total) (hhi : total + (n * sides : Nat) ≤ maxLong) :
    Succeeds (addFaces sides n total) s := by
  induction n generalizing total s with
  | zero => exact succeeds_pure total s
  | succ n ih =>
      have hface := hσ sides h s
      rw [Nat.succ_mul] at hhi
      refine (Refines.lift _).succeeds_bind_iff.2 ⟨succeeds_lift _ s, ?_⟩
      refine succeeds_within_bind_iff.2 ⟨⟨by omega, by omega⟩, ?_⟩
      exact ih _ (by omega) (by omega)

theorem succeeds_roll (hσ : DiceSource.InRange σ) {e : DiceExpr} (h : e.Writable)
    (hfit : e.highest ≤ maxLong) (s : σ) : Succeeds (roll e) s := by
  refine (refines_addFaces e.sides e.count e.modifier).succeeds_bind_iff.2 ⟨?_, succeeds_pure _ _⟩
  rcases h.1 with ⟨hcount, -⟩ | ⟨-, -, hsides, -⟩
  · rw [hcount]
    exact succeeds_pure _ s
  · have hlo := h.2.1
    simp only [minStat] at hlo
    exact succeeds_addFaces hσ hsides e.count s (by simp only [minLong]; omega) hfit

end Dice

section Hits

theorem attacksFor_mono {m n : Nat} (h : m ≤ n) : attacksFor w d e m ≤ attacksFor w d e n := by
  have hadd (k : Nat) {a b : Nat} (h : a ≤ b) : addCount a k ≤ addCount b k := by
    simp only [addCount]
    omega
  have hmul {a b : Nat} (h : a ≤ b) : mulCount a w.amount ≤ mulCount b w.amount := by
    have hproduct := Nat.mul_le_mul_right w.amount h
    simp only [mulCount]
    omega
  unfold attacksFor
  cases e.halfRange <;> cases w.effects.blast
  · exact hmul h
  · exact hadd _ (hmul h)
  · exact hmul (hadd _ h)
  · exact hadd _ (hmul (hadd _ h))

theorem attacksFor_le (rolled : Nat) : attacksFor w d e rolled ≤ maxCount := by
  unfold attacksFor
  cases w.effects.blast
  · exact Nat.min_le_right ..
  · exact addCount_le ..

theorem run_attackCount (s : σ) :
    ((Salvo.attackCount w d e).run s).1 = attacksFor w d e (w.attacks.roll.run s).1 := rfl

theorem attackCount_le (hσ : DiceSource.InRange σ) (hw : w.attacks.Writable) (s : σ) :
    ((Salvo.attackCount w d e).run s).1 ≤ mostAttacks w d e :=
  attacksFor_mono (DiceExpr.roll_le hσ hw s)

theorem extraHits_le (hσ : DiceSource.InRange σ) {fx : WeaponEffects} (hw : fx.InBounds) (s : σ) :
    ((Salvo.extraHits fx).run s).1 ≤ mostExtra fx := by
  unfold Salvo.extraHits mostExtra
  cases h : fx.sustainedHits with
  | none => exact Nat.le_refl 0
  | some e => exact DiceExpr.roll_le hσ (hw.sustainedHits e h) s

/-- Where the count of hits can stand after `k` attacks. -/
structure TallyFits (fx : WeaponEffects) (k : Nat) (t : HitTally) : Prop where
  landed_le : t.landed ≤ k * (1 + mostExtra fx)
  landed_fits : t.landed ≤ maxCount
  criticalHits_le : t.criticalHits ≤ k
  autoWounds_le : t.autoWounds ≤ k
  autoWounds_eq_zero : fx.lethalHits = false → t.autoWounds = 0

theorem tallyFits_start (fx : WeaponEffects) : TallyFits fx 0 {} where
  landed_le := Nat.zero_le _
  landed_fits := Nat.zero_le _
  criticalHits_le := Nat.le_refl 0
  autoWounds_le := Nat.le_refl 0
  autoWounds_eq_zero _ := rfl

variable {fx : WeaponEffects} {k : Nat} {t : HitTally}

structure HasRoom (fx : WeaponEffects) (k : Nat) (t : HitTally) : Prop where
  lt_maxCount : k < maxCount
  hits_lt : t.hits < maxCount
  lethalHits : fx.lethalHits = true → t.autoWounds = 0 ∨
    t.landed + (1 + mostExtra fx) ≤ maxCount

theorem TallyFits.hasRoom (h : TallyFits w.effects k t) (hfit : HitsFit w d e)
    (htorrent : w.effects.torrent = false) (hk : k < mostAttacks w d e) :
    HasRoom w.effects k t := by
  have hmost : mostAttacks w d e ≤ maxCount := attacksFor_le _
  have hlanded := h.landed_le
  have hsucc : (k + 1) * (1 + mostExtra w.effects) =
      k * (1 + mostExtra w.effects) + (1 + mostExtra w.effects) := Nat.succ_mul _ _
  have hlandedEq : t.landed = t.hits + t.autoWounds := rfl
  rcases hfit with hfit | hone | hfit
  · rw [htorrent] at hfit
    cases hfit
  · obtain rfl : k = 0 := by omega
    rw [Nat.zero_mul] at hlanded
    exact ⟨by omega, by omega, fun _ => .inl (by omega)⟩
  · split at hfit
    · have hnext : (k + 1) * (1 + mostExtra w.effects) ≤ mostAttacks w d e * (1 + mostExtra w.effects) :=
        Nat.mul_le_mul_right _ hk
      exact ⟨by omega, by omega, fun _ => .inr (by omega)⟩
    · rename_i hlethal
      have hbefore : k * (1 + mostExtra w.effects) ≤
          (mostAttacks w d e - 1) * (1 + mostExtra w.effects) :=
        Nat.mul_le_mul_right _ (by omega)
      exact ⟨by omega, by omega, fun hyes => absurd hyes hlethal⟩

theorem TallyFits.miss (h : TallyFits fx k t) : TallyFits fx (k + 1) t where
  landed_le := Nat.le_trans h.landed_le (Nat.mul_le_mul_right _ (Nat.le_succ k))
  landed_fits := h.landed_fits
  criticalHits_le := Nat.le_succ_of_le h.criticalHits_le
  autoWounds_le := Nat.le_succ_of_le h.autoWounds_le
  autoWounds_eq_zero := h.autoWounds_eq_zero

theorem TallyFits.hit (h : TallyFits fx k t) (hroom : HasRoom fx k t) :
    TallyFits fx (k + 1) { t with hits := t.hits + 1 } := by
  obtain ⟨hlanded, hfits, hcritical, hauto, hzero⟩ := h
  obtain ⟨-, hhits, hlethal⟩ := hroom
  simp only [HitTally.landed] at hlanded hfits hlethal
  have hsucc : (k + 1) * (1 + mostExtra fx) = k * (1 + mostExtra fx) + (1 + mostExtra fx) :=
    Nat.succ_mul _ _
  refine ⟨?_, ?_, Nat.le_succ_of_le hcritical, Nat.le_succ_of_le hauto, hzero⟩
  · simp only [HitTally.landed]
    omega
  · simp only [HitTally.landed]
    cases hfx : fx.lethalHits with
    | false =>
        have := hzero hfx
        omega
    | true =>
        have := hlethal hfx
        omega

theorem TallyFits.critical (h : TallyFits fx k t) (hroom : HasRoom fx k t)
    (hσ : DiceSource.InRange σ) (hw : fx.InBounds) (s : σ) :
    TallyFits fx (k + 1) ((Salvo.countCritical fx t).run s).1 := by
  obtain ⟨hlanded, hfits, hcritical, hauto, hzero⟩ := h
  obtain ⟨-, hhits, hlethal⟩ := hroom
  have hextra := extraHits_le hσ hw s
  have hsucc : (k + 1) * (1 + mostExtra fx) = k * (1 + mostExtra fx) + (1 + mostExtra fx) :=
    Nat.succ_mul _ _
  have hpos := addCount_succ_pos t.hits ((Salvo.extraHits fx).run s).1
  have hmax := addCount_le (t.hits + 1) ((Salvo.extraHits fx).run s).1
  have hsum : addCount (t.hits + 1) ((Salvo.extraHits fx).run s).1 ≤
      t.hits + 1 + ((Salvo.extraHits fx).run s).1 := Nat.min_le_left ..
  simp only [HitTally.landed] at hlanded hfits hlethal
  rw [run_countCritical hhits]
  generalize addCount (t.hits + 1) ((Salvo.extraHits fx).run s).1 = grown at hpos hmax hsum ⊢
  cases hfx : fx.lethalHits with
  | false =>
      have hnone := hzero hfx
      refine ⟨?_, ?_, Nat.succ_le_succ hcritical, Nat.le_succ_of_le hauto, fun _ => hnone⟩
      · simp only [HitTally.landed, Bool.false_eq_true, ↓reduceIte]
        omega
      · simp only [HitTally.landed, Bool.false_eq_true, ↓reduceIte]
        omega
  | true =>
      have hroom := hlethal hfx
      refine ⟨?_, ?_, Nat.succ_le_succ hcritical, Nat.succ_le_succ hauto, fun h => ?_⟩
      · simp only [HitTally.landed, ↓reduceIte]
        omega
      · simp only [HitTally.landed, ↓reduceIte]
        omega
      · rw [hfx] at h
        cases h

theorem succeeds_extraHits (hσ : DiceSource.InRange σ) (hw : fx.InBounds)
    (hfit : ∀ e ∈ fx.sustainedHits, e.highest ≤ maxLong) (s : σ) : Succeeds (extraHits fx) s := by
  unfold extraHits
  cases h : fx.sustainedHits with
  | none => exact succeeds_pure 0 s
  | some e => exact succeeds_roll hσ (hw.sustainedHits e h) (hfit e h) s

theorem succeeds_countCritical (h : TallyFits fx k t) (hroom : HasRoom fx k t)
    (hσ : DiceSource.InRange σ) (hw : fx.InBounds)
    (hfit : ∀ e ∈ fx.sustainedHits, e.highest ≤ maxLong) (s : σ) :
    Succeeds (countCritical fx t) s := by
  have hk := hroom.lt_maxCount
  have hhits := hroom.hits_lt
  have hcritical := h.criticalHits_le
  have hauto := h.autoWounds_le
  refine succeeds_count_bind_iff.2 ⟨⟨by omega, by omega⟩, succeeds_count_bind_iff.2
    ⟨⟨by omega, by omega⟩, (refines_extraHits fx).succeeds_bind_iff.2
      ⟨succeeds_extraHits hσ hw hfit s, ?_⟩⟩⟩
  have hhit : ((t.hits : Int) + 1).toNat = t.hits + 1 := by omega
  rw [hhit]
  generalize ((Salvo.extraHits fx).run s).1 = extra
  have hpos := addCount_succ_pos t.hits extra
  have hmax := addCount_le (t.hits + 1) extra
  have hgrown : 1 ≤ (if fx.sustainedHits.isSome then addCount (t.hits + 1) extra else t.hits + 1) ∧
      (if fx.sustainedHits.isSome then addCount (t.hits + 1) extra else t.hits + 1) ≤ maxCount := by
    split
    · exact ⟨hpos, hmax⟩
    · omega
  dsimp only
  split
  · refine succeeds_count_bind_iff.2 ⟨⟨by omega, by omega⟩, succeeds_count_bind_iff.2
      ⟨⟨by omega, by omega⟩, succeeds_pure _ _⟩⟩
  · exact succeeds_pure _ _

theorem TallyFits.step (h : TallyFits fx k t) (hroom : HasRoom fx k t)
    (hσ : DiceSource.InRange σ) (hw : fx.InBounds)
    (hfit : ∀ e ∈ fx.sustainedHits, e.highest ≤ maxLong) (target : Int) (s : σ) :
    Succeeds (countHit fx target t) s ∧
      TallyFits fx (k + 1) ((Salvo.countHit fx target t).run s).1 := by
  have hhits := hroom.hits_lt
  have hstep : Succeeds (countHit fx target t) s ↔ _ :=
    (Refines.lift (hitRoll fx target)).succeeds_bind_iff
  rw [hstep, run_countHit]
  split
  · exact ⟨⟨succeeds_lift _ s, succeeds_pure _ _⟩, h.miss⟩
  · split
    · exact ⟨⟨succeeds_lift _ s, succeeds_count_bind_iff.2
        ⟨⟨by omega, by omega⟩, succeeds_pure _ _⟩⟩, h.hit hroom⟩
    · exact ⟨⟨succeeds_lift _ s, succeeds_countCritical h hroom hσ hw hfit _⟩,
        h.critical hroom hσ hw _⟩

theorem succeeds_attackCount (hσ : DiceSource.InRange σ) (hw : w.attacks.Writable)
    (hfit : w.attacks.highest ≤ maxLong) (s : σ) : Succeeds (attackCount w d e) s :=
  (refines_roll w.attacks).succeeds_bind_iff.2 ⟨succeeds_roll hσ hw hfit s, succeeds_pure _ _⟩

theorem succeeds_resolveHits (hσ : DiceSource.InRange σ) (hw : w.RollsInBounds)
    (hd : d.effects.InBounds) (hdice : DiceFit w) (hfit : HitsFit w d e) (s : σ) :
    Succeeds (resolveHits w d e) s ∧ ((Salvo.resolveHits w d e).run s).1.landed ≤ maxCount := by
  have hattacks := attackCount_le (d := d) (e := e) hσ hw.attacks s
  have hstep : Succeeds (resolveHits w d e) s ↔ _ := (refines_attackCount w d e).succeeds_bind_iff
  rw [hstep, (refines_hitTarget w d e).succeeds_bind_iff, Salvo.resolveHits, run_resolveHitsAt]
  have hfirst : Succeeds (attackCount w d e) s := succeeds_attackCount hσ hw.attacks hdice.attacks s
  have htarget : Succeeds (hitTarget w d e) ((Salvo.attackCount w d e).run s).2 :=
    succeeds_hitTarget hw.effects hd e _
  cases htorrent : w.effects.torrent with
  | true =>
      have hmax : ((Salvo.attackCount w d e).run s).1 ≤ maxCount := attacksFor_le _
      exact ⟨⟨hfirst, htarget, succeeds_pure _ _⟩, hmax⟩
  | false =>
      have htally := succeeds_times (P := TallyFits w.effects)
        (refines_countHit (σ := σ) w.effects (Salvo.hitTarget w d e))
        (m := mostAttacks w d e) (fun k t s hk h => h.step (h.hasRoom hfit htorrent hk) hσ
          hw.effects hdice.sustainedHits (Salvo.hitTarget w d e) s)
        ((Salvo.attackCount w d e).run s).1 (k := 0) (t := {})
        ((Salvo.attackCount w d e).run s).2 (by omega) (tallyFits_start w.effects)
      exact ⟨⟨hfirst, htarget, (Refines.times (refines_countHit w.effects
        (Salvo.hitTarget w d e)) _ _).succeeds_bind_iff.2 ⟨htally.1, succeeds_pure _ _⟩⟩,
        htally.2.landed_fits⟩

end Hits

section Wounds

variable {hits : Nat}

theorem succeeds_resolveWounds (hw : w.effects.InBounds) (hd : d.effects.InBounds)
    (hhits : hits ≤ maxCount) (s : σ) : Succeeds (resolveWounds hits w d) s := by
  have htally := succeeds_times (P := WoundsFit) (m := hits)
    (refines_countWound (σ := σ) w.effects (Salvo.woundTarget w d) (criticalWound w d))
    (fun k t s hk h => ⟨(Refines.lift _).succeeds_bind_iff.2
      ⟨succeeds_lift _ s, h.succeeds_addWound (by omega) _ _ _ _ _⟩, h.add _ _ _ _⟩)
    hits (k := 0) (t := {}) s (by omega) ⟨Nat.le_refl 0, Nat.le_refl 0, Nat.le_refl 0⟩
  exact (refines_woundTarget w d).succeeds_bind_iff.2 ⟨succeeds_woundTarget hw hd s,
    (Refines.times (refines_countWound w.effects (Salvo.woundTarget w d) (criticalWound w d)) hits
      {}).succeeds_bind_iff.2 ⟨htally.1, succeeds_pure _ _⟩⟩

end Wounds

section Damage

theorem succeeds_damageInstance (hσ : DiceSource.InRange σ) (hw : w.RollsInBounds)
    (hfit : w.damage.highest ≤ maxLong) (s : σ) : Succeeds (damageInstance w d e) s := by
  obtain ⟨hlo, hhi⟩ := hw.effects.damageModifier
  have hmelta := hw.effects.melta
  have hrolled : (w.damage.roll.run s).1 ≤ maxCount := toCount_le _
  simp only [maxCount] at hmelta hrolled
  refine (refines_roll w.damage).succeeds_bind_iff.2 ⟨succeeds_roll hσ hw.damage hfit s, ?_⟩
  refine succeeds_within_bind_iff.2 ⟨by simp only [minLong, maxLong]; omega, ?_⟩
  split
  · exact succeeds_within_bind_iff.2 ⟨by simp only [minLong, maxLong]; omega, succeeds_pure _ _⟩
  · exact succeeds_pure _ _

theorem damageInstance_le (s : σ) : ((Salvo.damageInstance w d e).run s).1 ≤ maxCount :=
  Nat.le_trans (mitigated_le d.effects _) (toCount_le _)

theorem succeeds_allocate (hσ : DiceSource.InRange σ) (hw : w.RollsInBounds)
    (hfit : w.damage.highest ≤ maxLong) (config : AttackConfig) (n : Nat) {c : Casualties}
    (hmodels : c.outcome.modelsDestroyed + c.modelsLeft ≤ maxCount) (s : σ) :
    Succeeds (allocate w d config n c) s := by
  induction n generalizing c s with
  | zero => exact succeeds_pure c s
  | succ n ih =>
      unfold allocate
      split
      · exact succeeds_pure c s
      · rename_i hleft
        refine (refines_damageInstance w d config.engagement).succeeds_bind_iff.2
          ⟨succeeds_damageInstance hσ hw hfit s, ?_⟩
        refine (Refines.lift _).succeeds_bind_iff.2 ⟨succeeds_lift _ _, ?_⟩
        refine (refines_take c _ _ _).succeeds_bind_iff.2
          ⟨succeeds_take hmodels hleft (feelNoPain_le ..) (damageInstance_le s) _ _, ?_⟩
        refine ih ?_ _
        exact Nat.le_trans (Nat.le_of_eq (modelsDestroyed_add_modelsLeft_take hleft ..)) hmodels

theorem succeeds_resolveDamage (hσ : DiceSource.InRange σ) (hw : w.RollsInBounds)
    (hfit : w.damage.highest ≤ maxLong) (hd : d.InBounds) (failed mortal : Nat)
    (config : AttackConfig) (s : σ) : Succeeds (resolveDamage failed mortal w d config) s := by
  have hmodels : 0 + d.models ≤ maxCount := by
    have hbound := hd.models.2
    simp only [maxAmount, maxCount] at *
    omega
  exact (refines_allocate w d config _ _).succeeds_bind_iff.2
    ⟨succeeds_allocate hσ hw hfit config _ hmodels s, succeeds_pure _ _⟩

end Damage

section Trial

/-- A checked attack succeeds if its hits do and can be counted together with the wounds among them. -/
theorem succeeds_trial (hσ : DiceSource.InRange σ) (hw : w.RollsInBounds) (hd : d.InBounds)
    (heffects : d.effects.InBounds) (hfit : w.damage.highest ≤ maxLong) (config : AttackConfig)
    {s : σ} (hhits : Succeeds (resolveHits w d config.engagement) s)
    (hlanded : ((Salvo.resolveHits w d config.engagement).run s).1.landed ≤ maxCount) :
    Succeeds (trial w d config) s := by
  refine (refines_resolveHits w d config.engagement).succeeds_bind_iff.2 ⟨hhits, ?_⟩
  generalize (Salvo.resolveHits w d config.engagement).run s = hit at hlanded
  simp only [HitOutcome.landed] at hlanded
  refine (refines_resolveWounds w d hit.1.hits).succeeds_bind_iff.2
    ⟨succeeds_resolveWounds hw.effects heffects (by omega) hit.2, ?_⟩
  have hwounds : ((Salvo.resolveWounds hit.1.hits w d).run hit.2).1.wounds +
      ((Salvo.resolveWounds hit.1.hits w d).run hit.2).1.mortalWounds ≤ hit.1.hits :=
    resolveWoundsAt_le ..
  generalize (Salvo.resolveWounds hit.1.hits w d).run hit.2 = wound at hwounds
  refine succeeds_count_bind_iff.2 ⟨⟨by omega, by omega⟩, ?_⟩
  refine (refines_resolveSaves w d _).succeeds_bind_iff.2
    ⟨succeeds_resolveSaves hw.effects heffects _ _, ?_⟩
  refine (refines_resolveDamage w d _ _ config).succeeds_bind_iff.2
    ⟨succeeds_resolveDamage hσ hw hfit hd _ _ config _, ?_⟩
  refine succeeds_summary_iff.2 ?_
  dsimp only
  omega

theorem succeeds_trial_of_fits (hσ : DiceSource.InRange σ) (hw : w.RollsInBounds) (hd : d.InBounds)
    (heffects : d.effects.InBounds) (hdice : DiceFit w) {config : AttackConfig}
    (hfit : HitsFit w d config.engagement) (s : σ) : Succeeds (trial w d config) s := by
  obtain ⟨hhits, hlanded⟩ := succeeds_resolveHits hσ hw heffects hdice hfit s
  exact succeeds_trial hσ hw hd heffects hdice.damage config hhits hlanded

theorem wounds_le_of_succeeds_trial {config : AttackConfig} {s : σ}
    (h : Succeeds (trial w d config) s) :
    Succeeds (resolveHits w d config.engagement) s ∧
      ((Salvo.resolveWounds ((Salvo.resolveHits w d config.engagement).run s).1.hits w d).run
          ((Salvo.resolveHits w d config.engagement).run s).2).1.wounds +
        ((Salvo.resolveWounds ((Salvo.resolveHits w d config.engagement).run s).1.hits w d).run
          ((Salvo.resolveHits w d config.engagement).run s).2).1.mortalWounds +
        ((Salvo.resolveHits w d config.engagement).run s).1.autoWounds ≤ maxCount := by
  obtain ⟨hhits, h⟩ := (refines_resolveHits w d config.engagement).succeeds_bind_iff.1 h
  obtain ⟨-, h⟩ := (refines_resolveWounds w d _).succeeds_bind_iff.1 h
  obtain ⟨-, h⟩ := succeeds_count_bind_iff.1 h
  obtain ⟨-, h⟩ := (refines_resolveSaves w d _).succeeds_bind_iff.1 h
  obtain ⟨-, h⟩ := (refines_resolveDamage w d _ _ config).succeeds_bind_iff.1 h
  exact ⟨hhits, succeeds_summary_iff.1 h⟩

end Trial

end Checked

end Salvo
