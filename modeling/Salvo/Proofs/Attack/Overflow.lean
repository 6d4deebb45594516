import Salvo.Proofs.Attack.Fits
import Salvo.Proofs.Attack.Funnel

/-!
# Attacks that overflow

On loaded dice all attacks of a weapon are critical hits, and all hits wound if a six does. So what fits
on them fits on any dice, and where the hits do not fit, the checked attack has no result on them
(`checked_trial_fits`). Extra hits stop at the largest count, but the hit that is counted next does not.
-/

namespace Salvo

namespace Checked

variable {σ : Type} [DiceSource σ] {w : WeaponProfile} {d : DefenderProfile} {e : Engagement}

section Sixes

variable {fx : WeaponEffects} {k : Nat} {t : HitTally}

/-- The count of hits after `k` critical hits with the most extra hits each. -/
structure Sixes (fx : WeaponEffects) (k : Nat) (t : HitTally) : Prop where
  hits_eq : t.hits = if fx.lethalHits then min (k * mostExtra fx) (maxCount - 1)
    else min (k * (1 + mostExtra fx)) maxCount
  autoWounds_eq : t.autoWounds = if fx.lethalHits then k else 0

theorem extraHits_loadedDice (fx : WeaponEffects) :
    (Salvo.extraHits fx).run LoadedDice.mk = (mostExtra fx, ⟨⟩) := by
  unfold Salvo.extraHits mostExtra
  cases fx.sustainedHits with
  | none => rfl
  | some e => exact DiceExpr.roll_loadedDice e

theorem Sixes.critical (h : Sixes fx k t) (hhits : t.hits < maxCount) :
    Sixes fx (k + 1) ((Salvo.countCritical fx t).run LoadedDice.mk).1 := by
  obtain ⟨hhitsEq, hauto⟩ := h
  have hsucc : (k + 1) * (1 + mostExtra fx) = k * (1 + mostExtra fx) + (1 + mostExtra fx) :=
    Nat.succ_mul _ _
  have hsuccExtra : (k + 1) * mostExtra fx = k * mostExtra fx + mostExtra fx := Nat.succ_mul _ _
  rw [run_countCritical hhits, extraHits_loadedDice]
  cases hfx : fx.lethalHits with
  | false =>
      rw [hfx] at hhitsEq hauto
      simp only [Bool.false_eq_true, ↓reduceIte] at hhitsEq hauto
      constructor
      · simp only [hfx, addCount, Bool.false_eq_true, ↓reduceIte]
        omega
      · simp [hfx, hauto]
  | true =>
      rw [hfx] at hhitsEq hauto
      simp only [↓reduceIte] at hhitsEq hauto
      constructor
      · simp only [hfx, addCount, ↓reduceIte]
        omega
      · simp [hfx, hauto]

theorem hitRoll_loadedDice (fx : WeaponEffects) (target : Int) :
    (hitRoll fx target).run LoadedDice.mk = (criticalRoll, ⟨⟩) :=
  rollWithReroll_loadedDice _

theorem fallsShort_criticalRoll {target : Int} (h : target ≤ criticalRoll) :
    fallsShort criticalRoll target = false := by
  rw [fallsShort_of_lt (by decide), decide_eq_false (Int.not_lt.2 h)]

theorem Sixes.step (h : Sixes fx k t) {target : Int} (htarget : target ≤ criticalRoll)
    (hstep : Succeeds (countHit fx target t) LoadedDice.mk) :
    t.hits < maxCount ∧ Sixes fx (k + 1) ((Salvo.countHit fx target t).run LoadedDice.mk).1 := by
  have hshort := fallsShort_criticalRoll htarget
  obtain ⟨-, hstep⟩ := (Refines.lift (hitRoll fx target)).succeeds_bind_iff.1 hstep
  rw [hitRoll_loadedDice] at hstep
  simp only [hshort, Nat.lt_irrefl, Bool.false_eq_true, ↓reduceIte] at hstep
  have hhits : t.hits < maxCount := by
    have hcount := (succeeds_count_bind_iff.1 hstep).1.2
    omega
  rw [run_countHit, hitRoll_loadedDice]
  simp only [hshort, Nat.lt_irrefl, Bool.false_eq_true, ↓reduceIte]
  exact ⟨hhits, h.critical hhits⟩

theorem Sixes.times {target : Int} (htarget : target ≤ criticalRoll) (n : Nat) (h : Sixes fx k t)
    (hrun : Succeeds (times (countHit fx target) n t) LoadedDice.mk) :
    Sixes fx (k + n) ((Salvo.times (Salvo.countHit fx target) n t).run LoadedDice.mk).1 ∧
      (fx.lethalHits = false → ∀ j, k ≤ j → j < k + n → j * (1 + mostExtra fx) < maxCount) := by
  induction n generalizing k t with
  | zero => exact ⟨h, fun _ j hlo hhi => by omega⟩
  | succ n ih =>
      obtain ⟨hfirst, hrest⟩ := (refines_countHit fx target t).succeeds_bind_iff.1 hrun
      obtain ⟨hhits, hnext⟩ := h.step htarget hfirst
      obtain ⟨hend, hlater⟩ := ih hnext hrest
      rw [Nat.add_right_comm, Nat.add_assoc] at hend
      refine ⟨hend, fun hlethal j hlo hhi => ?_⟩
      rcases Nat.eq_or_lt_of_le hlo with rfl | hlt
      · have hhitsEq := h.hits_eq
        rw [hlethal] at hhitsEq
        simp only [Bool.false_eq_true, ↓reduceIte] at hhitsEq
        omega
      · exact hlater hlethal j hlt (by omega)

theorem wounds_loadedDice (h : Salvo.woundTarget w d ≤ criticalRoll) (hits : Nat) (s : LoadedDice) :
    ((Salvo.resolveWounds hits w d).run s).1.wounds +
      ((Salvo.resolveWounds hits w d).run s).1.mortalWounds = hits := by
  have hall : ∀ roll ∈ ((woundRolls w.effects (Salvo.woundTarget w d) (criticalWound w d) hits).run
      s).1, isWound roll (Salvo.woundTarget w d) (criticalWound w d) = true := by
    intro roll hroll
    rw [woundRolls_loadedDice _ _ _ _ roll hroll, isWound, fallsShort_criticalRoll h]
    exact Bool.or_true _
  rw [run_resolveWounds]
  dsimp only
  rw [WoundTally.wounds_add_mortalWounds_addAll, List.countP_eq_length.2 hall, length_woundRolls]
  exact Nat.zero_add hits

theorem attackCount_loadedDice :
    ((Salvo.attackCount w d e).run LoadedDice.mk).1 = mostAttacks w d e := by
  rw [run_attackCount, DiceExpr.roll_loadedDice]
  rfl

theorem sixes_resolveHits (htarget : Salvo.hitTarget w d e ≤ criticalRoll)
    (htorrent : w.effects.torrent = false) (hrun : Succeeds (resolveHits w d e) LoadedDice.mk) :
    (∃ t, Sixes w.effects (mostAttacks w d e) t ∧
      ((Salvo.resolveHits w d e).run LoadedDice.mk).1.hits = t.hits ∧
      ((Salvo.resolveHits w d e).run LoadedDice.mk).1.autoWounds = t.autoWounds) ∧
      (w.effects.lethalHits = false → ∀ j < mostAttacks w d e,
        j * (1 + mostExtra w.effects) < maxCount) := by
  obtain ⟨-, hrun⟩ := (refines_attackCount w d e).succeeds_bind_iff.1 hrun
  obtain ⟨-, hrun⟩ := (refines_hitTarget w d e).succeeds_bind_iff.1 hrun
  rw [htorrent, attackCount_loadedDice] at hrun
  obtain ⟨htimes, -⟩ := (Refines.times (refines_countHit w.effects (Salvo.hitTarget w d e))
    (mostAttacks w d e) {}).succeeds_bind_iff.1 hrun
  have hstart : Sixes w.effects 0 {} := ⟨by simp, by simp⟩
  obtain ⟨hend, hbelow⟩ := hstart.times htarget _ htimes
  rw [Nat.zero_add] at hend hbelow
  refine ⟨⟨_, hend, ?_⟩, fun hlethal j hj => hbelow hlethal j (Nat.zero_le j) hj⟩
  rw [Salvo.resolveHits, run_resolveHitsAt, htorrent, attackCount_loadedDice]
  exact ⟨rfl, rfl⟩

theorem not_succeeds_trial_of_hits {config : AttackConfig}
    (htarget : Salvo.hitTarget w d config.engagement ≤ criticalRoll)
    (hwound : Salvo.woundTarget w d ≤ criticalRoll) (h : ¬ HitsFit w d config.engagement) :
    ¬ Succeeds (trial w d config) LoadedDice.mk := by
  intro hrun
  obtain ⟨htorrent, hrest⟩ := not_or.1 h
  obtain ⟨hmany, hfit⟩ := not_or.1 hrest
  obtain ⟨hhits, hsum⟩ := wounds_le_of_succeeds_trial hrun
  obtain ⟨⟨t, hsixes, hhitsEq, hautoEq⟩, hbelow⟩ :=
    sixes_resolveHits htarget (Bool.eq_false_iff.2 htorrent) hhits
  rw [wounds_loadedDice hwound, hhitsEq, hautoEq] at hsum
  have hhits := hsixes.hits_eq
  have hauto := hsixes.autoWounds_eq
  cases hlethal : w.effects.lethalHits with
  | false =>
      rw [hlethal] at hfit
      simp only [Bool.false_eq_true, ↓reduceIte] at hfit
      exact hfit (hbelow hlethal _ (by omega))
  | true =>
      rw [hlethal] at hfit hhits hauto
      simp only [↓reduceIte] at hfit hhits hauto
      refine hfit ?_
      rw [Nat.mul_add, Nat.mul_one]
      omega

/-- Once a total does not fit it stays so, because faces are never negative. -/
theorem le_of_succeeds_addFaces (sides n : Nat) {total : Int} (htotal : total ≤ maxLong)
    (h : Succeeds (addFaces sides n total) LoadedDice.mk) : total + (n * sides : Nat) ≤ maxLong := by
  induction n generalizing total with
  | zero =>
      rw [Nat.zero_mul]
      simpa using htotal
  | succ n ih =>
      obtain ⟨-, h⟩ := (Refines.lift (DiceSource.roll sides)).succeeds_bind_iff.1 h
      obtain ⟨hnext, h⟩ := succeeds_within_bind_iff.1 h
      have hrest := ih hnext.2 h
      have hface : ((DiceSource.roll sides).run LoadedDice.mk).1 = sides := rfl
      rw [hface] at hrest
      rw [Nat.succ_mul]
      omega

theorem not_succeeds_trial_of_attacks (hw : w.attacks.Writable) (h : ¬ w.attacks.highest ≤ maxLong)
    (config : AttackConfig) : ¬ Succeeds (trial w d config) LoadedDice.mk := by
  intro hrun
  obtain ⟨hhits, -⟩ := wounds_le_of_succeeds_trial hrun
  obtain ⟨hattacks, -⟩ := (refines_attackCount w d _).succeeds_bind_iff.1 hhits
  obtain ⟨hroll, -⟩ := (refines_roll w.attacks).succeeds_bind_iff.1 hattacks
  obtain ⟨htotal, -⟩ := (refines_addFaces _ _ _).succeeds_bind_iff.1 hroll
  have hmodifier : w.attacks.modifier ≤ maxLong := by
    have hhi := hw.2.2
    simp only [maxStat, maxLong] at *
    omega
  exact h (le_of_succeeds_addFaces _ _ hmodifier htotal)

end Sixes

end Checked

section Main

variable {wr : WeaponRecord} {dr : DefenderRecord} {wname dname : String} {w : WeaponProfile}
  {d : DefenderProfile}

/-- An attack of profiles that come from records, with its arithmetic checked. If the highest totals and
the most hits fit, it has the result that it has in exact numbers, on any dice in range. If the highest
number of attacks does not fit, or the hits do not although sixes hit and wound, it has none on loaded
dice. -/
theorem checked_trial_fits (hw : WeaponProfile.ofRecord wr wname = .ok w)
    (hd : DefenderProfile.ofRecord dr dname = .ok d) (config : AttackConfig) :
    (DiceFit w → HitsFit w d config.engagement →
      ∀ (σ : Type) [DiceSource σ], DiceSource.InRange σ → ∀ s : σ,
        (Checked.trial w d config).run s = some ((trial w d config).run s)) ∧
      (¬ w.attacks.highest ≤ maxLong → (Checked.trial w d config).run LoadedDice.mk = none) ∧
      (hitTarget w d config.engagement ≤ criticalRoll → woundTarget w d ≤ criticalRoll →
        ¬ HitsFit w d config.engagement → (Checked.trial w d config).run LoadedDice.mk = none) := by
  have hrolls := WeaponProfile.rollsInBounds_of_ofRecord hw
  have hbounds := DefenderProfile.inBounds_of_ofRecord hd
  have heffects := DefenderProfile.effects_inBounds_of_ofRecord hd
  have hnone (h : ¬ Checked.Succeeds (Checked.trial w d config) LoadedDice.mk) :
      (Checked.trial w d config).run LoadedDice.mk = none :=
    Option.eq_none_iff_forall_not_mem.2 fun r hr => h ⟨r, hr⟩
  refine ⟨fun hdice hfit σ _ hσ s => ?_, fun hattacks => ?_, fun htarget hwound hfit => ?_⟩
  · exact (Checked.refines_trial w d config).run_eq
      (Checked.succeeds_trial_of_fits hσ hrolls hbounds heffects hdice hfit s)
  · exact hnone (Checked.not_succeeds_trial_of_attacks hrolls.attacks hattacks config)
  · exact hnone (Checked.not_succeeds_trial_of_hits htarget hwound hfit)

/-- What is said about a weapon whose critical hits strike again. -/
def chainswordRecord (extra : String) : WeaponRecord where
  attacks := some (.int 3)
  toHit := some (.int 3)
  strength := some (.int 4)
  damage := some (.int 1)
  keywords := ["sustained hits " ++ extra]

def chainsword (extra : String) : WeaponProfile :=
  (WeaponProfile.ofStats "chainsword" (.constant 3) 3 4 0 (.constant 1)).withKeywords
    ["sustained hits " ++ extra]

theorem checked_trial_chainsword :
    WeaponProfile.ofRecord (chainswordRecord "1") "chainsword" = .ok (chainsword "1") ∧
      DefenderProfile.ofRecord marinesRecord "marines" = .ok (.ofStats "marines" 4 2 5 3) ∧
      ∀ s : Generator, (Checked.trial (chainsword "1") (.ofStats "marines" 4 2 5 3) {}).run s =
        some ((trial (chainsword "1") (.ofStats "marines" 4 2 5 3) {}).run s) := by
  have hw : WeaponProfile.ofRecord (chainswordRecord "1") "chainsword" = .ok (chainsword "1") := rfl
  have hd : DefenderProfile.ofRecord marinesRecord "marines" =
      .ok (.ofStats "marines" 4 2 5 3) := rfl
  have hdice : DiceFit (chainsword "1") := {
    attacks := by decide
    damage := by decide
    sustainedHits := fun e he => by
      cases he
      decide }
  have hhits : HitsFit (chainsword "1") (.ofStats "marines" 4 2 5 3) {} := by decide
  exact ⟨hw, hd, (checked_trial_fits hw hd {}).1 hdice hhits Generator Generator.inRange⟩

/-- Two critical hits bring the count to its largest value, and the third one does not fit. In exact numbers
it is counted, and its extra hits bring the count back to the largest value. -/
theorem not_checked_trial_chainsword :
    WeaponProfile.ofRecord (chainswordRecord "2147483647") "chainsword" =
        .ok (chainsword "2147483647") ∧
      DefenderProfile.ofRecord marinesRecord "marines" = .ok (.ofStats "marines" 4 2 5 3) ∧
      DiceSource.InRange LoadedDice ∧
      (Checked.resolveHits (chainsword "2147483647") (.ofStats "marines" 4 2 5 3) {}).run
        LoadedDice.mk = none ∧
      (Checked.trial (chainsword "2147483647") (.ofStats "marines" 4 2 5 3) {}).run LoadedDice.mk =
        none ∧
      ((resolveHits (chainsword "2147483647") (.ofStats "marines" 4 2 5 3) {}).run
        LoadedDice.mk).1 = ⟨3, 3, 4294967295, 3, 0⟩ :=
  ⟨rfl, rfl, LoadedDice.inRange, rfl, rfl, rfl⟩

end Main

end Salvo
