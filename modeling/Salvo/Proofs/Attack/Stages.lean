import Salvo.Attack.Trial

/-!
# Bounds on the stages of an attack

Each stage of an attack repeats a step for every attack, hit or wound. A bound is shown for one step
and carried over the whole stage by `times_run_induction`; the stages before damage have theirs here.
Nothing is asked of the dice: the bounds hold for any source, whatever it shows.
-/

namespace Salvo

section Runs

variable {σ τ α β : Type}

/-- Two actions in a row: the second one starts with what the first one leaves. -/
theorem run_bind (x : StateM σ α) (f : α → StateM σ β) (s : σ) :
    (x >>= f).run s = (f (x.run s).1).run (x.run s).2 := rfl

theorem run_pure (a : α) (s : σ) : (pure a : StateM σ α).run s = (a, s) := rfl

/-- What every step hands on to the next one holds at the end. The number counts the steps. -/
theorem times_run_induction {P : Nat → τ → Prop} (step : τ → StateM σ τ)
    (hstep : ∀ k t s, P k t → P (k + 1) ((step t).run s).1) (n : Nat) {k : Nat} {t : τ} (s : σ)
    (h : P k t) : P (k + n) ((times step n t).run s).1 := by
  induction n generalizing k t s with
  | zero => exact h
  | succ n ih =>
      rw [times_succ, run_bind]
      have hnext : P (k + 1) ((step t).run s).1 := hstep k t s h
      have hrest := ih ((step t).run s).2 hnext
      rwa [Nat.add_right_comm, Nat.add_assoc] at hrest

end Runs

variable {σ : Type} [DiceSource σ]

theorem countRolls_le (holds : Nat → Bool) (n : Nat) (s : σ) :
    ((countRolls holds n).run s).1 ≤ n := by
  have hcount := times_run_induction (P := fun k found => found ≤ k) (k := 0) (t := 0)
    (fun k => do
      let roll ← (DiceSource.d6 : StateM σ Nat)
      return if holds roll then k + 1 else k)
    (fun k found s' hle => by
      rw [run_bind, run_pure]
      dsimp only
      split <;> omega) n s (Nat.le_refl 0)
  rwa [Nat.zero_add] at hcount

section Hits

def HitTally.landed (t : HitTally) : Nat := t.hits + t.autoWounds

/-- The hits of a stage, with those that became wounds. -/
def HitOutcome.landed (o : HitOutcome) : Nat := o.hits + o.autoWounds

theorem run_countHit (fx : WeaponEffects) (target : Int) (t : HitTally) (s : σ) :
    (countHit fx target t).run s =
      if fallsShort ((hitRoll fx target).run s).1 target then (t, ((hitRoll fx target).run s).2)
      else if ((hitRoll fx target).run s).1 < criticalRoll then
        ({ t with hits := t.hits + 1 }, ((hitRoll fx target).run s).2)
      else (countCritical fx t).run ((hitRoll fx target).run s).2 := by
  rw [countHit, run_bind]
  split
  · rfl
  · split <;> rfl

theorem addCount_succ_pos (a b : Nat) : 1 ≤ addCount (a + 1) b := by
  simp only [addCount, maxCount]
  omega

/-- A critical hit that can be counted adds itself and its extra hits, as far as these can be counted. -/
theorem run_countCritical {fx : WeaponEffects} {t : HitTally} (h : t.hits < maxCount) (s : σ) :
    ((countCritical fx t).run s).1 =
      let grown := addCount (t.hits + 1) ((extraHits fx).run s).1
      if fx.lethalHits then ⟨grown - 1, t.criticalHits + 1, t.autoWounds + 1⟩
      else ⟨grown, t.criticalHits + 1, t.autoWounds⟩ := by
  have hgrown : (if fx.sustainedHits.isSome then
      addCount (t.hits + 1) ((extraHits fx).run s).1 else t.hits + 1) =
      addCount (t.hits + 1) ((extraHits fx).run s).1 := by
    rw [extraHits]
    cases fx.sustainedHits with
    | none => exact (addCount_of_le (by omega)).symm
    | some e => rfl
  rw [countCritical, run_bind]
  dsimp only
  rw [hgrown]
  cases fx.lethalHits <;> rfl

/-- Lethal hits move a critical hit from one count to the other, so their sum does not show them. -/
theorem landed_countCritical_le {fx : WeaponEffects} (h : fx.sustainedHits = none) (t : HitTally)
    (s : σ) : ((countCritical fx t).run s).1.landed ≤ t.landed + 1 := by
  rw [countCritical, run_bind, h]
  simp only [Option.isSome_none, Bool.false_eq_true, ↓reduceIte]
  split
  · simp only [run_pure, HitTally.landed]
    omega
  · simp only [run_pure, HitTally.landed]
    omega

theorem landed_countHit_le {fx : WeaponEffects} (h : fx.sustainedHits = none) (target : Int)
    (t : HitTally) (s : σ) : ((countHit fx target t).run s).1.landed ≤ t.landed + 1 := by
  rw [run_countHit]
  split
  · exact Nat.le_succ _
  · split
    · simp only [HitTally.landed]
      omega
    · exact landed_countCritical_le h t _

theorem run_resolveHitsAt (target : Int) (w : WeaponProfile) (d : DefenderProfile) (e : Engagement)
    (s : σ) :
    ((resolveHitsAt target w d e).run s).1 =
      let attacks := ((attackCount w d e).run s).1
      let t := ((times (countHit w.effects target) attacks {}).run ((attackCount w d e).run s).2).1
      if w.effects.torrent then ⟨attacks, target, attacks, 0, 0⟩
      else ⟨attacks, target, t.hits, t.criticalHits, t.autoWounds⟩ := by
  rw [resolveHitsAt, run_bind]
  cases w.effects.torrent <;> rfl

theorem landed_resolveHitsAt_le {w : WeaponProfile}
    (h : w.effects.sustainedHits = none ∨ w.effects.torrent = true) (target : Int)
    (d : DefenderProfile) (e : Engagement) (s : σ) :
    ((resolveHitsAt target w d e).run s).1.landed ≤
      ((resolveHitsAt target w d e).run s).1.attacks := by
  rw [run_resolveHitsAt]
  cases htorrent : w.effects.torrent with
  | true => exact Nat.le_refl _
  | false =>
      have hnone : w.effects.sustainedHits = none := by simpa [htorrent] using h
      have htally := times_run_induction (P := fun k (t : HitTally) => t.landed ≤ k) (k := 0)
        (t := {}) (countHit (σ := σ) w.effects target)
        (fun k t s' hle => Nat.le_trans (landed_countHit_le hnone target t s')
          (Nat.succ_le_succ hle))
        ((attackCount w d e).run s).1 ((attackCount w d e).run s).2 (Nat.le_refl 0)
      rwa [Nat.zero_add] at htally

theorem landed_resolveHitsAt_of_attacks_eq_zero {target : Int} {w : WeaponProfile}
    {d : DefenderProfile} {e : Engagement} {s : σ}
    (h : ((resolveHitsAt target w d e).run s).1.attacks = 0) :
    ((resolveHitsAt target w d e).run s).1.landed = 0 := by
  rw [run_resolveHitsAt] at h ⊢
  cases htorrent : w.effects.torrent with
  | true =>
      rw [htorrent] at h
      exact h
  | false =>
      rw [htorrent] at h
      have hzero : ((attackCount w d e).run s).1 = 0 := h
      simp only [hzero, times_zero, run_pure]
      rfl

end Hits

section Wounds

/-- Devastating wounds move a critical wound from one count to the other, so a roll adds at most one
to both together. -/
theorem WoundTally.wounds_add_le (t : WoundTally) (devastating : Bool) (roll : Nat) (target : Int)
    (criticalAt : Nat) :
    (t.add devastating roll target criticalAt).wounds +
      (t.add devastating roll target criticalAt).mortalWounds ≤ t.wounds + t.mortalWounds + 1 := by
  unfold WoundTally.add
  split
  · exact Nat.le_succ _
  · split
    · simp only
      omega
    · split <;> simp only <;> omega

theorem WoundTally.mortalWounds_add_of_not_devastating (t : WoundTally) (roll : Nat) (target : Int)
    (criticalAt : Nat) : (t.add false roll target criticalAt).mortalWounds = t.mortalWounds := by
  unfold WoundTally.add
  split
  · rfl
  · split <;> rfl

theorem run_countWound (fx : WeaponEffects) (target : Int) (criticalAt : Nat) (t : WoundTally)
    (s : σ) :
    (countWound fx target criticalAt t).run s =
      (t.add fx.devastatingWounds ((woundRoll fx target criticalAt).run s).1 target criticalAt,
        ((woundRoll fx target criticalAt).run s).2) := rfl

theorem resolveWoundsAt_le (target : Int) (criticalAt hits : Nat) (w : WeaponProfile) (s : σ) :
    ((resolveWoundsAt target criticalAt hits w).run s).1.wounds +
      ((resolveWoundsAt target criticalAt hits w).run s).1.mortalWounds ≤ hits := by
  have htally := times_run_induction
    (P := fun k (t : WoundTally) => t.wounds + t.mortalWounds ≤ k) (k := 0) (t := {})
    (countWound (σ := σ) w.effects target criticalAt)
    (fun k t s' hle => by
      rw [run_countWound]
      exact Nat.le_trans (t.wounds_add_le _ _ _ _) (Nat.succ_le_succ hle))
    hits s (Nat.le_refl 0)
  rwa [Nat.zero_add] at htally

theorem mortalWounds_resolveWoundsAt {w : WeaponProfile} (h : w.effects.devastatingWounds = false)
    (target : Int) (criticalAt hits : Nat) (s : σ) :
    ((resolveWoundsAt target criticalAt hits w).run s).1.mortalWounds = 0 :=
  times_run_induction (P := fun _ (t : WoundTally) => t.mortalWounds = 0) (k := 0) (t := {})
    (countWound (σ := σ) w.effects target criticalAt)
    (fun _ t s' hzero => by
      rw [run_countWound, h, t.mortalWounds_add_of_not_devastating]
      exact hzero)
    hits s rfl

theorem failed_resolveSavesAt_le (target : Int) (wounds : Nat) (s : σ) :
    ((resolveSavesAt target wounds).run s).1.failed ≤ wounds :=
  countRolls_le _ wounds s

end Wounds

section Damage

theorem feelNoPain_le (amount : Nat) (threshold : Option Nat) (mode : FeelNoPainMode) (s : σ) :
    ((feelNoPain amount threshold mode).run s).1 ≤ amount := by
  unfold feelNoPain
  cases threshold with
  | none => exact Nat.le_refl amount
  | some threshold =>
      dsimp only
      split
      · exact Nat.zero_le amount
      · cases mode with
        | perInstance =>
            rw [run_bind, run_pure]
            dsimp only
            split <;> omega
        | perPoint => exact countRolls_le _ amount s

end Damage

end Salvo
