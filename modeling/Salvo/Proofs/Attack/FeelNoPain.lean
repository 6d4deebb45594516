import Salvo.Proofs.Attack.Funnel
import Salvo.Proofs.Attack.Mitigation
import Salvo.Proofs.Attack.Reach

/-!
# Feel No Pain

Feel No Pain throws no die, one die or one die for each point of damage (`noPain_feelNoPain`). For a
single point the two ways to count come to the same throw and the same result, so an attack that never
deals more than one point at once goes the same way with both (`feelNoPain_modes`).
-/

namespace Salvo

/-- What Feel No Pain lets through of an amount, by the faces that it throws. -/
structure NoPain (amount : Nat) (threshold : Option Nat) (mode : FeelNoPainMode) (faces : List Nat)
    (through : Nat) : Prop where
  through_le : through ≤ amount
  no_die : threshold = none ∨ amount = 0 → faces = [] ∧ through = amount
  one_die : ∀ t ∈ threshold, amount ≠ 0 → mode = .perInstance →
    ∃ face, faces = [face] ∧ through = if t ≤ face then 0 else amount
  each_die : ∀ t ∈ threshold, amount ≠ 0 → mode = .perPoint →
    faces.length = amount ∧ through = faces.countP (· < t)

section Throws

variable {σ : Type} [DiceSource σ]

theorem run_times_count (holds : Nat → Bool) (n k : Nat) (s : σ) :
    (times (fun k => do
      let roll ← (DiceSource.d6 : StateM σ Nat)
      return if holds roll then k + 1 else k) n k).run s =
        (k + ((DiceExpr.rollFaces 6 n).run s).1.countP holds, ((DiceExpr.rollFaces 6 n).run s).2) := by
  induction n generalizing k s with
  | zero => rfl
  | succ n ih =>
      have hfaces : (DiceExpr.rollFaces 6 (n + 1)).run s = _ :=
        run_collect_succ (DiceSource.roll 6) n s
      rw [times_succ, run_bind, ih, hfaces, List.countP_cons]
      refine Prod.ext ?_ rfl
      rw [run_bind, run_pure, DiceSource.d6, DiceExpr.rollFaces]
      dsimp only
      split <;> omega

theorem run_countRolls (holds : Nat → Bool) (n : Nat) (s : σ) :
    (countRolls holds n).run s =
      (((DiceExpr.rollFaces 6 n).run s).1.countP holds, ((DiceExpr.rollFaces 6 n).run s).2) := by
  rw [countRolls, run_times_count, Nat.zero_add]

theorem shows_rollFaces_d6 (n : Nat) (s : σ) :
    DiceSource.Shows s (((DiceExpr.rollFaces 6 n).run s).1.map (Throw.mk 6))
      ((DiceExpr.rollFaces 6 n).run s).2 :=
  DiceExpr.shows_rollFaces ⟨n, 6, 0⟩ n s

section Rolls

variable {amount : Nat} (h : amount ≠ 0) (t : Nat) (s : σ)

include h

theorem run_feelNoPain_perInstance :
    (feelNoPain amount (some t) .perInstance).run s =
      (if t ≤ ((DiceSource.roll 6).run s).1 then 0 else amount, ((DiceSource.roll 6).run s).2) := by
  simp only [feelNoPain, if_neg h]
  rfl

theorem run_feelNoPain_perPoint :
    (feelNoPain amount (some t) .perPoint).run s =
      (((DiceExpr.rollFaces 6 amount).run s).1.countP (· < t),
        ((DiceExpr.rollFaces 6 amount).run s).2) := by
  simp only [feelNoPain, if_neg h]
  exact run_countRolls ..

end Rolls

theorem noPain_feelNoPain (amount : Nat) (threshold : Option Nat) (mode : FeelNoPainMode) (s : σ) :
    ∃ faces, DiceSource.Shows s (faces.map (Throw.mk 6))
        ((feelNoPain amount threshold mode).run s).2 ∧
      NoPain amount threshold mode faces ((feelNoPain amount threshold mode).run s).1 := by
  have hle := feelNoPain_le amount threshold mode s
  cases threshold with
  | none => exact ⟨[], rfl, hle, fun _ => ⟨rfl, rfl⟩, nofun, nofun⟩
  | some t =>
      by_cases h : amount = 0
      · subst h
        exact ⟨[], rfl, hle, fun _ => ⟨rfl, rfl⟩, fun _ _ h => absurd rfl h,
          fun _ _ h => absurd rfl h⟩
      · have hthrows : ¬ (some t = none ∨ amount = 0) := by simp [h]
        cases mode with
        | perInstance =>
            have hrun := run_feelNoPain_perInstance h t s
            refine ⟨[((DiceSource.roll 6).run s).1], ?_, hle, fun h => absurd h hthrows, ?_, nofun⟩
            · rw [hrun]
              exact DiceSource.shows_roll 6 s
            · rintro _ ⟨⟩ - -
              exact ⟨_, rfl, congrArg Prod.fst hrun⟩
        | perPoint =>
            have hrun := run_feelNoPain_perPoint h t s
            refine ⟨((DiceExpr.rollFaces 6 amount).run s).1, ?_, hle, fun h => absurd h hthrows,
              nofun, ?_⟩
            · rw [hrun]
              exact shows_rollFaces_d6 amount s
            · rintro _ ⟨⟩ - -
              exact ⟨length_collect .., congrArg Prod.fst hrun⟩

theorem feelNoPain_of_le_one {amount : Nat} (h : amount ≤ 1) (threshold : Option Nat) :
    (feelNoPain amount threshold .perInstance : StateM σ Nat) =
      feelNoPain amount threshold .perPoint := by
  cases threshold with
  | none => rfl
  | some t =>
      obtain rfl | rfl := Nat.le_one_iff_eq_zero_or_eq_one.1 h
      · rfl
      · refine StateT.ext fun s => ?_
        have hfaces : (DiceExpr.rollFaces 6 1).run s =
            ([((DiceSource.roll 6).run s).1], ((DiceSource.roll 6).run s).2) := rfl
        rw [run_feelNoPain_perInstance Nat.one_ne_zero, run_feelNoPain_perPoint Nat.one_ne_zero, hfaces]
        refine Prod.ext ?_ rfl
        simp only [List.countP_singleton, decide_eq_true_eq]
        split <;> split <;> omega

end Throws

section Modes

variable {σ : Type} [DiceSource σ] {w : WeaponProfile} {d : DefenderProfile} {e : Engagement} {s : σ}

/-- Both ways allocate the same instances with the same throws, as long as none is worth more than a
point. -/
theorem run_allocate_modes
    (h : ∀ s', DiceSource.Reaches s s' → ((damageInstance w d e).run s').1 ≤ 1) (n : Nat)
    (c : Casualties) :
    (allocate w d ⟨e, .perInstance⟩ n c).run s = (allocate w d ⟨e, .perPoint⟩ n c).run s := by
  induction n generalizing c s with
  | zero => rfl
  | succ n ih =>
      rw [allocate_succ, allocate_succ]
      split
      · rfl
      · rw [run_bind, run_bind, run_bind, run_bind]
        dsimp only
        rw [feelNoPain_of_le_one (h s (.refl s))]
        refine ih (fun s' hreach => h s' ?_) _
        exact ((onlyThrows_damageInstance w d e s).trans (onlyThrows_feelNoPain ..)).trans hreach

theorem run_resolveDamage_modes
    (h : ∀ s', DiceSource.Reaches s s' → ((damageInstance w d e).run s').1 ≤ 1)
    (failed mortal : Nat) :
    (resolveDamage failed mortal w d ⟨e, .perInstance⟩).run s =
      (resolveDamage failed mortal w d ⟨e, .perPoint⟩).run s := by
  rw [resolveDamage, resolveDamage, run_bind, run_bind, run_allocate_modes h]

theorem run_attack_modes
    (h : ∀ s', DiceSource.Reaches s s' → ((damageInstance w d e).run s').1 ≤ 1) :
    (attack w d ⟨e, .perInstance⟩).run s = (attack w d ⟨e, .perPoint⟩).run s := by
  rw [run_attack, run_attack]
  dsimp only
  -- the stages before damage do not look at the way to count, and lead to a state that is reached
  rw [run_resolveDamage_modes]
  intro s' hreach
  refine h s' (.trans ?_ hreach)
  exact ((onlyThrows_resolveHits w d e s).trans (onlyThrows_resolveWounds ..)).trans
    (onlyThrows_resolveSaves ..)

end Modes

section Main

variable {σ : Type} [DiceSource σ]

/-- The two ways to count Feel No Pain agree on single points: if a weapon never deals more than one to a
unit, whatever the dice show, its attack has the same outcomes and leaves the same dice with both. In
general they differ in the number of dice: none without a threshold or without damage, else one die or
one die a point, and no more damage gets through than there is. -/
theorem feelNoPain_modes :
    (∀ (w : WeaponProfile) (d : DefenderProfile) (e : Engagement) (s : σ),
      (∀ s', DiceSource.Reaches s s' → ((damageInstance w d e).run s').1 ≤ 1) →
        (trial w d ⟨e, .perInstance⟩).run s = (trial w d ⟨e, .perPoint⟩).run s) ∧
    ∀ amount threshold mode (s : σ), ∃ faces,
      DiceSource.Shows s (faces.map (Throw.mk 6)) ((feelNoPain amount threshold mode).run s).2 ∧
        NoPain amount threshold mode faces ((feelNoPain amount threshold mode).run s).1 := by
  refine ⟨fun w d e s h => ?_, noPain_feelNoPain⟩
  rw [trial, trial, run_bind, run_bind, run_attack_modes h]

def dagger : WeaponProfile := .ofStats "dagger" (.constant 3) 3 4 0 ⟨1, 2, -1⟩

def veterans : DefenderProfile :=
  { DefenderProfile.ofStats "veterans" 4 2 3 4 with effects := { feelNoPain := some 5 } }

theorem damageInstance_dagger_le (s : Script) :
    ((damageInstance dagger veterans {}).run s).1 ≤ 1 := by
  have hface := Script.roll_le 2 s
  have hrolled : rolledDamage dagger {} s = toCount (-1 + ((DiceSource.roll 2).run s).1) + 0 := rfl
  have hpoint : toCount (rolledDamage dagger {} s) ≤ 1 := by
    simp only [hrolled, toCount]
    omega
  exact (mitigated_le veterans.effects _).trans hpoint

theorem feelNoPain_modes_dagger :
    (∀ s', DiceSource.Reaches (Script.ofFaces [4, 3, 6, 5, 6, 4, 2, 1, 3, 2, 5, 1, 2, 4]) s' →
      ((damageInstance dagger veterans {}).run s').1 ≤ 1) ∧
    (trial dagger veterans ⟨{}, .perInstance⟩).run
        (Script.ofFaces [4, 3, 6, 5, 6, 4, 2, 1, 3, 2, 5, 1, 2, 4]) =
      (trial dagger veterans ⟨{}, .perPoint⟩).run
        (Script.ofFaces [4, 3, 6, 5, 6, 4, 2, 1, 3, 2, 5, 1, 2, 4]) := by
  have hdamage : ∀ s', DiceSource.Reaches
      (Script.ofFaces [4, 3, 6, 5, 6, 4, 2, 1, 3, 2, 5, 1, 2, 4]) s' →
        ((damageInstance dagger veterans {}).run s').1 ≤ 1 := fun s' _ => damageInstance_dagger_le s'
  exact ⟨hdamage, feelNoPain_modes.1 dagger veterans {} _ hdamage⟩

/-- Of three failed saves the first one deals a point that is ignored, the second one none and the third
one a point that gets through. -/
example : (trial dagger veterans ⟨{}, .perPoint⟩).run
    (Script.ofFaces [4, 3, 6, 5, 6, 4, 2, 1, 3, 2, 5, 1, 2, 4]) =
      (⟨3, 3, 3, 0, 3, 1, 0⟩, ⟨#[4, 3, 6, 5, 6, 4, 2, 1, 3, 2, 5, 1, 2, 4], 14⟩) := rfl

end Main

end Salvo
