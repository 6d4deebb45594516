import Salvo.Proofs.Attack.Stages
import Salvo.Proofs.Dice.Sources

/-!
# Final wound rolls

The outcome of the wound stage is a count of its final rolls: how many wound, how many of these are
critical. So whether a kind of roll always wounds is a question about the single roll.

A threshold against a category makes the rolls from it on wound whatever the target, as long as it is
below the roll that is critical for all weapons; at that roll it is not told from having no threshold,
and the target number decides (`antiThreshold_wounds_iff`).
-/

namespace Salvo

/-- The roll wounds and is critical. -/
def isCriticalWound (roll : Nat) (target : Int) (criticalAt : Nat) : Bool :=
  isWound roll target criticalAt && criticalAt ≤ roll

section Tally

def WoundTally.addAll (t : WoundTally) (devastating : Bool) (rolls : List Nat) (target : Int)
    (criticalAt : Nat) : WoundTally :=
  rolls.foldl (fun t roll => t.add devastating roll target criticalAt) t

variable (t : WoundTally) (devastating : Bool) (roll : Nat) (rolls : List Nat) (target : Int)
  (criticalAt : Nat)

theorem WoundTally.addAll_cons :
    t.addAll devastating (roll :: rolls) target criticalAt =
      (t.add devastating roll target criticalAt).addAll devastating rolls target criticalAt := rfl

/-- What a final roll adds: a wound of one kind or the other if it wounds, and a critical wound if it is
critical as well. Devastating wounds decide about the kind of the critical ones. -/
theorem WoundTally.add_eq :
    t.add devastating roll target criticalAt =
      { wounds := t.wounds + (if isWound roll target criticalAt &&
          !(devastating && isCriticalWound roll target criticalAt) then 1 else 0)
        criticalWounds := t.criticalWounds +
          (if isCriticalWound roll target criticalAt then 1 else 0)
        mortalWounds := t.mortalWounds +
          (if devastating && isCriticalWound roll target criticalAt then 1 else 0) } := by
  rw [WoundTally.add, isCriticalWound]
  cases isWound roll target criticalAt with
  | false => simp
  | true =>
      by_cases h : roll < criticalAt
      · simp [h, Nat.not_le_of_lt h]
      · cases devastating <;> simp [h, Nat.le_of_not_lt h]

theorem WoundTally.addAll_eq :
    t.addAll devastating rolls target criticalAt =
      { wounds := t.wounds + rolls.countP fun roll => isWound roll target criticalAt &&
          !(devastating && isCriticalWound roll target criticalAt)
        criticalWounds := t.criticalWounds +
          rolls.countP fun roll => isCriticalWound roll target criticalAt
        mortalWounds := t.mortalWounds +
          rolls.countP fun roll => devastating && isCriticalWound roll target criticalAt } := by
  induction rolls generalizing t with
  | nil => rfl
  | cons roll rolls ih =>
      rw [addAll_cons, ih, add_eq]
      simp only [List.countP_cons, WoundTally.mk.injEq]
      refine ⟨?_, ?_, ?_⟩ <;> omega

theorem WoundTally.wounds_add_mortalWounds_addAll :
    (t.addAll devastating rolls target criticalAt).wounds +
        (t.addAll devastating rolls target criticalAt).mortalWounds =
      t.wounds + t.mortalWounds + rolls.countP fun roll => isWound roll target criticalAt := by
  induction rolls generalizing t with
  | nil => rfl
  | cons roll rolls ih =>
      rw [addAll_cons, ih, add_eq, List.countP_cons, isCriticalWound]
      cases isWound roll target criticalAt <;> cases devastating <;>
        cases decide (criticalAt ≤ roll) <;> simp <;> omega

end Tally

section Stage

variable {σ : Type} [DiceSource σ]

def woundRolls (fx : WeaponEffects) (target : Int) (criticalAt : Nat) : Nat → StateM σ (List Nat)
  | 0 => pure []
  | n + 1 => do
    let roll ← woundRoll fx target criticalAt
    let rolls ← woundRolls fx target criticalAt n
    return roll :: rolls

theorem run_woundRolls_zero (fx : WeaponEffects) (target : Int) (criticalAt : Nat) (s : σ) :
    (woundRolls fx target criticalAt 0).run s = ([], s) := rfl

theorem run_woundRolls_succ (fx : WeaponEffects) (target : Int) (criticalAt n : Nat) (s : σ) :
    (woundRolls fx target criticalAt (n + 1)).run s =
      (((woundRoll fx target criticalAt).run s).1 ::
          ((woundRolls fx target criticalAt n).run ((woundRoll fx target criticalAt).run s).2).1,
        ((woundRolls fx target criticalAt n).run ((woundRoll fx target criticalAt).run s).2).2) :=
  rfl

theorem length_woundRolls (fx : WeaponEffects) (target : Int) (criticalAt n : Nat) (s : σ) :
    ((woundRolls fx target criticalAt n).run s).1.length = n := by
  induction n generalizing s with
  | zero => rfl
  | succ n ih => rw [run_woundRolls_succ, List.length_cons, ih]

theorem run_times_countWound (fx : WeaponEffects) (target : Int) (criticalAt n : Nat)
    (t : WoundTally) (s : σ) :
    (times (countWound fx target criticalAt) n t).run s =
      (t.addAll fx.devastatingWounds ((woundRolls fx target criticalAt n).run s).1 target criticalAt,
        ((woundRolls fx target criticalAt n).run s).2) := by
  induction n generalizing t s with
  | zero => rfl
  | succ n ih =>
      rw [times_succ, run_bind, run_countWound, ih, run_woundRolls_succ]
      rfl

theorem run_resolveWounds (hits : Nat) (w : WeaponProfile) (d : DefenderProfile) (s : σ) :
    ((resolveWounds hits w d).run s).1 =
      let rolls := ((woundRolls w.effects (woundTarget w d) (criticalWound w d) hits).run s).1
      let t := ({} : WoundTally).addAll w.effects.devastatingWounds rolls (woundTarget w d)
        (criticalWound w d)
      ⟨woundTarget w d, criticalWound w d, t.wounds, t.criticalWounds, t.mortalWounds⟩ := by
  rw [resolveWounds, resolveWoundsAt, run_bind, run_times_countWound]
  rfl

theorem rollWithReroll_mem_range (hσ : DiceSource.InRange σ) (again : Nat → Bool) (s : σ) :
    1 ≤ ((rollWithReroll again).run s).1 ∧ ((rollWithReroll again).run s).1 ≤ 6 := by
  rw [rollWithReroll, run_bind]
  split
  · exact hσ 6 (by decide) _
  · exact hσ 6 (by decide) s

theorem rollWithReroll_loadedDice (again : Nat → Bool) :
    (rollWithReroll again).run LoadedDice.mk = (criticalRoll, ⟨⟩) := by
  rw [rollWithReroll, run_bind]
  split <;> rfl

theorem woundRolls_mem_range (hσ : DiceSource.InRange σ) (fx : WeaponEffects) (target : Int)
    (criticalAt n : Nat) (s : σ) :
    ∀ roll ∈ ((woundRolls fx target criticalAt n).run s).1, 1 ≤ roll ∧ roll ≤ 6 := by
  induction n generalizing s with
  | zero => exact fun roll h => nomatch h
  | succ n ih =>
      rw [run_woundRolls_succ, List.forall_mem_cons]
      exact ⟨rollWithReroll_mem_range hσ _ s, ih _⟩

end Stage

section AntiThreshold

variable {w : WeaponProfile} {d : DefenderProfile} {t : Nat}

/-- Every final roll from a threshold on counts: as a critical wound, and as a wound of the kind that
devastating wounds decide about. -/
structure WoundOutcome.CountsFrom (o : WoundOutcome) (t : Nat) (devastating : Bool)
    (rolls : List Nat) : Prop where
  criticalWounds_eq : o.criticalWounds = rolls.countP (t ≤ ·)
  le_wounds_add_mortalWounds : rolls.countP (t ≤ ·) ≤ o.wounds + o.mortalWounds
  mortalWounds_eq : devastating = true → o.mortalWounds = rolls.countP (t ≤ ·)
  le_wounds : devastating = false → rolls.countP (t ≤ ·) ≤ o.wounds

/-- Below the roll that is always critical the threshold makes the rolls from it on wound; at that roll
it takes a target that a die can reach. -/
theorem isCriticalWound_eq {roll : Nat} {target : Int} (ht : t ≤ criticalRoll)
    (hroll : roll ≤ criticalRoll) (h : t < criticalRoll ∨ target ≤ criticalRoll) :
    isCriticalWound roll target t = decide (t ≤ roll) := by
  simp only [criticalRoll] at ht hroll h
  rw [isCriticalWound, isWound, isAntiCritical, fallsShort_of_lt (by omega), criticalRoll]
  by_cases hcritical : t ≤ roll
  · have hwounds : t < 6 ∨ target ≤ (roll : Int) := by omega
    simpa [hcritical] using hwounds
  · simp [hcritical]

theorem criticalWound_eq (h : w.effects.antiThreshold? d.matchesCategory = some t)
    (ht : t ≤ criticalRoll) : criticalWound w d = t := by
  rw [criticalWound, h]
  exact Nat.min_eq_left ht

variable {σ : Type} [DiceSource σ]

theorem countsFrom_resolveWounds (h : w.effects.antiThreshold? d.matchesCategory = some t)
    (ht : t ≤ criticalRoll) (hreach : t < criticalRoll ∨ woundTarget w d ≤ criticalRoll)
    (hσ : DiceSource.InRange σ) (hits : Nat) (s : σ) :
    ((resolveWounds hits w d).run s).1.CountsFrom t w.effects.devastatingWounds
      ((woundRolls w.effects (woundTarget w d) (criticalWound w d) hits).run s).1 := by
  have hrange := woundRolls_mem_range hσ w.effects (woundTarget w d) (criticalWound w d) hits s
  rw [run_resolveWounds]
  rw [criticalWound_eq h ht] at hrange ⊢
  generalize ((woundRolls w.effects (woundTarget w d) t hits).run s).1 = rolls at hrange ⊢
  have hcritical : rolls.countP (fun roll => isCriticalWound roll (woundTarget w d) t) =
      rolls.countP (t ≤ ·) :=
    List.countP_congr fun roll hroll => by
      rw [isCriticalWound_eq ht (hrange roll hroll).2 hreach]
  have hwound : rolls.countP (fun roll => isCriticalWound roll (woundTarget w d) t) ≤
      rolls.countP (fun roll => isWound roll (woundTarget w d) t) :=
    List.countP_mono_left fun roll _ hroll => (Bool.and_eq_true_iff.1 hroll).1
  rw [hcritical] at hwound
  simp only [WoundTally.addAll_eq, Nat.zero_add]
  cases w.effects.devastatingWounds with
  | false =>
      constructor <;> simp [hcritical, hwound]
  | true =>
      constructor <;> simp [hcritical]

theorem run_woundRoll_loadedDice (fx : WeaponEffects) (target : Int) (criticalAt : Nat) :
    (woundRoll fx target criticalAt).run LoadedDice.mk = (criticalRoll, ⟨⟩) :=
  rollWithReroll_loadedDice _

theorem woundRolls_loadedDice (fx : WeaponEffects) (target : Int) (criticalAt n : Nat) :
    ∀ roll ∈ ((woundRolls fx target criticalAt n).run LoadedDice.mk).1, roll = criticalRoll := by
  induction n with
  | zero => exact fun roll h => nomatch h
  | succ n ih =>
      rw [run_woundRolls_succ, run_woundRoll_loadedDice, List.forall_mem_cons]
      exact ⟨rfl, ih⟩

/-- A six against a higher target does not count, whatever its threshold. -/
theorem not_countsFrom_loadedDice (h : w.effects.antiThreshold? d.matchesCategory = some criticalRoll)
    (htarget : criticalRoll < woundTarget w d) :
    ¬ ((resolveWounds 1 w d).run LoadedDice.mk).1.CountsFrom criticalRoll
      w.effects.devastatingWounds
      ((woundRolls w.effects (woundTarget w d) (criticalWound w d) 1).run LoadedDice.mk).1 := by
  intro hcounts
  have hmiss : isCriticalWound criticalRoll (woundTarget w d) criticalRoll = false := by
    simp only [criticalRoll] at htarget ⊢
    have hshort : (6 : Int) < woundTarget w d := htarget
    simp [isCriticalWound, isWound, isAntiCritical, fallsShort_of_lt, criticalRoll, hshort]
  have hnone := hcounts.criticalWounds_eq
  rw [run_resolveWounds, criticalWound_eq h (Nat.le_refl _), run_woundRolls_succ,
    run_woundRoll_loadedDice, run_woundRolls_zero] at hnone
  simp [WoundTally.addAll_eq, hmiss] at hnone

/-- A threshold against a category of the defender wounds whatever the target exactly if it is below
the roll that is critical anyway, or if that roll reaches the target by itself. -/
theorem antiThreshold_wounds_iff (h : w.effects.antiThreshold? d.matchesCategory = some t)
    (ht : t ≤ criticalRoll) :
    (∀ (σ : Type) [DiceSource σ], DiceSource.InRange σ → ∀ (hits : Nat) (s : σ),
      ((resolveWounds hits w d).run s).1.CountsFrom t w.effects.devastatingWounds
        ((woundRolls w.effects (woundTarget w d) (criticalWound w d) hits).run s).1) ↔
      t < criticalRoll ∨ woundTarget w d ≤ criticalRoll := by
  constructor
  · intro hall
    rcases Nat.lt_or_eq_of_le ht with hlt | rfl
    · exact .inl hlt
    · refine .inr (Int.not_lt.1 fun htarget => ?_)
      exact not_countsFrom_loadedDice h htarget (hall LoadedDice LoadedDice.inRange 1 ⟨⟩)
  · exact fun hreach σ _ hσ hits s => countsFrom_resolveWounds h ht hreach hσ hits s

/-- Weak grenades that wound on sevens, but for the threshold among their keywords. -/
def grenades (threshold : String) : WeaponProfile :=
  (WeaponProfile.ofStats "grenades" (.constant 3) 3 2 0 (.constant 1)).withKeywords
    [threshold, "-1 to wound"]

def riflemen : DefenderProfile :=
  (DefenderProfile.ofStats "riflemen" 4 2 5 3).withKeywords ["infantry"]

theorem antiThreshold_wounds_grenades :
    woundTarget (grenades "anti-infantry 4+") riflemen = 7 ∧
      ∀ (σ : Type) [DiceSource σ], DiceSource.InRange σ → ∀ (hits : Nat) (s : σ),
        ((resolveWounds hits (grenades "anti-infantry 4+") riflemen).run s).1.CountsFrom 4 false
          ((woundRolls (grenades "anti-infantry 4+").effects 7 4 hits).run s).1 :=
  ⟨rfl, (antiThreshold_wounds_iff (w := grenades "anti-infantry 4+") (d := riflemen) rfl
    (by decide)).2 (.inl (by decide))⟩

/-- With a threshold of six a six does not wound, though it is the final roll. -/
theorem not_countsFrom_grenades :
    (grenades "anti-infantry 6+").effects.antiThreshold? riflemen.matchesCategory = some 6 ∧
      DiceSource.InRange LoadedDice ∧
      ((woundRolls (grenades "anti-infantry 6+").effects 7 6 1).run LoadedDice.mk).1 = [6] ∧
      ((resolveWounds 1 (grenades "anti-infantry 6+") riflemen).run LoadedDice.mk).1 =
        ⟨7, 6, 0, 0, 0⟩ ∧
      ¬ ((resolveWounds 1 (grenades "anti-infantry 6+") riflemen).run LoadedDice.mk).1.CountsFrom 6
        false ((woundRolls (grenades "anti-infantry 6+").effects 7 6 1).run LoadedDice.mk).1 :=
  ⟨rfl, LoadedDice.inRange, rfl, rfl, fun h => absurd h.criticalWounds_eq (by decide)⟩

end AntiThreshold

end Salvo
