import Salvo.Proofs.Attack.Stages
import Salvo.Proofs.Dice.Throws

/-!
# What an attack does to its dice

All that a stage of an attack does to its source is throw dice (`OnlyThrows`). So wherever a stage begins,
the source is in a state that it reaches from its first one by showing throws.
-/

namespace Salvo

variable {σ α β τ : Type} [DiceSource σ]

/-- From any state on, the action leads to one that the source reaches by showing throws. -/
def OnlyThrows (act : StateM σ α) : Prop := ∀ s, DiceSource.Reaches s (act.run s).2

section Actions

theorem onlyThrows_pure (a : α) : OnlyThrows (pure a : StateM σ α) := fun s => .refl s

theorem onlyThrows_roll (sides : Nat) : OnlyThrows (DiceSource.roll sides : StateM σ Nat) :=
  fun s => ⟨_, DiceSource.shows_roll sides s⟩

theorem OnlyThrows.bind {x : StateM σ α} {f : α → StateM σ β} (hx : OnlyThrows x)
    (hf : ∀ a, OnlyThrows (f a)) : OnlyThrows (x >>= f) :=
  fun s => (hx s).trans (hf _ _)

theorem OnlyThrows.times {step : τ → StateM σ τ} (h : ∀ t, OnlyThrows (step t)) (n : Nat) (t : τ) :
    OnlyThrows (times step n t) := by
  induction n generalizing t with
  | zero => exact onlyThrows_pure t
  | succ n ih => exact (h t).bind ih

theorem onlyThrows_roll_expr (e : DiceExpr) : OnlyThrows (e.roll : StateM σ Nat) := by
  intro s
  rw [DiceExpr.run_roll]
  exact ⟨_, DiceExpr.shows_rollFaces ..⟩

theorem onlyThrows_rollWithReroll (again : Nat → Bool) :
    OnlyThrows (rollWithReroll again : StateM σ Nat) := by
  refine (onlyThrows_roll 6).bind fun first => ?_
  split
  · exact onlyThrows_roll 6
  · exact onlyThrows_pure first

theorem onlyThrows_countRolls (holds : Nat → Bool) (n : Nat) :
    OnlyThrows (countRolls holds n : StateM σ Nat) :=
  .times (fun _ => (onlyThrows_roll 6).bind fun _ => onlyThrows_pure _) n 0

end Actions

section Stages

variable (w : WeaponProfile) (d : DefenderProfile) (e : Engagement)

theorem onlyThrows_attackCount : OnlyThrows (attackCount w d e : StateM σ Nat) :=
  (onlyThrows_roll_expr w.attacks).bind fun _ => onlyThrows_pure _

theorem onlyThrows_extraHits (fx : WeaponEffects) : OnlyThrows (extraHits fx : StateM σ Nat) := by
  unfold extraHits
  split
  · exact onlyThrows_roll_expr _
  · exact onlyThrows_pure 0

theorem onlyThrows_countHit (fx : WeaponEffects) (target : Int) (t : HitTally) :
    OnlyThrows (countHit fx target t : StateM σ HitTally) := by
  refine (onlyThrows_rollWithReroll _).bind fun roll => ?_
  split
  · exact onlyThrows_pure t
  · split
    · exact onlyThrows_pure _
    · exact (onlyThrows_extraHits fx).bind fun _ => onlyThrows_pure _

theorem onlyThrows_resolveHits : OnlyThrows (resolveHits w d e : StateM σ HitOutcome) := by
  refine (onlyThrows_attackCount w d e).bind fun attacks => ?_
  split
  · exact onlyThrows_pure _
  · exact (OnlyThrows.times (onlyThrows_countHit w.effects _) attacks {}).bind
      fun _ => onlyThrows_pure _

theorem onlyThrows_countWound (fx : WeaponEffects) (target : Int) (criticalAt : Nat)
    (t : WoundTally) : OnlyThrows (countWound fx target criticalAt t : StateM σ WoundTally) :=
  (onlyThrows_rollWithReroll _).bind fun _ => onlyThrows_pure _

theorem onlyThrows_resolveWounds (hits : Nat) :
    OnlyThrows (resolveWounds hits w d : StateM σ WoundOutcome) :=
  (OnlyThrows.times (onlyThrows_countWound w.effects _ _) hits {}).bind fun _ => onlyThrows_pure _

theorem onlyThrows_resolveSaves (wounds : Nat) :
    OnlyThrows (resolveSaves wounds w d : StateM σ SaveOutcome) :=
  (onlyThrows_countRolls _ wounds).bind fun _ => onlyThrows_pure _

theorem onlyThrows_damageInstance : OnlyThrows (damageInstance w d e : StateM σ Nat) :=
  (onlyThrows_roll_expr w.damage).bind fun _ => onlyThrows_pure _

theorem onlyThrows_feelNoPain (amount : Nat) (threshold : Option Nat) (mode : FeelNoPainMode) :
    OnlyThrows (feelNoPain amount threshold mode : StateM σ Nat) := by
  unfold feelNoPain
  split
  · exact onlyThrows_pure amount
  · split
    · exact onlyThrows_pure 0
    · split
      · exact (onlyThrows_roll 6).bind fun _ => onlyThrows_pure _
      · exact onlyThrows_countRolls _ amount

theorem run_attack (config : AttackConfig) (s : σ) :
    (attack w d config).run s =
      let hit := (resolveHits w d config.engagement).run s
      let wound := (resolveWounds hit.1.hits w d).run hit.2
      let save := (resolveSaves (wound.1.wounds + hit.1.autoWounds) w d).run wound.2
      let damage := (resolveDamage save.1.failed wound.1.mortalWounds w d config).run save.2
      (⟨hit.1, wound.1, save.1, damage.1⟩, damage.2) := rfl

end Stages

end Salvo
