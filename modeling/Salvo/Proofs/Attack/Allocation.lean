import Salvo.Proofs.Attack.Funnel
import Salvo.Proofs.Dice.Throws

/-!
# The allocation of damage

A unit is seen here as the list of its models that stand, each with the wounds that it has left. A blow
strikes the first of them and no other, and what that one does not survive is lost with it
(`DefenderProfile.standing`). The stage deals its blows in this way until there are no more of them or
no model stands, and rolls for no others (`resolveDamage_reference`).
-/

namespace Salvo

/-- An instance of damage: what was rolled, and what got through Feel No Pain. -/
structure Blow where
  rolled : Nat
  dealt : Nat
deriving DecidableEq, Repr

section Strikes

/-- Damage to the first model. If it falls, the next one is as it was. -/
def strike : List Nat → Nat → List Nat
  | [], _ => []
  | wounds :: rest, dealt => if dealt < wounds then (wounds - dealt) :: rest else rest

variable {d : DefenderProfile} {models : List Nat} {b : Blow} {bs : List Blow}

theorem length_strike_le (models : List Nat) (dealt : Nat) :
    (strike models dealt).length ≤ models.length := by
  cases models with
  | nil => exact Nat.le_refl 0
  | cons wounds rest =>
      rw [strike]
      split
      · exact Nat.le_refl _
      · exact Nat.le_succ _

theorem tail_strike_subset (models : List Nat) (dealt : Nat) :
    (strike models dealt).tail ⊆ models.tail := by
  cases models with
  | nil => exact List.Subset.refl _
  | cons wounds rest =>
      rw [strike]
      split
      · exact List.Subset.refl _
      · exact (List.tail_sublist rest).subset

theorem tail_foldl_strike_subset (dealt models : List Nat) :
    (dealt.foldl strike models).tail ⊆ models.tail := by
  induction dealt generalizing models with
  | nil => exact List.Subset.refl _
  | cons y dealt ih => exact List.Subset.trans (ih (strike models y)) (tail_strike_subset models y)

/-- The models of a unit that stand after some blows, with the wounds that they have left. -/
def DefenderProfile.standing (d : DefenderProfile) (bs : List Blow) : List Nat :=
  (bs.map Blow.dealt).foldl strike (List.replicate d.models d.wounds)

@[simp] theorem standing_nil (d : DefenderProfile) :
    d.standing [] = List.replicate d.models d.wounds := rfl

theorem standing_append_singleton (d : DefenderProfile) (bs : List Blow) (b : Blow) :
    d.standing (bs ++ [b]) = strike (d.standing bs) b.dealt := by
  rw [DefenderProfile.standing, List.map_append, List.foldl_append]
  rfl

theorem length_standing_append_le (d : DefenderProfile) (bs more : List Blow) :
    (d.standing (bs ++ more)).length ≤ (d.standing bs).length := by
  induction more generalizing bs with
  | nil => rw [List.append_nil]
  | cons b more ih =>
      rw [← List.singleton_append, ← List.append_assoc]
      refine Nat.le_trans (ih (bs ++ [b])) ?_
      rw [standing_append_singleton]
      exact length_strike_le ..

theorem length_standing_le (d : DefenderProfile) (bs : List Blow) :
    (d.standing bs).length ≤ d.models := by
  have hle := length_standing_append_le d [] bs
  simpa using hle

theorem eq_wounds_of_mem_tail_standing (d : DefenderProfile) (bs : List Blow) :
    ∀ wounds ∈ (d.standing bs).tail, wounds = d.wounds := by
  intro wounds hmem
  have hfull := (List.tail_sublist _).subset (tail_foldl_strike_subset _ _ hmem)
  exact List.eq_of_mem_replicate hfull

end Strikes

section Outcome

/-- What blows come to: the damage that got through, the damage that did not, and the models that no
longer stand. -/
def DamageOutcome.ofBlows (d : DefenderProfile) (bs : List Blow) : DamageOutcome where
  damage := min (bs.map Blow.dealt).sum maxCount
  negated := min (bs.map fun b => b.rolled - b.dealt).sum maxCount
  modelsDestroyed := d.models - (d.standing bs).length

/-- No count is higher than in the other outcome. -/
structure DamageOutcome.AtMost (o p : DamageOutcome) : Prop where
  damage_le : o.damage ≤ p.damage
  negated_le : o.negated ≤ p.negated
  modelsDestroyed_le : o.modelsDestroyed ≤ p.modelsDestroyed

theorem DamageOutcome.ofBlows_append_atMost (d : DefenderProfile) (bs more : List Blow) :
    (ofBlows d bs).AtMost (ofBlows d (bs ++ more)) := by
  have hstanding := length_standing_append_le d bs more
  constructor
  · simp only [ofBlows, List.map_append, List.sum_append]
    omega
  · simp only [ofBlows, List.map_append, List.sum_append]
    omega
  · simp only [ofBlows]
    omega

/-- The unit after some blows. Behind a model that has fallen the next one is unhurt. -/
def Casualties.ofBlows (d : DefenderProfile) (bs : List Blow) : Casualties :=
  ⟨.ofBlows d bs, (d.standing bs).length, (d.standing bs).head?.getD d.wounds⟩

theorem Casualties.start_eq_ofBlows (d : DefenderProfile) : start d = ofBlows d [] := by
  have hhead : (List.replicate d.models d.wounds).head?.getD d.wounds = d.wounds := by
    cases d.models <;> rfl
  rw [ofBlows, standing_nil, hhead, DamageOutcome.ofBlows, standing_nil, List.length_replicate,
    Nat.sub_self]
  rfl

/-- A sum that has stopped at the largest count has done so for good. -/
theorem addCount_min (a b : Nat) : addCount (min a maxCount) b = min (a + b) maxCount := by
  simp only [addCount]
  omega

theorem Casualties.take_ofBlows {d : DefenderProfile} {bs : List Blow}
    (h : (ofBlows d bs).modelsLeft ≠ 0) (b : Blow) :
    (ofBlows d bs).take d.wounds b.rolled b.dealt = ofBlows d (bs ++ [b]) := by
  have hmodels := length_standing_le d bs
  have htail := eq_wounds_of_mem_tail_standing d bs
  obtain ⟨wounds, rest, hstanding⟩ := List.exists_cons_of_length_pos (Nat.pos_of_ne_zero h)
  rw [hstanding, List.length_cons] at hmodels
  rw [hstanding, List.tail_cons] at htail
  have hnext : rest.head?.getD d.wounds = d.wounds := by
    cases rest with
    | nil => rfl
    | cons next rest => exact htail next List.mem_cons_self
  simp only [take, ofBlows, DamageOutcome.ofBlows, standing_append_singleton, hstanding, strike,
    applyDamage, List.map_append, List.map_singleton, List.sum_append, List.sum_singleton,
    addCount_min]
  by_cases hstands : b.dealt < wounds
  · have hleft : wounds - b.dealt ≠ 0 := by omega
    simp [hstands, hleft]
  · have hleft : wounds - b.dealt = 0 := by omega
    have hfallen : d.models - (rest.length + 1) + 1 = d.models - rest.length := by omega
    simp [hstands, hleft, hfallen, hnext]

end Outcome

section Stage

variable {σ : Type} [DiceSource σ] (w : WeaponProfile) (d : DefenderProfile) (config : AttackConfig)

def blow : StateM σ Blow := do
  let rolled ← damageInstance w d config.engagement
  let dealt ← feelNoPain rolled d.effects.feelNoPain config.feelNoPain
  return ⟨rolled, dealt⟩

def blows (n : Nat) : StateM σ (List Blow) := collect (blow w d config) n

theorem run_blows_zero (s : σ) : (blows w d config 0).run s = ([], s) := rfl

theorem run_blows_succ (n : Nat) (s : σ) :
    (blows w d config (n + 1)).run s =
      (((blow w d config).run s).1 :: ((blows w d config n).run ((blow w d config).run s).2).1,
        ((blows w d config n).run ((blow w d config).run s).2).2) := rfl

theorem run_blows_add (n m : Nat) (s : σ) :
    (blows w d config (n + m)).run s =
      (((blows w d config n).run s).1 ++
          ((blows w d config m).run ((blows w d config n).run s).2).1,
        ((blows w d config m).run ((blows w d config n).run s).2).2) :=
  run_collect_add _ n s m

theorem length_blows (n : Nat) (s : σ) : ((blows w d config n).run s).1.length = n :=
  length_collect _ n s

theorem dealt_le_of_mem_blows (n : Nat) (s : σ) :
    ∀ b ∈ ((blows w d config n).run s).1, b.dealt ≤ b.rolled :=
  forall_mem_collect n s fun _ => feelNoPain_le ..

/-- A stage with `most` blows at hand has dealt the first `n` of them. -/
structure Allocates (most n : Nat) (s : σ) (r : DamageOutcome × σ) : Prop where
  le : n ≤ most
  outcome_eq : r.1 = .ofBlows d ((blows w d config n).run s).1
  dice_eq : r.2 = ((blows w d config n).run s).2
  dealt_le : ∀ b ∈ ((blows w d config n).run s).1, b.dealt ≤ b.rolled
  /-- Each of these blows finds a model to strike. -/
  stands : ∀ k < n, d.standing (((blows w d config n).run s).1.take k) ≠ []
  /-- There is no other blow, or no model for it. -/
  exhausted : n = most ∨ d.standing ((blows w d config n).run s).1 = []

theorem exists_run_allocate (most : Nat) (bs : List Blow) (s : σ) :
    ∃ n ≤ most,
      (allocate w d config most (.ofBlows d bs)).run s =
        (.ofBlows d (bs ++ ((blows w d config n).run s).1), ((blows w d config n).run s).2) ∧
      (∀ k < n, d.standing (bs ++ ((blows w d config n).run s).1.take k) ≠ []) ∧
      (n = most ∨ d.standing (bs ++ ((blows w d config n).run s).1) = []) := by
  -- the blows dealt so far stand for the unit, so the blows to come only extend them
  induction most generalizing bs s with
  | zero =>
      refine ⟨0, Nat.le_refl 0, ?_, fun k hk => absurd hk (Nat.not_lt_zero k), .inl rfl⟩
      rw [run_blows_zero, List.append_nil]
      rfl
  | succ most ih =>
      rw [allocate_succ]
      split
      · rename_i hnone
        have hfallen : d.standing bs = [] := List.length_eq_zero_iff.1 hnone
        refine ⟨0, Nat.zero_le _, ?_, fun k hk => absurd hk (Nat.not_lt_zero k), .inr ?_⟩
        · rw [run_blows_zero, List.append_nil]
          rfl
        · rw [run_blows_zero, List.append_nil, hfallen]
      · rename_i hleft
        have hstanding : d.standing bs ≠ [] := fun hnone => hleft (List.length_eq_zero_iff.2 hnone)
        obtain ⟨n, hn, hrun, hstands, hexhausted⟩ :=
          ih (bs ++ [((blow w d config).run s).1]) ((blow w d config).run s).2
        simp only [List.append_assoc, List.singleton_append] at hrun hstands hexhausted
        refine ⟨n + 1, Nat.succ_le_succ hn, ?_, fun k hk => ?_, ?_⟩
        · rw [run_blows_succ, ← hrun, ← Casualties.take_ofBlows hleft]
          rfl
        · cases k with
          | zero => rwa [List.take_zero, List.append_nil]
          | succ k => exact hstands k (Nat.lt_of_succ_lt_succ hk)
        · exact hexhausted.imp_left (congrArg (· + 1))

theorem exists_allocates (failed mortal : Nat) (h : failed + mortal ≤ maxCount) (s : σ) :
    ∃ n, Allocates w d config (failed + mortal) n s
      ((resolveDamage failed mortal w d config).run s) := by
  obtain ⟨n, hn, hrun, hstands, hexhausted⟩ := exists_run_allocate w d config (failed + mortal) [] s
  rw [← Casualties.start_eq_ofBlows, List.nil_append] at hrun
  rw [resolveDamage, run_bind, addCount_of_le h, hrun]
  exact ⟨n, {
    le := hn
    outcome_eq := rfl
    dice_eq := rfl
    dealt_le := dealt_le_of_mem_blows w d config n s
    stands := hstands
    exhausted := hexhausted }⟩

variable {w d config}

/-- More blows at hand go at least as far: they begin with the same ones. -/
theorem Allocates.atMost {most most' n n' : Nat} {s : σ} {r r' : DamageOutcome × σ}
    (h : Allocates w d config most n s r) (h' : Allocates w d config most' n' s r')
    (hle : most ≤ most') : r.1.AtMost r'.1 := by
  have hmore : n ≤ n' := by
    refine Nat.not_lt.1 fun hlt => ?_
    -- the longer run would have stopped before a blow that finds a model
    have hstands := h.stands n' hlt
    obtain ⟨m, rfl⟩ := Nat.exists_eq_add_of_le (Nat.le_of_lt hlt)
    rw [run_blows_add, List.take_left' (length_blows ..)] at hstands
    have hn := h.le
    rcases h'.exhausted with heq | hnone
    · omega
    · exact hstands hnone
  obtain ⟨m, rfl⟩ := Nat.exists_eq_add_of_le hmore
  rw [h.outcome_eq, h'.outcome_eq, run_blows_add]
  exact DamageOutcome.ofBlows_append_atMost ..

end Stage

section Main

variable {σ : Type} [DiceSource σ]

/-- The stage of damage deals the blows that its failed saves and mortal wounds amount to, one after
the other, as long as a model stands. Only their sum matters, and a higher one never leads to less on
the same dice. -/
theorem resolveDamage_reference {failed mortal : Nat} (h : failed + mortal ≤ maxCount)
    (w : WeaponProfile) (d : DefenderProfile) (config : AttackConfig) (s : σ) :
    (∃ n, Allocates w d config (failed + mortal) n s
      ((resolveDamage failed mortal w d config).run s)) ∧
    (∀ failed' mortal', failed' + mortal' = failed + mortal →
      (resolveDamage failed' mortal' w d config).run s =
        (resolveDamage failed mortal w d config).run s) ∧
    ∀ failed' mortal', failed + mortal ≤ failed' + mortal' → failed' + mortal' ≤ maxCount →
      ((resolveDamage failed mortal w d config).run s).1.AtMost
        ((resolveDamage failed' mortal' w d config).run s).1 := by
  obtain ⟨n, hrun⟩ := exists_allocates w d config failed mortal h s
  refine ⟨⟨n, hrun⟩, fun failed' mortal' hsum => ?_, fun failed' mortal' hle hle' => ?_⟩
  · rw [resolveDamage, resolveDamage, addCount, addCount, hsum]
  · obtain ⟨n', hrun'⟩ := exists_allocates w d config failed' mortal' hle' s
    exact hrun.atMost hrun' hle

theorem resolveDamage_reference_hammer :
    1 + 2 ≤ maxCount ∧
      (∃ n, Allocates hammer (.ofStats "marines" 4 2 2 3) {} (1 + 2) n (Script.ofFaces [1, 3, 2])
        ((resolveDamage 1 2 hammer (.ofStats "marines" 4 2 2 3) {}).run
          (Script.ofFaces [1, 3, 2]))) ∧
      (resolveDamage 3 0 hammer (.ofStats "marines" 4 2 2 3) {}).run (Script.ofFaces [1, 3, 2]) =
        (resolveDamage 1 2 hammer (.ofStats "marines" 4 2 2 3) {}).run
          (Script.ofFaces [1, 3, 2]) ∧
      ((resolveDamage 1 2 hammer (.ofStats "marines" 4 2 2 3) {}).run
        (Script.ofFaces [1, 3, 2])).1.AtMost
        ((resolveDamage 4 1 hammer (.ofStats "marines" 4 2 2 3) {}).run
          (Script.ofFaces [1, 3, 2])).1 := by
  have h : 1 + 2 ≤ maxCount := by decide
  have hmain := resolveDamage_reference h hammer (.ofStats "marines" 4 2 2 3) {}
    (Script.ofFaces [1, 3, 2])
  exact ⟨h, hmain.1, hmain.2.1 3 0 rfl, hmain.2.2 4 1 (by decide) (by decide)⟩

/-- The second blow of three is worth more than the first model has left, and the third fells the last
model, so that further ones roll nothing. -/
example : (resolveDamage 9 0 hammer (.ofStats "marines" 4 2 2 3) {}).run
    (Script.ofFaces [1, 3, 2]) = (⟨6, 0, 2⟩, ⟨#[1, 3, 2], 3⟩) := rfl

end Main

end Salvo
