import Salvo.Proofs.Attack.Stages
import Salvo.Proofs.Dice.Throws

/-!
# Final hit rolls

The stage of hits throws the dice of its attacks first, whose faces say how many attacks there are
(`exactAttacks`). Each attack then throws a die, throws it again if the reroll policy asks for it, and
throws the dice of sustained hits if it is a critical hit: these are its `AttackRoll`. The counts of the
stage are those of its attacks, as long as the exact number of hits can be counted, and no other dice
are thrown (`hits_accounted`).
-/

namespace Salvo

/-- What is thrown for one attack: the first roll, the one that replaces it, and the faces for further
hits. -/
structure AttackRoll where
  first : Nat
  again : Option Nat
  extra : List Nat
deriving DecidableEq, Repr

/-- The dice of sustained hits; none if the weapon has no such rule. -/
def extraDice (fx : WeaponEffects) : DiceExpr := fx.sustainedHits.getD (.constant 0)

namespace AttackRoll

def final (r : AttackRoll) : Nat := r.again.getD r.first

def lands (r : AttackRoll) (target : Int) : Bool := !fallsShort r.final target

def isCritical (r : AttackRoll) (target : Int) : Bool :=
  r.lands target && decide (criticalRoll ≤ r.final)

def throws (fx : WeaponEffects) (r : AttackRoll) : List Throw :=
  ⟨6, r.first⟩ :: (r.again.toList.map (Throw.mk 6) ++ (extraDice fx).throws r.extra)

/-- The dice of an attack are those that the rules ask for. -/
structure Follows (r : AttackRoll) (fx : WeaponEffects) (target : Int) : Prop where
  again_iff : r.again.isSome = fx.hitReroll.rerolls r.first target criticalRoll
  length_extra : r.extra.length = if r.isCritical target then (extraDice fx).count else 0

end AttackRoll

section Counts

variable {fx : WeaponEffects} {target : Int} {r : AttackRoll} {rolls : List AttackRoll}

/-- The hits that attacks come to, further hits included. -/
def exactHits (fx : WeaponEffects) (target : Int) (rolls : List AttackRoll) : Nat :=
  rolls.countP (·.lands target) +
    ((rolls.filter (·.isCritical target)).map fun r => (extraDice fx).value r.extra).sum

theorem exactHits_cons :
    exactHits fx target (r :: rolls) = exactHits fx target [r] + exactHits fx target rolls := by
  simp only [exactHits, List.countP_cons, List.filter_cons, List.countP_nil, List.filter_nil]
  cases r.isCritical target with
  | false =>
      simp only [Bool.false_eq_true, ↓reduceIte, List.map_nil, List.sum_nil]
      omega
  | true =>
      simp only [↓reduceIte, List.map_cons, List.map_nil, List.sum_cons, List.sum_nil]
      omega

structure HitTally.Adds (fx : WeaponEffects) (target : Int) (t : HitTally) (rolls : List AttackRoll)
    (t' : HitTally) : Prop where
  criticalHits_eq : t'.criticalHits = t.criticalHits + rolls.countP (·.isCritical target)
  autoWounds_eq : t'.autoWounds =
    t.autoWounds + if fx.lethalHits then rolls.countP (·.isCritical target) else 0
  landed_eq : t.landed + exactHits fx target rolls ≤ maxCount →
    t'.landed = t.landed + exactHits fx target rolls

theorem HitTally.adds_nil (t : HitTally) : t.Adds fx target [] t where
  criticalHits_eq := rfl
  autoWounds_eq := by simp
  landed_eq _ := rfl

theorem HitTally.adds_miss (h : r.lands target = false) (t : HitTally) : t.Adds fx target [r] t where
  criticalHits_eq := by simp [AttackRoll.isCritical, h]
  autoWounds_eq := by simp [AttackRoll.isCritical, h]
  landed_eq _ := by simp [exactHits, AttackRoll.isCritical, h]

theorem HitTally.adds_hit (h : r.lands target = true) (hcritical : r.isCritical target = false)
    (t : HitTally) : t.Adds fx target [r] { t with hits := t.hits + 1 } where
  criticalHits_eq := by simp [hcritical]
  autoWounds_eq := by simp [hcritical]
  landed_eq hfit := by
    have hone : exactHits fx target [r] = 1 := by simp [exactHits, h, hcritical]
    rw [hone]
    simp only [landed]
    omega

theorem HitTally.adds_critical (h : r.isCritical target = true) {t t' : HitTally}
    (hcritical : t'.criticalHits = t.criticalHits + 1)
    (hauto : t'.autoWounds = t.autoWounds + if fx.lethalHits then 1 else 0)
    (hlanded : t.landed + (1 + (extraDice fx).value r.extra) ≤ maxCount →
      t'.landed = t.landed + (1 + (extraDice fx).value r.extra)) : t.Adds fx target [r] t' where
  criticalHits_eq := by simpa [h] using hcritical
  autoWounds_eq := by simpa [h] using hauto
  landed_eq := by
    have hlands : r.lands target = true := (Bool.and_eq_true_iff.1 h).1
    simpa [exactHits, h, hlands] using hlanded

theorem HitTally.Adds.cons {t t' t'' : HitTally} (h : t.Adds fx target [r] t')
    (h' : t'.Adds fx target rolls t'') : t.Adds fx target (r :: rolls) t'' where
  criticalHits_eq := by
    have hfirst := h.criticalHits_eq
    have hrest := h'.criticalHits_eq
    rw [← List.singleton_append, List.countP_append]
    omega
  autoWounds_eq := by
    have hfirst := h.autoWounds_eq
    have hrest := h'.autoWounds_eq
    rw [← List.singleton_append, List.countP_append]
    cases hlethal : fx.lethalHits with
    | false =>
        simp only [hlethal, Bool.false_eq_true, ↓reduceIte] at hfirst hrest ⊢
        omega
    | true =>
        simp only [hlethal, ↓reduceIte] at hfirst hrest ⊢
        omega
  landed_eq hfit := by
    rw [exactHits_cons] at hfit ⊢
    have hfirst := h.landed_eq (by omega)
    have hrest := h'.landed_eq (by omega)
    omega

end Counts

section Stage

variable {σ : Type} [DiceSource σ]

/-- A roll, and the one that replaces it if it is asked for. -/
def rollPair (again : Nat → Bool) : StateM σ (Nat × Option Nat) := do
  let first ← DiceSource.d6
  if again first then return (first, some (← DiceSource.d6)) else return (first, none)

def attackRoll (fx : WeaponEffects) (target : Int) : StateM σ AttackRoll := do
  let (first, again) ← rollPair fun roll => fx.hitReroll.rerolls roll target criticalRoll
  let critical := AttackRoll.isCritical ⟨first, again, []⟩ target
  let extra ← DiceExpr.rollFaces (extraDice fx).sides (if critical then (extraDice fx).count else 0)
  return ⟨first, again, extra⟩

def attackRolls (fx : WeaponEffects) (target : Int) (n : Nat) : StateM σ (List AttackRoll) :=
  collect (attackRoll fx target) n

theorem run_rollWithReroll (again : Nat → Bool) (s : σ) :
    (rollWithReroll again).run s =
      (((rollPair again).run s).1.2.getD ((rollPair again).run s).1.1,
        ((rollPair again).run s).2) := by
  rw [rollWithReroll, rollPair, run_bind, run_bind]
  split <;> rfl

theorem isSome_rollPair (again : Nat → Bool) (s : σ) :
    ((rollPair again).run s).1.2.isSome = again ((rollPair again).run s).1.1 := by
  rw [rollPair, run_bind]
  split
  · rename_i hagain
    exact hagain.symm
  · rename_i hagain
    exact (Bool.eq_false_iff.2 hagain).symm

theorem shows_rollPair (again : Nat → Bool) (s : σ) :
    DiceSource.Shows s
      (⟨6, ((rollPair again).run s).1.1⟩ :: ((rollPair again).run s).1.2.toList.map (Throw.mk 6))
      ((rollPair again).run s).2 := by
  rw [rollPair, run_bind]
  split
  · exact ⟨rfl, rfl, rfl⟩
  · exact ⟨rfl, rfl⟩

theorem run_extraHits (fx : WeaponEffects) (s : σ) :
    (extraHits fx).run s = (extraDice fx).roll.run s := by
  rw [extraHits, extraDice]
  cases fx.sustainedHits <;> rfl

variable (fx : WeaponEffects) (target : Int)

theorem run_attackRoll (s : σ) :
    (attackRoll fx target).run s =
      let p := (rollPair fun roll => fx.hitReroll.rerolls roll target criticalRoll).run s
      let critical := AttackRoll.isCritical ⟨p.1.1, p.1.2, []⟩ target
      let extra := (DiceExpr.rollFaces (extraDice fx).sides
        (if critical then (extraDice fx).count else 0)).run p.2
      (⟨p.1.1, p.1.2, extra.1⟩, extra.2) := rfl

theorem follows_attackRoll (s : σ) : ((attackRoll fx target).run s).1.Follows fx target := by
  rw [run_attackRoll]
  exact ⟨isSome_rollPair _ s, length_collect ..⟩

theorem shows_attackRoll (s : σ) :
    DiceSource.Shows s (((attackRoll fx target).run s).1.throws fx)
      ((attackRoll fx target).run s).2 := by
  rw [run_attackRoll]
  exact (shows_rollPair _ s).append (DiceExpr.shows_rollFaces ..)

theorem follows_attackRolls (n : Nat) (s : σ) :
    ∀ r ∈ ((attackRolls fx target n).run s).1, r.Follows fx target :=
  forall_mem_collect n s (follows_attackRoll fx target)

theorem shows_attackRolls (n : Nat) (s : σ) :
    DiceSource.Shows s (((attackRolls fx target n).run s).1.flatMap (AttackRoll.throws fx))
      ((attackRolls fx target n).run s).2 :=
  DiceSource.shows_collect (shows_attackRoll fx target) n s

/-- A critical hit counts itself and its further hits, as far as they can be counted. -/
theorem run_countCritical_counts (t : HitTally) (s : σ) :
    ((countCritical fx t).run s).2 =
      ((DiceExpr.rollFaces (extraDice fx).sides (extraDice fx).count).run s).2 ∧
    ((countCritical fx t).run s).1.criticalHits = t.criticalHits + 1 ∧
    ((countCritical fx t).run s).1.autoWounds = t.autoWounds + (if fx.lethalHits then 1 else 0) := by
  have hextra : (extraHits fx).run s = _ := (run_extraHits fx s).trans (DiceExpr.run_roll ..)
  rw [countCritical, run_bind, hextra]
  dsimp only
  split <;> exact ⟨rfl, rfl, rfl⟩

theorem landed_countCritical {t : HitTally} {s : σ} {extra : Nat}
    (hextra : extra = (extraDice fx).value
      ((DiceExpr.rollFaces (extraDice fx).sides (extraDice fx).count).run s).1)
    (h : t.landed + (1 + extra) ≤ maxCount) :
    ((countCritical fx t).run s).1.landed = t.landed + (1 + extra) := by
  have hroll : (extraHits fx).run s = _ := (run_extraHits fx s).trans (DiceExpr.run_roll ..)
  simp only [HitTally.landed] at h ⊢
  rw [run_countCritical (by omega), hroll, ← hextra, Nat.min_eq_left (by omega),
    addCount_of_le (by omega)]
  split
  · dsimp only
    omega
  · dsimp only
    omega

theorem run_countHit_attackRoll (t : HitTally) (s : σ) :
    ((countHit fx target t).run s).2 = ((attackRoll fx target).run s).2 ∧
      t.Adds fx target [((attackRoll fx target).run s).1] ((countHit fx target t).run s).1 := by
  have hroll : (hitRoll fx target).run s = _ := run_rollWithReroll _ s
  rw [run_countHit, run_attackRoll, hroll]
  generalize (rollPair fun roll => fx.hitReroll.rerolls roll target criticalRoll).run s = p
  dsimp only
  -- whether an attack lands or is critical is known before the dice of its further hits
  split
  · rename_i hshort
    have hlands (extra) : AttackRoll.lands ⟨p.1.1, p.1.2, extra⟩ target = false := by
      simp [AttackRoll.lands, AttackRoll.final, hshort]
    have hcritical : AttackRoll.isCritical ⟨p.1.1, p.1.2, []⟩ target = false := by
      simp [AttackRoll.isCritical, hlands]
    rw [hcritical]
    exact ⟨rfl, t.adds_miss (hlands _)⟩
  · rename_i hreach
    have hlands (extra) : AttackRoll.lands ⟨p.1.1, p.1.2, extra⟩ target = true := by
      simp [AttackRoll.lands, AttackRoll.final, hreach]
    split
    · rename_i hplain
      have hcritical (extra) : AttackRoll.isCritical ⟨p.1.1, p.1.2, extra⟩ target = false := by
        simp [AttackRoll.isCritical, AttackRoll.final, Nat.not_le_of_lt hplain]
      rw [hcritical]
      exact ⟨rfl, t.adds_hit (hlands _) (hcritical _)⟩
    · rename_i hsix
      have hcritical (extra) : AttackRoll.isCritical ⟨p.1.1, p.1.2, extra⟩ target = true := by
        simp [AttackRoll.isCritical, AttackRoll.final, hlands, Nat.le_of_not_lt hsix]
      rw [hcritical]
      obtain ⟨hdice, hcount, hauto⟩ := run_countCritical_counts fx t p.2
      exact ⟨hdice, HitTally.adds_critical (hcritical _) hcount hauto
        (landed_countCritical fx rfl)⟩

theorem run_times_countHit (n : Nat) (t : HitTally) (s : σ) :
    ((times (countHit fx target) n t).run s).2 = ((attackRolls fx target n).run s).2 ∧
      t.Adds fx target ((attackRolls fx target n).run s).1
        ((times (countHit fx target) n t).run s).1 := by
  induction n generalizing t s with
  | zero => exact ⟨rfl, t.adds_nil⟩
  | succ n ih =>
      obtain ⟨hdice, hadds⟩ := run_countHit_attackRoll fx target t s
      obtain ⟨hend, hrest⟩ := ih ((countHit fx target t).run s).1 ((countHit fx target t).run s).2
      rw [times_succ, run_bind, attackRolls, run_collect_succ, ← hdice]
      exact ⟨hend, hadds.cons hrest⟩

end Stage

section Accounts

variable {fx : WeaponEffects} {target : Int} {r : AttackRoll} {rolls : List AttackRoll}

/-- The roll that counts is a six that reaches the target. -/
def AttackRoll.IsSix (r : AttackRoll) (target : Int) : Prop := r.final = 6 ∧ target ≤ 6

instance (r : AttackRoll) (target : Int) : Decidable (r.IsSix target) :=
  inferInstanceAs (Decidable (r.final = 6 ∧ target ≤ 6))

/-- How the counts of the stage follow from the faces of its attack dice and from the throws of its
attacks. -/
structure HitOutcome.Accounts (o : HitOutcome) (w : WeaponProfile) (counted : List Nat)
    (rolls : List AttackRoll) : Prop where
  length_counted : counted.length = w.attacks.count
  length_rolls : rolls.length = o.attacks
  again_iff : ∀ r ∈ rolls,
    (r.again.isSome ↔ w.effects.hitReroll.rerolls r.first o.target criticalRoll)
  length_extra : ∀ r ∈ rolls,
    r.extra.length = if r.IsSix o.target then (extraDice w.effects).count else 0
  criticalHits_eq : o.criticalHits = rolls.countP (·.IsSix o.target)
  autoWounds_eq : o.autoWounds = if w.effects.lethalHits then o.criticalHits else 0
  /-- If the exact number of hits can be counted, it is counted. -/
  landed_eq :
    rolls.countP (o.target ≤ ·.final) + ((rolls.filter (·.IsSix o.target)).map fun r =>
      (extraDice w.effects).value r.extra).sum ≤ maxCount →
    o.hits + o.autoWounds =
      rolls.countP (o.target ≤ ·.final) + ((rolls.filter (·.IsSix o.target)).map fun r =>
        (extraDice w.effects).value r.extra).sum
  length_throws : (w.attacks.throws counted ++ rolls.flatMap (AttackRoll.throws w.effects)).length =
    w.attacks.count + o.attacks + rolls.countP (·.again.isSome) +
      o.criticalHits * (extraDice w.effects).count

theorem AttackRoll.final_le (h : ∀ t ∈ r.throws fx, 1 ≤ t.sides → t.InRange) : r.final ≤ 6 := by
  obtain ⟨hfirst, hrest⟩ := List.forall_mem_cons.1 h
  rw [final]
  cases hagain : r.again with
  | none => exact (hfirst (Nat.succ_pos 5)).2
  | some face => exact (hrest ⟨6, face⟩ (by simp [hagain]) (Nat.succ_pos 5)).2

theorem AttackRoll.lands_eq (h : r.final ≤ 6) : r.lands target = decide (target ≤ r.final) := by
  rw [lands, fallsShort_of_lt (by omega), ← decide_not]
  exact decide_eq_decide.2 Int.not_lt

theorem AttackRoll.isCritical_eq (h : r.final ≤ 6) :
    r.isCritical target = decide (r.IsSix target) := by
  rw [isCritical, lands_eq h, ← Bool.decide_and, criticalRoll]
  refine decide_eq_decide.2 ⟨fun ⟨hreach, hsix⟩ => ⟨by omega, by omega⟩, fun ⟨hsix, hreach⟩ => ?_⟩
  rw [hsix]
  exact ⟨hreach, Nat.le_refl 6⟩

theorem AttackRoll.Follows.length_throws (h : r.Follows fx target) :
    (r.throws fx).length = 1 + (if r.again.isSome then 1 else 0) +
      if r.isCritical target then (extraDice fx).count else 0 := by
  rw [throws, List.length_cons, List.length_append, List.length_map, DiceExpr.length_throws,
    h.length_extra]
  cases r.again with
  | none =>
      simp only [Option.toList_none, List.length_nil, Option.isSome_none, Bool.false_eq_true,
        ↓reduceIte]
      omega
  | some face =>
      simp only [Option.toList_some, List.length_singleton, Option.isSome_some, ↓reduceIte]
      omega

theorem length_flatMap_throws (h : ∀ r ∈ rolls, r.Follows fx target) :
    (rolls.flatMap (AttackRoll.throws fx)).length =
      rolls.length + rolls.countP (·.again.isSome) +
        rolls.countP (·.isCritical target) * (extraDice fx).count := by
  induction rolls with
  | nil => simp
  | cons r rolls ih =>
      obtain ⟨hr, hrest⟩ := List.forall_mem_cons.1 h
      have hextra : (if r.isCritical target then 1 else 0) * (extraDice fx).count =
          if r.isCritical target then (extraDice fx).count else 0 := by
        split
        · exact Nat.one_mul _
        · exact Nat.zero_mul _
      rw [List.flatMap_cons, List.length_append, hr.length_throws, ih hrest, List.length_cons,
        List.countP_cons, List.countP_cons, Nat.add_mul, hextra]
      omega

/-- The dice that an expression names are real ones. -/
def DiceExpr.HasSides (e : DiceExpr) : Prop := e.count = 0 ∨ 1 ≤ e.sides

theorem DiceExpr.HasSides.one_le_sides {e : DiceExpr} (h : e.HasSides) {faces : List Nat}
    (hlength : faces.length ≤ e.count) : ∀ t ∈ e.throws faces, 1 ≤ t.sides := by
  intro t ht
  obtain ⟨face, hface, rfl⟩ := List.mem_map.1 ht
  have hpos := List.length_pos_of_mem hface
  exact h.resolve_left (by omega)

theorem AttackRoll.Follows.one_le_sides (h : r.Follows fx target) (hextra : (extraDice fx).HasSides) :
    ∀ t ∈ r.throws fx, 1 ≤ t.sides := by
  have hlength : r.extra.length ≤ (extraDice fx).count := by
    rw [h.length_extra]
    split <;> omega
  rw [throws, List.forall_mem_cons, List.forall_mem_append]
  refine ⟨Nat.succ_pos 5, fun t ht => ?_, hextra.one_le_sides hlength⟩
  obtain ⟨face, -, rfl⟩ := List.mem_map.1 ht
  exact Nat.succ_pos 5

/-- With rolls of a six-sided die the counts of the stage are those of its faces. -/
theorem HitTally.Adds.accounts {w : WeaponProfile} {counted : List Nat} {o : HitOutcome}
    {t : HitTally} (h : ({} : HitTally).Adds w.effects o.target rolls t)
    (hcounted : counted.length = w.attacks.count) (hrolls : rolls.length = o.attacks)
    (hfollows : ∀ r ∈ rolls, r.Follows w.effects o.target) (hfinal : ∀ r ∈ rolls, r.final ≤ 6)
    (ho : o.hits = t.hits ∧ o.criticalHits = t.criticalHits ∧ o.autoWounds = t.autoWounds) :
    o.Accounts w counted rolls := by
  obtain ⟨hhits, hcritical, hauto⟩ := ho
  have hsix : rolls.countP (·.isCritical o.target) = rolls.countP (·.IsSix o.target) :=
    List.countP_congr fun r hr => by rw [AttackRoll.isCritical_eq (hfinal r hr)]
  have hlands : rolls.countP (·.lands o.target) = rolls.countP (o.target ≤ ·.final) :=
    List.countP_congr fun r hr => by rw [AttackRoll.lands_eq (hfinal r hr)]
  have hfilter : rolls.filter (·.isCritical o.target) = rolls.filter (·.IsSix o.target) :=
    List.filter_congr fun r hr => AttackRoll.isCritical_eq (hfinal r hr)
  have hcount := h.criticalHits_eq
  have hauto' := h.autoWounds_eq
  have hlanded := h.landed_eq
  simp only [HitTally.landed, Nat.zero_add, exactHits, hlands, hfilter, hsix] at hcount hauto' hlanded
  exact {
    length_counted := hcounted
    length_rolls := hrolls
    again_iff := fun r hr => by rw [(hfollows r hr).again_iff]
    length_extra := fun r hr => by
      rw [(hfollows r hr).length_extra, AttackRoll.isCritical_eq (hfinal r hr)]
      simp only [decide_eq_true_eq]
    criticalHits_eq := hcritical.trans hcount
    autoWounds_eq := by rw [hauto, hauto', hcritical, hcount]
    landed_eq := by
      rw [hhits, hauto]
      exact hlanded
    length_throws := by
      rw [List.length_append, DiceExpr.length_throws, hcounted, length_flatMap_throws hfollows,
        hrolls, hsix, hcritical, hcount]
      omega }

end Accounts

section Main

variable {σ : Type} [DiceSource σ]

variable (w : WeaponProfile) (d : DefenderProfile) (e : Engagement)

/-- The attacks that the faces of the attack dice come to: all weapons of the amount share the dice and
make the attacks of rapid fire at half range, and a blast adds one for every five models. -/
def exactAttacks (counted : List Nat) : Nat :=
  ((w.attacks.modifier + counted.sum).toNat +
      if e.halfRange then w.effects.rapidFire.getD 0 else 0) * w.amount +
    if w.effects.blast then d.models / 5 else 0

theorem mulCount_min (a n : Nat) : mulCount (min a maxCount) n = min (a * n) maxCount := by
  rw [mulCount]
  rcases Nat.le_total a maxCount with ha | ha
  · rw [Nat.min_eq_left ha]
  · rw [Nat.min_eq_right ha]
    cases n with
    | zero => rfl
    | succ n =>
        have hmax : maxCount ≤ maxCount * (n + 1) := Nat.le_mul_of_pos_right _ n.succ_pos
        rw [Nat.min_eq_right hmax,
          Nat.min_eq_right (Nat.le_trans hmax (Nat.mul_le_mul_right _ ha))]

theorem attackCount_eq_min_exactAttacks (s : σ) :
    ((attackCount w d e).run s).1 =
      min (exactAttacks w d e ((DiceExpr.rollFaces w.attacks.sides w.attacks.count).run s).1)
        maxCount := by
  have hrun : ((attackCount w d e).run s).1 =
      let rolled := (w.attacks.roll.run s).1
      let each := if e.halfRange then addCount rolled (w.effects.rapidFire.getD 0) else rolled
      let all := mulCount each w.amount
      if w.effects.blast then addCount all (d.models / 5) else all := rfl
  rw [hrun, DiceExpr.run_roll, exactAttacks]
  generalize ((DiceExpr.rollFaces w.attacks.sides w.attacks.count).run s).1 = counted
  have heach : (if e.halfRange then
      addCount (min (w.attacks.value counted) maxCount) (w.effects.rapidFire.getD 0)
        else min (w.attacks.value counted) maxCount) =
      min (w.attacks.value counted + if e.halfRange then w.effects.rapidFire.getD 0 else 0)
        maxCount := by
    unfold addCount
    split <;> omega
  dsimp only
  rw [heach, mulCount_min, ← DiceExpr.value]
  unfold addCount
  split <;> omega

theorem shows_attackCount (s : σ) :
    DiceSource.Shows s
      (w.attacks.throws ((DiceExpr.rollFaces w.attacks.sides w.attacks.count).run s).1)
      ((attackCount w d e).run s).2 := by
  have hdice : ((attackCount w d e).run s).2 = _ := congrArg (·.2) (DiceExpr.run_roll w.attacks s)
  rw [hdice]
  exact DiceExpr.shows_rollFaces ..

theorem run_resolveHits_torrent (h : w.effects.torrent = true) (s : σ) :
    (resolveHits w d e).run s =
      (⟨((attackCount w d e).run s).1, hitTarget w d e, ((attackCount w d e).run s).1, 0, 0⟩,
        ((attackCount w d e).run s).2) := by
  rw [resolveHits, resolveHitsAt, run_bind, if_pos h]
  rfl

theorem run_resolveHits (h : w.effects.torrent = false) (s : σ) :
    (resolveHits w d e).run s =
      let c := (attackCount w d e).run s
      let t := (times (countHit w.effects (hitTarget w d e)) c.1 {}).run c.2
      (⟨c.1, hitTarget w d e, t.1.hits, t.1.criticalHits, t.1.autoWounds⟩, t.2) := by
  rw [resolveHits, resolveHitsAt, run_bind, if_neg (Bool.eq_false_iff.1 h)]
  rfl

variable {w}

/-- The throws of the stage of hits and what they come to. On dice in range it shows the dice of its
attacks, which say how many there are, and then those of each attack in turn, and its counts follow from
their faces; a torrent weapon shows the dice of its attacks only, and hits with each of them. -/
theorem hits_accounted (hattacks : w.attacks.HasSides) (hextra : (extraDice w.effects).HasSides)
    {s : σ} (hs : DiceSource.InRangeFrom s) :
    ∃ counted rolls,
      DiceSource.Shows s (w.attacks.throws counted ++ rolls.flatMap (AttackRoll.throws w.effects))
        ((resolveHits w d e).run s).2 ∧
      (∀ t ∈ w.attacks.throws counted ++ rolls.flatMap (AttackRoll.throws w.effects), t.InRange) ∧
      ((resolveHits w d e).run s).1.target = hitTarget w d e ∧
      ((resolveHits w d e).run s).1.attacks = min (exactAttacks w d e counted) maxCount ∧
      (w.effects.torrent = false → ((resolveHits w d e).run s).1.Accounts w counted rolls) ∧
      (w.effects.torrent = true → rolls = [] ∧ counted.length = w.attacks.count ∧
        ((resolveHits w d e).run s).1.hits = ((resolveHits w d e).run s).1.attacks) := by
  have hcounted := shows_attackCount w d e s
  have hattacked := attackCount_eq_min_exactAttacks w d e s
  have hlength := length_collect (DiceSource.roll w.attacks.sides) w.attacks.count s
  have hsides := hattacks.one_le_sides (Nat.le_of_eq hlength)
  cases htorrent : w.effects.torrent with
  | true =>
      rw [run_resolveHits_torrent w d e htorrent]
      have hrange : ∀ t ∈ w.attacks.throws _, t.InRange := fun t ht =>
        hs _ _ hcounted t ht (hsides t ht)
      rw [← List.append_nil (w.attacks.throws _)] at hcounted hrange
      exact ⟨_, [], hcounted, hrange, rfl, hattacked, nofun, fun _ => ⟨rfl, hlength, rfl⟩⟩
  | false =>
      rw [run_resolveHits w d e htorrent]
      generalize (attackCount w d e).run s = c at hcounted hattacked
      obtain ⟨hdice, hadds⟩ := run_times_countHit w.effects (hitTarget w d e) c.1 {} c.2
      have hfollows := follows_attackRolls w.effects (hitTarget w d e) c.1 c.2
      have hshows := hcounted.append (shows_attackRolls w.effects (hitTarget w d e) c.1 c.2)
      rw [← hdice] at hshows
      have hrange := hs _ _ hshows
      -- the stage tests for six or more; a die in range makes that a six
      have hfinal : ∀ r ∈ ((attackRolls w.effects (hitTarget w d e) c.1).run c.2).1,
          r.final ≤ 6 := fun r hr => AttackRoll.final_le fun t ht =>
        hrange t (List.mem_append_right _ (List.mem_flatMap.2 ⟨r, hr, ht⟩))
      refine ⟨_, _, hshows, fun t ht => hrange t ht ?_, rfl, hattacked, fun _ => ?_, nofun⟩
      · rcases List.mem_append.1 ht with ht | ht
        · exact hsides t ht
        · obtain ⟨r, hr, ht⟩ := List.mem_flatMap.1 ht
          exact (hfollows r hr).one_le_sides hextra t ht
      · exact hadds.accounts hlength (length_collect ..) hfollows hfinal ⟨rfl, rfl, rfl⟩

/-- A weapon with dice for its attacks and for the further hits of its critical ones, which rerolls
ones. -/
def flail : WeaponProfile :=
  { WeaponProfile.ofStats "flail" ⟨1, 3, 1⟩ 4 4 0 (.constant 1) with
    effects := { lethalHits := true, hitReroll := .ones, sustainedHits := some ⟨1, 3, 0⟩ } }

theorem hits_accounted_flail :
    flail.attacks.HasSides ∧ (extraDice flail.effects).HasSides ∧
      DiceSource.InRangeFrom (Script.ofFaces [2, 1, 6, 3, 4, 2]) ∧
      ∃ counted rolls,
        ((resolveHits flail (.ofStats "marines" 4 2 5 3) {}).run
          (Script.ofFaces [2, 1, 6, 3, 4, 2])).1.attacks =
            min (exactAttacks flail (.ofStats "marines" 4 2 5 3) {} counted) maxCount ∧
        ((resolveHits flail (.ofStats "marines" 4 2 5 3) {}).run
          (Script.ofFaces [2, 1, 6, 3, 4, 2])).1.Accounts flail counted rolls ∧
        ((resolveHits flail (.ofStats "marines" 4 2 5 3) {}).run
          (Script.ofFaces [2, 1, 6, 3, 4, 2])).2.shown =
            (flail.attacks.throws counted ++
              rolls.flatMap (AttackRoll.throws flail.effects)).length := by
  have hattacks : flail.attacks.HasSides := .inr (by decide)
  have hextra : (extraDice flail.effects).HasSides := .inr (by decide)
  have hs : DiceSource.InRangeFrom (Script.ofFaces [2, 1, 6, 3, 4, 2]) := Script.inRangeFrom rfl
  obtain ⟨counted, rolls, hshows, hrange, -, hattacked, haccounts, -⟩ :=
    hits_accounted (.ofStats "marines" 4 2 5 3) {} hattacks hextra hs
  have hshown := Script.shown_of_shows rfl
    (fun t ht => Nat.le_trans (hrange t ht).1 (hrange t ht).2) hshows
  exact ⟨hattacks, hextra, hs, counted, rolls, hattacked, haccounts rfl, hshown.trans (Nat.zero_add _)⟩

/-- A die for three attacks, a one that becomes a six, a die for three further hits, a hit and a
miss. -/
example : (resolveHits flail (.ofStats "marines" 4 2 5 3) {}).run
    (Script.ofFaces [2, 1, 6, 3, 4, 2]) = (⟨3, 4, 4, 1, 1⟩, ⟨#[2, 1, 6, 3, 4, 2], 6⟩) := rfl

end Main

end Salvo
