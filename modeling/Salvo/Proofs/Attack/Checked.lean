import Salvo.Attack.Checked
import Salvo.Proofs.Attack.Stages

/-!
# What the checks of an attack leave unchanged

A checked action refines an action without checks: where it has a result, it has the same one and uses
the same dice (`Checked.Refines`). Every stage of a checked attack refines its stage of an attack in exact
numbers, so the whole attack does (`Checked.refines_trial`), and what holds of exact attacks holds of all
that run to their end.
-/

namespace Salvo

namespace Checked

section Actions

variable {σ τ α β : Type}

/-- What has a result has that of the other action, and leaves the same state. -/
def Refines (x : Checked σ α) (y : StateM σ α) : Prop := ∀ s r, x.run s = some r → y.run s = r

/-- The action has a result from a state. -/
def Succeeds (x : Checked σ α) (s : σ) : Prop := ∃ r, x.run s = some r

theorem run_bind (x : Checked σ α) (f : α → Checked σ β) (s : σ) :
    (x >>= f).run s = (x.run s).bind fun r => (f r.1).run r.2 := rfl

theorem Refines.pure {a b : α} (hab : a = b) :
    Refines (Pure.pure a : Checked σ α) (Pure.pure b) := by
  intro s r h
  rw [← hab]
  exact Option.some.inj h

theorem Refines.lift (x : StateM σ α) : Refines (lift x) x := by
  intro s r h
  exact Option.some.inj h

theorem Refines.bind {x : Checked σ α} {y : StateM σ α} {f : α → Checked σ β} {g : α → StateM σ β}
    (hx : Refines x y) (hf : ∀ a, Refines (f a) (g a)) : Refines (x >>= f) (y >>= g) := by
  intro s r h
  rw [run_bind] at h
  obtain ⟨r', hr', hrest⟩ := Option.bind_eq_some_iff.1 h
  rw [Salvo.run_bind, hx s r' hr']
  exact hf r'.1 r'.2 r hrest

theorem Refines.times {step : τ → Checked σ τ} {step' : τ → StateM σ τ}
    (h : ∀ t, Refines (step t) (step' t)) (n : Nat) (t : τ) :
    Refines (times step n t) (Salvo.times step' n t) := by
  induction n generalizing t with
  | zero => exact .pure rfl
  | succ n ih => exact .bind (h t) ih

theorem run_within {lo hi n : Int} (h : lo ≤ n ∧ n ≤ hi) (s : σ) :
    (within lo hi n).run s = some (n, s) := by
  rw [within, if_pos h]
  rfl

theorem run_within_eq_none {lo hi n : Int} (h : ¬ (lo ≤ n ∧ n ≤ hi)) (s : σ) :
    (within lo hi n).run s = none := by
  rw [within, if_neg h]
  rfl

theorem Refines.within_bind {lo hi n : Int} {f : Int → Checked σ β} {y : StateM σ β}
    (h : lo ≤ n → n ≤ hi → Refines (f n) y) : Refines (within lo hi n >>= f) y := by
  intro s r hr
  rw [run_bind] at hr
  by_cases hn : lo ≤ n ∧ n ≤ hi
  · rw [run_within hn] at hr
    exact h hn.1 hn.2 s r hr
  · rw [run_within_eq_none hn] at hr
    cases hr

theorem count_bind_eq (n : Int) (f : Nat → Checked σ β) :
    (count n >>= f : Checked σ β) = within 0 maxCount n >>= fun m => f m.toNat := by
  rw [count, map_eq_pure_bind, bind_assoc]
  simp only [pure_bind]

theorem Refines.count_bind {n : Int} {f : Nat → Checked σ β} {y : StateM σ β}
    (h : 0 ≤ n → n ≤ maxCount → Refines (f n.toNat) y) : Refines (count n >>= f) y := by
  rw [count_bind_eq]
  exact .within_bind h

def stepValue (applies : Bool) (n step : Int) : Int := if applies then n + step else n

theorem Refines.stepIf_bind {applies : Bool} {n step : Int} {f : Int → Checked σ β} {y : StateM σ β}
    (h : Refines (f (stepValue applies n step)) y) : Refines (stepIf applies n step >>= f) y := by
  cases applies with
  | false => exact h
  | true => exact .within_bind fun _ _ => h

theorem Refines.pure_bind {x : Checked σ α} {a : α} {f : α → Checked σ β} {y : StateM σ β}
    (hx : Refines x (Pure.pure a)) (hf : Refines (f a) y) : Refines (x >>= f) y := by
  intro s r h
  rw [run_bind] at h
  obtain ⟨r', hr', hrest⟩ := Option.bind_eq_some_iff.1 h
  have hfirst : (a, s) = r' := hx s r' hr'
  rw [← hfirst] at hrest
  exact hf s r hrest

theorem succeeds_pure (a : α) (s : σ) : Succeeds (Pure.pure a : Checked σ α) s := ⟨(a, s), rfl⟩

theorem succeeds_lift (x : StateM σ α) (s : σ) : Succeeds (lift x) s := ⟨x.run s, rfl⟩

theorem Refines.run_eq {x : Checked σ α} {y : StateM σ α} {s : σ} (h : Refines x y)
    (hx : Succeeds x s) : x.run s = some (y.run s) := by
  obtain ⟨r, hr⟩ := hx
  rw [hr, h s r hr]

/-- Two actions succeed if the first one does and so does the second on what the first one comes to. -/
theorem Refines.succeeds_bind_iff {x : Checked σ α} {y : StateM σ α} (h : Refines x y)
    {f : α → Checked σ β} {s : σ} :
    Succeeds (x >>= f) s ↔ Succeeds x s ∧ Succeeds (f (y.run s).1) (y.run s).2 := by
  constructor
  · rintro ⟨r, hr⟩
    rw [run_bind] at hr
    obtain ⟨r', hr', hrest⟩ := Option.bind_eq_some_iff.1 hr
    rw [h s r' hr']
    exact ⟨⟨r', hr'⟩, ⟨r, hrest⟩⟩
  · rintro ⟨hx, r, hr⟩
    refine ⟨r, ?_⟩
    rw [run_bind, h.run_eq hx]
    exact hr

theorem succeeds_within_bind_iff {lo hi n : Int} {f : Int → Checked σ β} {s : σ} :
    Succeeds (within lo hi n >>= f) s ↔ (lo ≤ n ∧ n ≤ hi) ∧ Succeeds (f n) s := by
  by_cases h : lo ≤ n ∧ n ≤ hi
  · rw [Succeeds, Succeeds, run_bind, run_within h]
    simp [h]
  · rw [Succeeds, run_bind, run_within_eq_none h]
    simp [h]

theorem succeeds_count_bind_iff {n : Int} {f : Nat → Checked σ β} {s : σ} :
    Succeeds (count n >>= f) s ↔ (0 ≤ n ∧ n ≤ maxCount) ∧ Succeeds (f n.toNat) s := by
  rw [count_bind_eq]
  exact succeeds_within_bind_iff

theorem succeeds_stepIf_bind {applies : Bool} {n step : Int} {f : Int → Checked σ β} {s : σ}
    (hn : minStat ≤ n + step ∧ n + step ≤ maxStat) (h : Succeeds (f (stepValue applies n step)) s) :
    Succeeds (stepIf applies n step >>= f) s := by
  cases applies with
  | false => exact h
  | true => exact succeeds_within_bind_iff.2 ⟨hn, h⟩

/-- Repeated steps succeed if an invariant lets each of them succeed and is kept by it. -/
theorem succeeds_times {P : Nat → τ → Prop} {step : τ → Checked σ τ} {step' : τ → StateM σ τ}
    (href : ∀ t, Refines (step t) (step' t)) {m : Nat}
    (hstep : ∀ k t s, k < m → P k t → Succeeds (step t) s ∧ P (k + 1) ((step' t).run s).1) (n : Nat)
    {k : Nat} {t : τ} (s : σ) (hle : k + n ≤ m) (h : P k t) :
    Succeeds (times step n t) s ∧ P (k + n) ((Salvo.times step' n t).run s).1 := by
  induction n generalizing k t s with
  | zero => exact ⟨succeeds_pure t s, h⟩
  | succ n ih =>
      obtain ⟨hfirst, hnext⟩ := hstep k t s (by omega) h
      obtain ⟨hrest, hend⟩ := ih ((step' t).run s).2 (by omega) hnext
      rw [Nat.add_right_comm, Nat.add_assoc] at hend
      exact ⟨(href t).succeeds_bind_iff.2 ⟨hfirst, hrest⟩, hend⟩

end Actions

section Refinement

variable {σ : Type} (w : WeaponProfile) (d : DefenderProfile)

theorem refines_hitTarget (e : Engagement) :
    Refines (hitTarget w d e : Checked σ Int) (pure (Salvo.hitTarget w d e)) := by
  refine .within_bind fun _ _ => .stepIf_bind (.stepIf_bind (.pure ?_))
  rw [Salvo.hitTarget, hitModifier]
  congr 1
  unfold stepValue
  split <;> split <;> omega

theorem refines_woundTarget :
    Refines (woundTarget w d : Checked σ Int) (pure (Salvo.woundTarget w d)) :=
  .within_bind fun _ _ => .stepIf_bind (.pure (by
    rw [Salvo.woundTarget, woundModifier]
    congr 1
    unfold stepValue
    split <;> omega))

theorem refines_saveTarget :
    Refines (saveTarget w d : Checked σ Int) (pure (Salvo.saveTarget w d)) :=
  .within_bind fun _ _ => .pure rfl

theorem refines_addWound (t : WoundTally) (devastating : Bool) (roll : Nat) (target : Int)
    (criticalAt : Nat) :
    Refines (addWound t devastating roll target criticalAt : Checked σ WoundTally)
      (pure (t.add devastating roll target criticalAt)) := by
  unfold addWound WoundTally.add
  split
  · exact .pure rfl
  · split
    · exact .count_bind fun _ _ => .pure rfl
    · refine .count_bind fun _ _ => ?_
      cases devastating with
      | true => exact .count_bind fun _ _ => .pure rfl
      | false => exact .count_bind fun _ _ => .pure rfl

theorem refines_take (c : Casualties) (wounds rolled dealt : Nat) :
    Refines (take c wounds rolled dealt : Checked σ Casualties)
      (pure (c.take wounds rolled dealt)) := by
  unfold take Casualties.take
  refine .count_bind fun _ _ => ?_
  have hstopped : ((rolled : Int) - dealt).toNat = rolled - dealt := by omega
  rw [hstopped]
  dsimp only
  split
  · refine .count_bind fun _ _ => .count_bind fun _ _ => .pure ?_
    have hmodels : ((c.modelsLeft : Int) - 1).toNat = c.modelsLeft - 1 := by omega
    rw [hmodels]
    rfl
  · exact .pure rfl

theorem refines_summary (o : Outcomes) : Refines (summary o : Checked σ Trial) (pure o.trial) := by
  refine .count_bind fun _ _ => .count_bind fun _ _ => .pure ?_
  rw [Outcomes.trial, Trial.mk.injEq]
  refine ⟨rfl, rfl, ?_, rfl, rfl, rfl, rfl⟩
  omega

theorem succeeds_summary_iff {o : Outcomes} {s : σ} :
    Succeeds (summary o) s ↔
      o.wound.wounds + o.wound.mortalWounds + o.hit.autoWounds ≤ maxCount := by
  refine succeeds_count_bind_iff.trans ⟨fun h => ?_, fun h => ⟨⟨by omega, by omega⟩, ?_⟩⟩
  · obtain ⟨-, h⟩ := h
    obtain ⟨hsum, -⟩ := succeeds_count_bind_iff.1 h
    omega
  · exact succeeds_count_bind_iff.2 ⟨⟨by omega, by omega⟩, succeeds_pure _ s⟩

variable [DiceSource σ]

theorem refines_addFaces (sides n : Nat) (total : Int) :
    Refines (addFaces sides n total : Checked σ Int) (DiceExpr.addFaces sides n total) := by
  induction n generalizing total with
  | zero => exact .pure rfl
  | succ n ih => exact .bind (.lift _) fun face => .within_bind fun _ _ => ih (total + face)

theorem refines_roll (e : DiceExpr) : Refines (roll e : Checked σ Nat) e.roll :=
  .bind (refines_addFaces e.sides e.count e.modifier) fun _ => .pure rfl

theorem refines_attackCount (e : Engagement) :
    Refines (attackCount w d e : Checked σ Nat) (Salvo.attackCount w d e) :=
  .bind (refines_roll w.attacks) fun _ => .pure rfl

theorem refines_extraHits (fx : WeaponEffects) :
    Refines (extraHits fx : Checked σ Nat) (Salvo.extraHits fx) := by
  unfold extraHits Salvo.extraHits
  cases fx.sustainedHits with
  | none => exact .pure rfl
  | some e => exact refines_roll e

theorem refines_countCritical (fx : WeaponEffects) (t : HitTally) :
    Refines (countCritical fx t : Checked σ HitTally) (Salvo.countCritical fx t) := by
  unfold countCritical Salvo.countCritical
  refine .count_bind fun _ _ => .count_bind fun _ _ => .bind (refines_extraHits fx) fun extra => ?_
  have hhit : ((t.hits : Int) + 1).toNat = t.hits + 1 := by omega
  rw [hhit]
  generalize (if fx.sustainedHits.isSome then addCount (t.hits + 1) extra else t.hits + 1) = grown
  cases fx.lethalHits with
  | false => exact .pure rfl
  | true =>
      refine .count_bind fun _ _ => .count_bind fun _ _ => .pure ?_
      have hback : ((grown : Int) - 1).toNat = grown - 1 := by omega
      rw [hback]
      rfl

theorem refines_countHit (fx : WeaponEffects) (target : Int) (t : HitTally) :
    Refines (countHit fx target t : Checked σ HitTally) (Salvo.countHit fx target t) := by
  refine .bind (.lift _) fun roll => ?_
  split
  · exact .pure rfl
  · split
    · exact .count_bind fun _ _ => .pure rfl
    · exact refines_countCritical fx t

theorem refines_resolveHits (e : Engagement) :
    Refines (resolveHits w d e : Checked σ HitOutcome) (Salvo.resolveHits w d e) := by
  refine .bind (refines_attackCount w d e) fun attacks => .pure_bind (refines_hitTarget w d e) ?_
  cases w.effects.torrent with
  | true => exact .pure rfl
  | false =>
      exact .bind (.times (refines_countHit w.effects (Salvo.hitTarget w d e)) attacks {}) fun _ =>
        .pure rfl

theorem refines_countWound (fx : WeaponEffects) (target : Int) (criticalAt : Nat) (t : WoundTally) :
    Refines (countWound fx target criticalAt t : Checked σ WoundTally)
      (Salvo.countWound fx target criticalAt t) :=
  .bind (.lift _) fun roll => refines_addWound t fx.devastatingWounds roll target criticalAt

theorem refines_resolveWounds (hits : Nat) :
    Refines (resolveWounds hits w d : Checked σ WoundOutcome) (Salvo.resolveWounds hits w d) :=
  .pure_bind (refines_woundTarget w d) (.bind (.times (refines_countWound w.effects
    (Salvo.woundTarget w d) (criticalWound w d)) hits {}) fun _ => .pure rfl)

theorem refines_resolveSaves (wounds : Nat) :
    Refines (resolveSaves wounds w d : Checked σ SaveOutcome) (Salvo.resolveSaves wounds w d) :=
  .pure_bind (refines_saveTarget w d) (.lift _)

theorem refines_damageInstance (e : Engagement) :
    Refines (damageInstance w d e : Checked σ Nat) (Salvo.damageInstance w d e) := by
  refine .bind (refines_roll w.damage) fun rolled => .within_bind fun _ _ => ?_
  rw [damageBonus]
  cases e.halfRange with
  | true => exact .within_bind fun _ _ => .pure (by rw [Int.add_assoc]; rfl)
  | false => exact .pure (by simp)

theorem refines_allocate (config : AttackConfig) (n : Nat) (c : Casualties) :
    Refines (allocate w d config n c : Checked σ Casualties) (Salvo.allocate w d config n c) := by
  induction n generalizing c with
  | zero => exact .pure rfl
  | succ n ih =>
      unfold allocate Salvo.allocate
      split
      · exact .pure rfl
      · exact .bind (refines_damageInstance w d config.engagement) fun rolled =>
          .bind (.lift _) fun dealt => .pure_bind (refines_take c d.wounds rolled dealt) (ih _)

theorem refines_resolveDamage (failed mortal : Nat) (config : AttackConfig) :
    Refines (resolveDamage failed mortal w d config : Checked σ DamageOutcome)
      (Salvo.resolveDamage failed mortal w d config) :=
  .bind (refines_allocate w d config (addCount failed mortal) (.start d)) fun _ => .pure rfl

theorem trial_eq (config : AttackConfig) :
    (Salvo.trial w d config : StateM σ Trial) = (do
      let hit ← Salvo.resolveHits w d config.engagement
      let wound ← Salvo.resolveWounds hit.hits w d
      let save ← Salvo.resolveSaves (wound.wounds + hit.autoWounds) w d
      let damage ← Salvo.resolveDamage save.failed wound.mortalWounds w d config
      return Outcomes.trial ⟨hit, wound, save, damage⟩) := rfl

theorem refines_trial (config : AttackConfig) :
    Refines (trial w d config : Checked σ Trial) (Salvo.trial w d config) := by
  rw [trial_eq]
  refine .bind (refines_resolveHits w d config.engagement) fun hit => ?_
  refine .bind (refines_resolveWounds w d hit.hits) fun wound => .count_bind fun _ _ => ?_
  have htoSave : ((wound.wounds : Int) + hit.autoWounds).toNat = wound.wounds + hit.autoWounds := by
    omega
  rw [htoSave]
  exact .bind (refines_resolveSaves w d _) fun save =>
    .bind (refines_resolveDamage w d save.failed wound.mortalWounds config) fun damage =>
      refines_summary _

theorem tracedTrial_eq (config : AttackConfig) (t : Trace) :
    (Salvo.tracedTrial w d config t : StateM σ (Trial × Trace)) = (do
      let hit ← Salvo.resolveHits w d config.engagement
      let wound ← Salvo.resolveWounds hit.hits w d
      let save ← Salvo.resolveSaves (wound.wounds + hit.autoWounds) w d
      let damage ← Salvo.resolveDamage save.failed wound.mortalWounds w d config
      return (Outcomes.trial ⟨hit, wound, save, damage⟩,
        t.recordAll (Outcomes.events ⟨hit, wound, save, damage⟩))) := rfl

theorem refines_tracedTrial (config : AttackConfig) (t : Trace) :
    Refines (tracedTrial w d config t : Checked σ (Trial × Trace)) (Salvo.tracedTrial w d config t) := by
  rw [tracedTrial_eq]
  refine .bind (refines_resolveHits w d config.engagement) fun hit => ?_
  refine .bind (refines_resolveWounds w d hit.hits) fun wound => .count_bind fun _ _ => ?_
  have htoSave : ((wound.wounds : Int) + hit.autoWounds).toNat = wound.wounds + hit.autoWounds := by
    omega
  rw [htoSave]
  exact .bind (refines_resolveSaves w d _) fun save =>
    .bind (refines_resolveDamage w d save.failed wound.mortalWounds config) fun damage =>
      .pure_bind (refines_summary ⟨hit, wound, save, damage⟩) (.pure rfl)

theorem refines_addTrials (config : AttackConfig) (n : Nat) (done : List Trial) :
    Refines (addTrials w d config n done : Checked σ (List Trial))
      (Salvo.addTrials (.of w d config.engagement) w d config n done) := by
  induction n generalizing done with
  | zero => exact .pure rfl
  | succ n ih => exact .bind (refines_trial w d config) fun result => ih (result :: done)

theorem refines_trials (config : AttackConfig) (n : Nat) :
    Refines (trials w d config n : Checked σ (List Trial)) (Salvo.trials w d config n) :=
  .bind (refines_addTrials w d config n []) fun _ => .pure rfl

end Refinement

end Checked

end Salvo
