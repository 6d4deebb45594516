import Mathlib.Algebra.Order.Field.Basic
import Salvo.Proofs.Attack.Funnel
import Salvo.Proofs.Batch.OrderStatistics
import Salvo.Proofs.Batch.Stream

/-!
# Kill rates of a batch

A trial destroys no more models than a unit has, and its damage covers the wounds of those that it
destroys (`Trial.Within`). Every trial of a batch is such a trial, so the rates at which models fall go
together with each other, with the mean number of models that fall and with the mean damage
(`coherent_summarize_runBatch`).
-/

namespace Salvo

section Counting

variable {ι : Type} {l : List ι} {p : ι → Bool} {f : ι → Nat} {m : Nat}

theorem mul_countP_le_sum (h : ∀ i ∈ l, p i = true → m ≤ f i) : m * l.countP p ≤ (l.map f).sum := by
  induction l with
  | nil => simp
  | cons i l ih =>
      have hrest := ih fun j hj => h j (List.mem_cons_of_mem i hj)
      rw [List.countP_cons, List.map_cons, List.sum_cons, Nat.mul_add]
      split
      · rename_i hp
        have hfirst := h i List.mem_cons_self hp
        omega
      · omega

theorem sum_le_mul_countP (h : ∀ i ∈ l, f i ≤ m) (hzero : ∀ i ∈ l, p i = false → f i = 0) :
    (l.map f).sum ≤ m * l.countP p := by
  induction l with
  | nil => simp
  | cons i l ih =>
      have hrest := ih (fun j hj => h j (List.mem_cons_of_mem i hj))
        fun j hj => hzero j (List.mem_cons_of_mem i hj)
      rw [List.countP_cons, List.map_cons, List.sum_cons, Nat.mul_add]
      split
      · have hfirst := h i List.mem_cons_self
        omega
      · rename_i hp
        have hfirst := hzero i List.mem_cons_self (Bool.eq_false_iff.2 hp)
        omega

end Counting

section Within

/-- What a trial can do to a unit: no more models fall than there are, and the damage covers their
wounds. -/
structure Trial.Within (t : Trial) (d : DefenderProfile) : Prop where
  modelsDestroyed_le : t.modelsDestroyed ≤ d.models
  modelsDestroyed_mul_le : t.modelsDestroyed * d.wounds ≤ t.damage

variable {d : DefenderProfile}

theorem within_trial {σ : Type} [DiceSource σ] (hd : d.InBounds) (w : WeaponProfile)
    (config : AttackConfig) (s : σ) : (((trial w d config).run s).1).Within d := by
  obtain ⟨s₁, s₂, s₃, o, ho, -, -, -, hdamage⟩ :=
    exists_stages (.of w d config.engagement) w d config s
  have htrial : ((trial w d config).run s).1 = o.trial := congrArg Outcomes.trial ho
  have hmodels := modelsDestroyed_resolveDamage_le hd o.save.failed o.wound.mortalWounds w config s₃
  have hpool := modelsDestroyed_mul_wounds_le hd o.save.failed o.wound.mortalWounds w config s₃
  rw [← hdamage] at hmodels hpool
  rw [htrial]
  exact ⟨Nat.le_trans hmodels (Nat.min_le_left ..), hpool⟩

theorem within_of_mem_runBatch (hd : d.InBounds) (w : WeaponProfile) (config : AttackConfig) (n : Nat)
    (seed : UInt64) : ∀ t ∈ runBatch w d config n seed, t.Within d := by
  rw [runBatch_eq_trialStream]
  exact forall_mem_trialStream w d config (within_trial hd w config) n _

end Within

section Counts

variable {results : List Trial} {d : DefenderProfile}

theorem destroying_le_destroying {m n : Nat} (h : m ≤ n) (results : List Trial) :
    destroying n results ≤ destroying m results := by
  refine List.countP_mono_left fun t _ hle => ?_
  rw [decide_eq_true_iff] at hle ⊢
  exact Nat.le_trans h hle

theorem mul_destroying_le_sum (m : Nat) (results : List Trial) :
    m * destroying m results ≤ (results.map Trial.modelsDestroyed).sum :=
  mul_countP_le_sum fun _ _ hle => of_decide_eq_true hle

/-- Only trials that destroy a model add to the models that fall, and none adds more than there are. -/
theorem sum_modelsDestroyed_le (h : ∀ t ∈ results, t.Within d) :
    (results.map Trial.modelsDestroyed).sum ≤ d.models * destroying 1 results := by
  refine sum_le_mul_countP (fun t ht => (h t ht).modelsDestroyed_le) fun t _ hnone => ?_
  exact Nat.lt_one_iff.1 (Nat.lt_of_not_le (of_decide_eq_false hnone))

theorem sum_modelsDestroyed_mul_le (h : ∀ t ∈ results, t.Within d) :
    (results.map Trial.modelsDestroyed).sum * d.wounds ≤ (results.map Trial.damage).sum := by
  rw [← List.sum_map_mul_right]
  exact List.sum_le_sum fun t ht => (h t ht).modelsDestroyed_mul_le

theorem destroying_models_eq (h : ∀ t ∈ results, t.Within d) :
    destroying d.models results = results.countP (fun t => t.modelsDestroyed = d.models) := by
  refine List.countP_congr fun t ht => ?_
  have hle := (h t ht).modelsDestroyed_le
  rw [decide_eq_true_iff, decide_eq_true_iff]
  omega

end Counts

section Rates

variable {results : List Trial} {d : DefenderProfile}

theorem rates_computeStats (hne : results ≠ []) (models : Nat) :
    (computeStats results (some models) : Stats Rat).killChance =
        (destroying 1 results : Rat) / results.length ∧
      (computeStats results (some models) : Stats Rat).wipeChance =
        (destroying models results : Rat) / results.length ∧
      (computeStats results (some models) : Stats Rat).meanModelsDestroyed =
        ((results.map Trial.modelsDestroyed).sum : Nat) / results.length := by
  rw [computeStats.eq_def, if_neg (mt List.isEmpty_iff.1 hne), List.sum_eq_foldl]
  exact ⟨rfl, rfl, rfl⟩

/-- How the kill rates of a batch against a unit bound each other. -/
structure WeaponResult.Coherent (r : WeaponResult Rat) (results : List Trial) (d : DefenderProfile) :
    Prop where
  wipeChance_nonneg : 0 ≤ r.stats.wipeChance
  wipeChance_le : r.stats.wipeChance ≤ r.stats.killChance
  killChance_le_one : r.stats.killChance ≤ 1
  models_mul_wipeChance_le : d.models * r.stats.wipeChance ≤ r.stats.meanModelsDestroyed
  meanModelsDestroyed_le : r.stats.meanModelsDestroyed ≤ d.models * r.stats.killChance
  killChance_le : r.stats.killChance ≤ r.stats.meanModelsDestroyed
  meanModelsDestroyed_mul_le : r.stats.meanModelsDestroyed * d.wounds ≤ r.stats.mean
  wipeChance_eq : r.stats.wipeChance =
    (results.countP (fun t => t.modelsDestroyed = d.models) : Rat) / results.length
  damage_eq : r.damage = r.stats.mean

theorem coherent_summarize (hmodels : 1 ≤ d.models) (hne : results ≠ [])
    (h : ∀ t ∈ results, t.Within d) :
    (summarize results (some d.models) : WeaponResult Rat).Coherent results d := by
  have hpos : (0 : Rat) < results.length := Nat.cast_pos.2 (List.length_pos_iff.2 hne)
  have hrate {j k : Nat} (hjk : j ≤ k) : (j : Rat) / results.length ≤ k / results.length :=
    div_le_div_of_nonneg_right (Nat.cast_le.2 hjk) hpos.le
  have hmean := mean_computeStats hne (some d.models)
  obtain ⟨hkill, hwipe, hdestroyed⟩ := rates_computeStats hne d.models
  rw [summarize, if_neg (mt List.isEmpty_iff.1 hne)]
  refine
    { wipeChance_nonneg := ?_
      wipeChance_le := ?_
      killChance_le_one := ?_
      models_mul_wipeChance_le := ?_
      meanModelsDestroyed_le := ?_
      killChance_le := ?_
      meanModelsDestroyed_mul_le := ?_
      wipeChance_eq := ?_
      damage_eq := hmean.symm } <;>
    dsimp only
  · rw [hwipe]
    exact div_nonneg (Nat.cast_nonneg _) hpos.le
  · rw [hwipe, hkill]
    exact hrate (destroying_le_destroying hmodels results)
  · rw [hkill, div_le_one hpos]
    exact Nat.cast_le.2 List.countP_le_length
  · rw [hwipe, hdestroyed, ← mul_div_assoc, ← Nat.cast_mul]
    exact hrate (mul_destroying_le_sum d.models results)
  · rw [hkill, hdestroyed, ← mul_div_assoc, ← Nat.cast_mul]
    exact hrate (sum_modelsDestroyed_le h)
  · have hsum := mul_destroying_le_sum 1 results
    rw [Nat.one_mul] at hsum
    rw [hkill, hdestroyed]
    exact hrate hsum
  · rw [hmean, meanOf_rat_eq, List.length_map, hdestroyed, div_mul_eq_mul_div, ← Nat.cast_mul]
    exact hrate (sum_modelsDestroyed_mul_le h)
  · rw [hwipe, destroying_models_eq h]

/-- The kill rates of a batch are coherent, for every weapon against a checked unit. -/
theorem coherent_summarize_runBatch {r : DefenderRecord} {name : String}
    (hd : DefenderProfile.ofRecord r name = .ok d) (w : WeaponProfile) (config : AttackConfig)
    (seed : UInt64) {n : Nat} (hn : 1 ≤ n) :
    (runBatch w d config n seed).length = n ∧
      (summarize (runBatch w d config n seed) (some d.models) : WeaponResult Rat).Coherent
        (runBatch w d config n seed) d := by
  have hbounds := DefenderProfile.inBounds_of_ofRecord hd
  have hlength := length_runBatch w d config n seed
  refine ⟨hlength, coherent_summarize hbounds.models.1 ?_ ?_⟩
  · exact List.ne_nil_of_length_pos (hlength.symm ▸ hn)
  · exact within_of_mem_runBatch hbounds w config n seed

theorem coherent_summarize_runBatch_hammer :
    DefenderProfile.ofRecord marinesRecord "marines" = .ok (.ofStats "marines" 4 2 5 3) ∧
      (summarize (runBatch hammer (.ofStats "marines" 4 2 5 3) {} 100 7) (some 5) :
        WeaponResult Rat).Coherent (runBatch hammer (.ofStats "marines" 4 2 5 3) {} 100 7)
          (.ofStats "marines" 4 2 5 3) := by
  have h : DefenderProfile.ofRecord marinesRecord "marines" =
      .ok (.ofStats "marines" 4 2 5 3) := rfl
  exact ⟨h, (coherent_summarize_runBatch h hammer {} 7 (by decide : 1 ≤ 100)).2⟩

end Rates

end Salvo
