import Mathlib.Data.List.Sort
import Mathlib.Order.Bounds.Defs
import Salvo.Proofs.Batch.Means

/-!
# Order statistics of a batch

What a sorted sample has at an index is told by counting, without a sort: it is the damage of a trial,
no more trials than the index have less, and more than the index have no more (`IsOrderStatistic`). So
the median and the percentiles are the same in every order of the trials, and so are all the statistics
of a batch (`computeStats_ranked`).
-/

namespace Salvo

section Sorted

variable {l : List Nat} {k : Nat}

theorem countP_lt_getElem_le (h : l.SortedLE) (hk : k < l.length) :
    l.countP (fun n => decide (n < l[k])) ≤ k := by
  have hdrop : (l.drop k).countP (fun n => decide (n < l[k])) = 0 := by
    rw [List.countP_eq_zero]
    intro n hn
    obtain ⟨i, hi, rfl⟩ := List.mem_drop_iff_getElem.1 hn
    rw [decide_eq_true_iff, Nat.not_lt]
    exact h.getElem_le_getElem_of_le (Nat.le_add_right k i)
  calc l.countP (fun n => decide (n < l[k]))
      = (l.take k).countP (fun n => decide (n < l[k])) +
          (l.drop k).countP (fun n => decide (n < l[k])) := by
        rw [← List.countP_append, List.take_append_drop]
    _ = (l.take k).countP (fun n => decide (n < l[k])) := by rw [hdrop, Nat.add_zero]
    _ ≤ (l.take k).length := List.countP_le_length
    _ ≤ k := List.length_take_le k l

theorem lt_countP_le_getElem (h : l.SortedLE) (hk : k < l.length) :
    k < l.countP (fun n => decide (n ≤ l[k])) := by
  have htake : (l.take (k + 1)).countP (fun n => decide (n ≤ l[k])) = (l.take (k + 1)).length := by
    rw [List.countP_eq_length]
    intro n hn
    obtain ⟨i, hi, rfl⟩ := List.mem_take_iff_getElem.1 hn
    rw [decide_eq_true_iff]
    exact h.getElem_le_getElem_of_le (Nat.le_of_lt_succ (Nat.lt_min.1 hi).1)
  calc k < k + 1 := Nat.lt_succ_self k
    _ = (l.take (k + 1)).length := (List.length_take_of_le hk).symm
    _ = (l.take (k + 1)).countP (fun n => decide (n ≤ l[k])) := htake.symm
    _ ≤ l.countP (fun n => decide (n ≤ l[k])) := (List.take_sublist _ l).countP_le

end Sorted

section Damage

variable {results others : List Trial} {j k u v : Nat}

/-- The damage of rank `k`: some trial has it, at most `k` trials have less, and more than `k` have no
more. -/
structure IsOrderStatistic (results : List Trial) (k v : Nat) : Prop where
  occurs : ∃ t ∈ results, t.damage = v
  below : results.countP (fun t => t.damage < v) ≤ k
  atMost : k < results.countP (fun t => t.damage ≤ v)

/-- If a higher rank had less damage, the trials up to that damage would be too many for the lower
rank. -/
theorem IsOrderStatistic.le (h : IsOrderStatistic results j u) (h' : IsOrderStatistic results k v)
    (hjk : j ≤ k) : u ≤ v := by
  by_contra hlt
  have hcount : results.countP (fun t => t.damage ≤ v) ≤ results.countP (fun t => t.damage < u) := by
    refine List.countP_mono_left fun t _ hle => ?_
    rw [decide_eq_true_iff] at hle ⊢
    omega
  have hbelow := h.below
  have hatMost := h'.atMost
  omega

theorem IsOrderStatistic.eq (h : IsOrderStatistic results k u) (h' : IsOrderStatistic results k v) :
    u = v :=
  Nat.le_antisymm (h.le h' (Nat.le_refl k)) (h'.le h (Nat.le_refl k))

theorem IsOrderStatistic.le_damage (h : IsOrderStatistic results 0 v) :
    ∀ t ∈ results, v ≤ t.damage := by
  intro t ht
  have hnone := List.countP_eq_zero.1 (Nat.le_zero.1 h.below) t ht
  simpa using hnone

theorem IsOrderStatistic.damage_le (h : IsOrderStatistic results (results.length - 1) v) :
    ∀ t ∈ results, t.damage ≤ v := by
  have hle : results.countP (fun t => t.damage ≤ v) ≤ results.length := List.countP_le_length
  have hatMost := h.atMost
  have hall := List.countP_eq_length.1 (Nat.le_antisymm hle (by omega))
  exact fun t ht => of_decide_eq_true (hall t ht)

theorem sortedDamage_perm (results : List Trial) :
    (sortedDamage results).Perm (results.map Trial.damage) :=
  List.mergeSort_perm _ _

@[simp] theorem length_sortedDamage (results : List Trial) :
    (sortedDamage results).length = results.length := by
  rw [(sortedDamage_perm results).length_eq, List.length_map]

theorem sortedLE_sortedDamage (results : List Trial) : (sortedDamage results).SortedLE :=
  List.sortedLE_mergeSort

theorem sortedDamage_congr (h : results.Perm others) : sortedDamage results = sortedDamage others := by
  refine List.Perm.eq_of_sortedLE (sortedLE_sortedDamage _) (sortedLE_sortedDamage _) ?_
  exact (sortedDamage_perm _).trans ((h.map _).trans (sortedDamage_perm _).symm)

theorem countP_sortedDamage (p : Nat → Bool) (results : List Trial) :
    (sortedDamage results).countP p = results.countP (fun t => p t.damage) := by
  rw [(sortedDamage_perm results).countP_eq, List.countP_map]
  rfl

theorem isOrderStatistic_sortedDamage (hk : k < results.length) :
    IsOrderStatistic results k ((sortedDamage results).toArray.getD k 0) := by
  have hlength : k < (sortedDamage results).length := by rwa [length_sortedDamage]
  have hget : (sortedDamage results).toArray.getD k 0 = (sortedDamage results)[k] := by
    simp [Array.getD, hk]
  rw [hget]
  constructor
  · have hmem := (sortedDamage_perm results).mem_iff.1 (List.getElem_mem hlength)
    exact List.mem_map.1 hmem
  · rw [← countP_sortedDamage fun n => decide (n < (sortedDamage results)[k])]
    exact countP_lt_getElem_le (sortedLE_sortedDamage results) hlength
  · rw [← countP_sortedDamage fun n => decide (n ≤ (sortedDamage results)[k])]
    exact lt_countP_le_getElem (sortedLE_sortedDamage results) hlength

end Damage

section Ranked

variable {α : Type} [Scalar α] {results others : List Trial} {n percent : Nat}

def DamageAt (results : List Trial) (k : Nat) (x : α) : Prop :=
  ∃ v, IsOrderStatistic results k v ∧ x = Scalar.ofCount v

/-- The statistics that are taken from the sample are damages of ranks that its size says. -/
structure Stats.Ranked (s : Stats α) (results : List Trial) : Prop where
  min : DamageAt results 0 s.min
  p25 : DamageAt results (results.length * 25 / 100) s.p25
  median : DamageAt results (results.length / 2) s.median
  p75 : DamageAt results (results.length * 75 / 100) s.p75
  p90 : DamageAt results (results.length * 90 / 100) s.p90
  p95 : DamageAt results (results.length * 95 / 100) s.p95
  max : DamageAt results (results.length - 1) s.max

/-- The statistics are in order, from the least damage to the greatest. -/
structure Stats.Ordered (s : Stats Rat) (results : List Trial) : Prop where
  isLeast : IsLeast {x | ∃ t ∈ results, x = (t.damage : Rat)} s.min
  min_le_p25 : s.min ≤ s.p25
  p25_le_median : s.p25 ≤ s.median
  median_le_p75 : s.median ≤ s.p75
  p75_le_p90 : s.p75 ≤ s.p90
  p90_le_p95 : s.p90 ≤ s.p95
  p95_le_max : s.p95 ≤ s.max
  isGreatest : IsGreatest {x | ∃ t ∈ results, x = (t.damage : Rat)} s.max
  min_le_mean : s.min ≤ s.mean
  mean_le_max : s.mean ≤ s.max

theorem mul_div_hundred_lt (hn : 0 < n) (hpercent : percent < 100) : n * percent / 100 < n :=
  Nat.div_lt_of_lt_mul (Nat.mul_comm 100 n ▸ Nat.mul_lt_mul_of_pos_left hpercent hn)

/-- The bound on the index of a percentile is never needed. -/
theorem percentileIndex_eq (hn : 0 < n) (hpercent : percent < 100) :
    percentileIndex n percent = n * percent / 100 :=
  Nat.min_eq_left (Nat.le_sub_one_of_lt (mul_div_hundred_lt hn hpercent))

theorem ranked_computeStats (hne : results ≠ []) (models : Option Nat) :
    (computeStats results models : Stats α).Ranked results := by
  have hpos : 0 < results.length := List.length_pos_iff.2 hne
  have hat : ∀ k < results.length, DamageAt results k
      (Scalar.ofCount ((sortedDamage results).toArray.getD k 0) : α) :=
    fun k hk => ⟨_, isOrderStatistic_sortedDamage hk, rfl⟩
  have hpercent : ∀ percent < 100, DamageAt results (results.length * percent / 100)
      (Scalar.ofCount ((sortedDamage results).toArray.getD
        (percentileIndex results.length percent) 0) : α) := by
    intro percent h
    rw [percentileIndex_eq hpos h]
    exact hat _ (mul_div_hundred_lt hpos h)
  rw [computeStats.eq_def, if_neg (mt List.isEmpty_iff.1 hne)]
  exact ⟨hat _ hpos, hpercent 25 (by omega), hat _ (by omega), hpercent 75 (by omega),
    hpercent 90 (by omega), hpercent 95 (by omega), hat _ (by omega)⟩

theorem DamageAt.le {j k : Nat} {x y : Rat} (h : DamageAt results j x) (h' : DamageAt results k y)
    (hjk : j ≤ k) : x ≤ y := by
  obtain ⟨u, hu, rfl⟩ := h
  obtain ⟨v, hv, rfl⟩ := h'
  rw [ofCount_rat, ofCount_rat]
  exact Nat.cast_le.2 (hu.le hv hjk)

theorem DamageAt.isLeast {x : Rat} (h : DamageAt results 0 x) :
    IsLeast {x | ∃ t ∈ results, x = (t.damage : Rat)} x := by
  obtain ⟨v, hv, rfl⟩ := h
  obtain ⟨t, ht, rfl⟩ := hv.occurs
  refine ⟨⟨t, ht, ofCount_rat _⟩, ?_⟩
  rintro _ ⟨other, hother, rfl⟩
  rw [ofCount_rat]
  exact Nat.cast_le.2 (hv.le_damage other hother)

theorem DamageAt.isGreatest {x : Rat} (h : DamageAt results (results.length - 1) x) :
    IsGreatest {x | ∃ t ∈ results, x = (t.damage : Rat)} x := by
  obtain ⟨v, hv, rfl⟩ := h
  obtain ⟨t, ht, rfl⟩ := hv.occurs
  refine ⟨⟨t, ht, ofCount_rat _⟩, ?_⟩
  rintro _ ⟨other, hother, rfl⟩
  rw [ofCount_rat]
  exact Nat.cast_le.2 (hv.damage_le other hother)

theorem mean_computeStats (hne : results ≠ []) (models : Option Nat) :
    (computeStats results models : Stats Rat).mean = meanOf (results.map Trial.damage) := by
  rw [computeStats.eq_def, if_neg (mt List.isEmpty_iff.1 hne)]
  exact meanOf_perm (sortedDamage_perm results)

theorem ordered_computeStats (hne : results ≠ []) (models : Option Nat) :
    (computeStats results models : Stats Rat).Ordered results := by
  have hpos : 0 < results.length := List.length_pos_iff.2 hne
  have hranked : (computeStats results models : Stats Rat).Ranked results :=
    ranked_computeStats hne models
  have hdamages : results.map Trial.damage ≠ [] := mt List.map_eq_nil_iff.1 hne
  exact
    { isLeast := hranked.min.isLeast
      min_le_p25 := hranked.min.le hranked.p25 (Nat.zero_le _)
      p25_le_median := hranked.p25.le hranked.median (by omega)
      median_le_p75 := hranked.median.le hranked.p75 (by omega)
      p75_le_p90 := hranked.p75.le hranked.p90 (by omega)
      p90_le_p95 := hranked.p90.le hranked.p95 (by omega)
      p95_le_max := hranked.p95.le hranked.max (by omega)
      isGreatest := hranked.max.isGreatest
      min_le_mean := by
        obtain ⟨v, hv, heq⟩ := hranked.min
        rw [heq, ofCount_rat, mean_computeStats hne]
        exact le_meanOf hdamages (List.forall_mem_map.2 hv.le_damage)
      mean_le_max := by
        obtain ⟨v, hv, heq⟩ := hranked.max
        rw [heq, ofCount_rat, mean_computeStats hne]
        exact meanOf_le hdamages (List.forall_mem_map.2 hv.damage_le) }

theorem computeStats_congr (h : results.Perm others) (models : Option Nat) :
    (computeStats results models : Stats α) = computeStats others models := by
  have hempty : results.isEmpty = others.isEmpty := by
    rw [Bool.eq_iff_iff, List.isEmpty_iff, List.isEmpty_iff, ← List.length_eq_zero_iff, h.length_eq,
      List.length_eq_zero_iff]
  have hdestroying : ∀ m, destroying m results = destroying m others :=
    fun m => h.countP_eq _
  have hdestroyed : (results.map Trial.modelsDestroyed).foldl (· + ·) 0 =
      (others.map Trial.modelsDestroyed).foldl (· + ·) 0 := by
    rw [← List.sum_eq_foldl, ← List.sum_eq_foldl]
    exact (h.map _).sum_eq
  rw [computeStats.eq_def, computeStats.eq_def, hempty, h.length_eq, sortedDamage_congr h, hdestroyed]
  simp only [hdestroying]

/-- Statistics are true order statistics. For every batch with a trial, the median and the percentiles
are damages of the ranks that the size of the batch says, and these ranks are below the size. They are
in order between the least and the greatest damage, and the exact mean lies between these. No statistic
depends on the order of the trials. -/
theorem computeStats_ranked (α : Type) [Scalar α] {results : List Trial} (hne : results ≠ [])
    (models : Option Nat) :
    (computeStats results models : Stats α).Ranked results ∧
      results.length / 2 < results.length ∧
      (∀ percent < 100,
        percentileIndex results.length percent = results.length * percent / 100 ∧
          percentileIndex results.length percent < results.length) ∧
      (computeStats results models : Stats Rat).Ordered results ∧
      ∀ others, results.Perm others →
        (computeStats others models : Stats α) = computeStats results models := by
  have hpos : 0 < results.length := List.length_pos_iff.2 hne
  refine ⟨ranked_computeStats hne models, by omega, fun percent h => ?_,
    ordered_computeStats hne models, fun others hperm => (computeStats_congr hperm models).symm⟩
  rw [percentileIndex_eq hpos h]
  exact ⟨rfl, mul_div_hundred_lt hpos h⟩

/-- Of four trials the third damage is the median, in whichever order they are made. -/
theorem computeStats_ranked_four :
    (computeStats [{ damage := 1 }, { damage := 2 }, { damage := 3 }, { damage := 10 }] none :
        Stats Rat).median = 3 ∧
      (computeStats [{ damage := 3 }, { damage := 10 }, { damage := 1 }, { damage := 2 }] none :
          Stats Rat) =
        computeStats [{ damage := 1 }, { damage := 2 }, { damage := 3 }, { damage := 10 }] none ∧
      percentileIndex 4 95 < 4 := by
  obtain ⟨hranked, -, hpercent, -, hperm⟩ := computeStats_ranked Rat
    (List.cons_ne_nil { damage := 1 } [{ damage := 2 }, { damage := 3 }, { damage := 10 }]) none
  obtain ⟨v, hv, heq⟩ := hranked.median
  have hthree : IsOrderStatistic
      [{ damage := 1 }, { damage := 2 }, { damage := 3 }, { damage := 10 }] 2 3 :=
    ⟨⟨_, .tail _ (.tail _ (.head _)), rfl⟩, by decide, by decide⟩
  refine ⟨?_, hperm _ (by decide), (hpercent 95 (by decide)).2⟩
  rw [heq, ofCount_rat, hv.eq hthree]
  rfl

end Ranked

end Salvo
