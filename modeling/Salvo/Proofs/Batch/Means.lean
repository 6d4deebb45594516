import Mathlib.Algebra.BigOperators.Ring.Finset
import Mathlib.Algebra.Order.BigOperators.Group.List
import Mathlib.Algebra.Order.Field.Rat
import Salvo.Batch.Summary

/-!
# Exact means

Over exact numbers the mean of counts is their sum divided by their number. So it does not depend on
their order, and it lies between the least and the greatest of them.
-/

namespace Salvo

theorem ofCount_rat (n : Nat) : (Scalar.ofCount n : Rat) = n := Int.cast_natCast n

theorem sum_rat_eq (xs : List Rat) : Scalar.sum xs = xs.sum :=
  List.sum_eq_foldl.symm

variable {counts others : List Nat} {m : Nat}

theorem meanOf_rat_eq (counts : List Nat) :
    (meanOf counts : Rat) = (counts.sum : Nat) / (counts.length : Nat) := by
  have hcast : (Scalar.ofCount : Nat → Rat) = Nat.cast := funext ofCount_rat
  rw [meanOf, sum_rat_eq, hcast, Nat.cast_list_sum]

theorem meanOf_perm (h : counts.Perm others) : (meanOf counts : Rat) = meanOf others := by
  rw [meanOf_rat_eq, meanOf_rat_eq, h.sum_eq, h.length_eq]

theorem le_meanOf (hne : counts ≠ []) (h : ∀ n ∈ counts, m ≤ n) : (m : Rat) ≤ meanOf counts := by
  have hpos : (0 : Rat) < (counts.length : Nat) := Nat.cast_pos.2 (List.length_pos_iff.2 hne)
  have hsum : counts.length * m ≤ counts.sum := List.card_nsmul_le_sum counts m h
  rw [meanOf_rat_eq, le_div_iff₀ hpos, mul_comm]
  exact_mod_cast hsum

theorem meanOf_le (hne : counts ≠ []) (h : ∀ n ∈ counts, n ≤ m) : (meanOf counts : Rat) ≤ m := by
  have hpos : (0 : Rat) < (counts.length : Nat) := Nat.cast_pos.2 (List.length_pos_iff.2 hne)
  have hsum : counts.sum ≤ counts.length * m := List.sum_le_card_nsmul counts m h
  rw [meanOf_rat_eq, div_le_iff₀ hpos, mul_comm]
  exact_mod_cast hsum

end Salvo
