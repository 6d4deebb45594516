/-!
# Bounded quantities

Counts (dice, hits, wounds, models) are natural numbers up to `maxCount`; characteristics and target
numbers are integers from `minStat` to `maxStat`. The operations that stop at these bounds have names of
their own and agree with plain arithmetic as long as the result fits. Plain sums and differences do not
stop there; where they may not leave the bounds either, they are checked.
-/

namespace Salvo

def maxCount : Nat := 4294967295

def maxStat : Int := 2147483647

def minStat : Int := -2147483648

def addCount (a b : Nat) : Nat := min (a + b) maxCount

def mulCount (a b : Nat) : Nat := min (a * b) maxCount

def toCount (n : Int) : Nat := min n.toNat maxCount

def toStat (n : Int) : Int := max minStat (min n maxStat)

/-- The characteristic with the same 32 bits as a count: counts from 2³¹ on are read as negative. -/
def wrapStat (n : Nat) : Int := if n < 2147483648 then n else (n : Int) - 4294967296

theorem addCount_of_le {a b : Nat} (h : a + b ≤ maxCount) : addCount a b = a + b := by
  simp [addCount, Nat.min_eq_left h]

theorem addCount_le (a b : Nat) : addCount a b ≤ maxCount := Nat.min_le_right ..

theorem toCount_le (n : Int) : toCount n ≤ maxCount := Nat.min_le_right ..

theorem toCount_mono {m n : Int} (h : m ≤ n) : toCount m ≤ toCount n := by
  simp only [toCount]; omega

theorem toCount_eq_zero_iff {n : Int} : toCount n = 0 ↔ n ≤ 0 := by
  simp only [toCount, maxCount]; omega

theorem toCount_of_mem {n : Int} (lo : 0 ≤ n) (hi : n ≤ maxCount) : (toCount n : Int) = n := by
  simp only [toCount, maxCount] at *; omega

theorem toStat_mono {m n : Int} (h : m ≤ n) : toStat m ≤ toStat n := by
  simp only [toStat]; omega

theorem toStat_of_mem {n : Int} (lo : minStat ≤ n) (hi : n ≤ maxStat) : toStat n = n := by
  simp only [toStat]; omega

theorem wrapStat_of_lt {n : Nat} (h : n < 2147483648) : wrapStat n = n := by
  simp [wrapStat, h]

end Salvo
