/-!
# Ranges of a batch

`ranges total count` divides the numbers below `total` into ranges that follow each other and whose
sizes differ by at most one, the larger ones first.
-/

namespace Salvo

/-- The numbers from `start` up to, but not including, `stop`. -/
structure Range where
  start : Nat
  stop : Nat
deriving DecidableEq, Repr

def Range.size (r : Range) : Nat := r.stop - r.start

/-- The start of the range with a given index, if `total` is divided by `count`. -/
def rangeStart (total count index : Nat) : Nat :=
  index * (total / count) + min index (total % count)

/-- Divides `total` into `count` ranges, or into ranges of one if that is fewer. -/
def ranges (total count : Nat) : List Range :=
  let n := min count total
  (List.range n).map fun i => ⟨rangeStart total n i, rangeStart total n (i + 1)⟩

@[simp] theorem length_ranges (total count : Nat) :
    (ranges total count).length = min count total := by
  simp [ranges]

@[simp] theorem ranges_zero_left (count : Nat) : ranges 0 count = [] := by simp [ranges]

@[simp] theorem ranges_zero_right (total : Nat) : ranges total 0 = [] := by simp [ranges]

theorem rangeStart_zero (total count : Nat) : rangeStart total count 0 = 0 := by
  simp [rangeStart]

theorem rangeStart_count (total : Nat) {count : Nat} (h : 0 < count) :
    rangeStart total count count = total := by
  rw [rangeStart, Nat.min_eq_right (Nat.le_of_lt (Nat.mod_lt total h)), Nat.div_add_mod]

end Salvo
