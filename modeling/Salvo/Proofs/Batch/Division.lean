import Mathlib.Algebra.Group.Action.Defs
import Mathlib.Algebra.Order.BigOperators.Group.List
import Mathlib.Algebra.Order.Ring.Nat
import Mathlib.Data.List.Chain
import Salvo.Proofs.Batch.Sizes

/-!
# The division of a batch

A batch is divided by going through the sizes of its chunks, each of which is the quotient or one more:
a chunk starts where the one before it stops. That the sizes add up to the batch makes it a division,
and that they get smaller by at most one makes it the only one into that many chunks (`ranges_divide`).
No sum on the way exceeds the batch, so registers that can hold its size can hold them all.
-/

namespace Salvo

section Layout

/-- Ranges of given sizes, each of which starts where the one before it stops. -/
def rangesFrom (start : Nat) : List Nat → List Range
  | [] => []
  | size :: sizes => ⟨start, start + size⟩ :: rangesFrom (start + size) sizes

def Range.holds (r : Range) (index : Nat) : Bool := r.start ≤ index && index < r.stop

variable (start : Nat) (sizes : List Nat)

theorem rangesFrom_append_singleton (n : Nat) :
    rangesFrom start (sizes ++ [n]) =
      rangesFrom start sizes ++ [⟨start + sizes.sum, start + sizes.sum + n⟩] := by
  induction sizes generalizing start with
  | nil => rfl
  | cons size sizes ih =>
      rw [List.cons_append, rangesFrom, ih, rangesFrom, List.cons_append, List.sum_cons,
        Nat.add_assoc start]

theorem map_size_rangesFrom : (rangesFrom start sizes).map Range.size = sizes := by
  induction sizes generalizing start with
  | nil => rfl
  | cons size sizes ih =>
      rw [rangesFrom, List.map_cons, ih, Range.size, Nat.add_sub_cancel_left]

theorem start_head?_rangesFrom : ∀ r ∈ (rangesFrom start sizes).head?, r.start = start := by
  cases sizes with
  | nil => exact fun _ h => nomatch h
  | cons size sizes => exact fun _ h => Option.some.inj h ▸ rfl

theorem stop_getLast?_rangesFrom :
    ∀ r ∈ (rangesFrom start sizes).getLast?, r.stop = start + sizes.sum := by
  induction sizes using List.reverseRecOn with
  | nil => exact fun _ h => nomatch h
  | append_singleton sizes n _ =>
      rw [rangesFrom_append_singleton, List.getLast?_concat, List.sum_append, List.sum_singleton,
        ← Nat.add_assoc]
      exact fun _ h => Option.some.inj h ▸ rfl

theorem isChain_rangesFrom : (rangesFrom start sizes).IsChain fun r s => r.stop = s.start := by
  induction sizes generalizing start with
  | nil => exact .nil
  | cons size sizes ih =>
      rw [rangesFrom, List.isChain_cons]
      exact ⟨fun s hs => (start_head?_rangesFrom _ sizes s hs).symm, ih (start + size)⟩

/-- Each number from the start up to the end of the last range is in one of them. -/
theorem countP_holds_rangesFrom (index : Nat) :
    (rangesFrom start sizes).countP (·.holds index) =
      if start ≤ index ∧ index < start + sizes.sum then 1 else 0 := by
  induction sizes generalizing start with
  | nil => simp [rangesFrom]
  | cons size sizes ih =>
      rw [rangesFrom, List.countP_cons, ih, List.sum_cons]
      simp only [Range.holds, Bool.and_eq_true, decide_eq_true_eq]
      split_ifs <;> omega

theorem eq_rangesFrom {rs : List Range} (hle : ∀ r ∈ rs, r.start ≤ r.stop)
    (hstart : ∀ r ∈ rs.head?, r.start = start) (hchain : rs.IsChain fun r s => r.stop = s.start) :
    rs = rangesFrom start (rs.map Range.size) := by
  induction rs generalizing start with
  | nil => rfl
  | cons r rs ih =>
      obtain ⟨hnext, hrest⟩ := List.isChain_cons.1 hchain
      have hr : r.start = start := hstart r rfl
      have hstop : start + r.size = r.stop := by
        rw [← hr, Range.size, Nat.add_sub_cancel' (hle r List.mem_cons_self)]
      have htail := ih r.stop (fun s hs => hle s (List.mem_cons_of_mem r hs))
        fun s hs => (hnext s hs).symm
      rw [List.map_cons, rangesFrom, hstop, ← htail hrest, ← hr]

end Layout

section Balance

/-- Sizes that never increase and differ by at most one. -/
structure Balanced (sizes : List Nat) : Prop where
  nonincreasing : sizes.Pairwise (· ≥ ·)
  near : ∀ m ∈ sizes, ∀ n ∈ sizes, m ≤ n + 1

theorem Balanced.tail {n : Nat} {sizes : List Nat} (h : Balanced (n :: sizes)) : Balanced sizes :=
  ⟨h.nonincreasing.tail, fun m hm k hk =>
    h.near m (List.mem_cons_of_mem n hm) k (List.mem_cons_of_mem n hk)⟩

/-- Of two balanced ways to share out a sum, neither begins with the larger size. -/
theorem Balanced.head_le {m n : Nat} {sizes others : List Nat} (hm : Balanced (m :: sizes))
    (hn : Balanced (n :: others)) (hlength : sizes.length = others.length)
    (hsum : (m :: sizes).sum = (n :: others).sum) : m ≤ n := by
  by_contra hlt
  have hupper : others.sum ≤ others.length * n := by
    have hle := List.sum_le_card_nsmul others n (List.pairwise_cons.1 hn.nonincreasing).1
    rwa [smul_eq_mul] at hle
  have hlower : sizes.length * n ≤ sizes.sum := by
    have hle := List.card_nsmul_le_sum sizes n fun k hk => by
      have hnear := hm.near m List.mem_cons_self k (List.mem_cons_of_mem m hk)
      omega
    rwa [smul_eq_mul] at hle
  rw [List.sum_cons, List.sum_cons] at hsum
  rw [hlength] at hlower
  omega

theorem Balanced.eq {sizes others : List Nat} (h : Balanced sizes) (h' : Balanced others)
    (hlength : sizes.length = others.length) (hsum : sizes.sum = others.sum) : sizes = others := by
  induction sizes generalizing others with
  | nil => exact (List.length_eq_zero_iff.1 hlength.symm).symm
  | cons m sizes ih =>
      cases others with
      | nil => cases hlength
      | cons n others =>
          have hrest : sizes.length = others.length := Nat.succ.inj hlength
          have hhead : m = n :=
            Nat.le_antisymm (h.head_le h' hrest hsum) (h'.head_le h hrest.symm hsum.symm)
          subst hhead
          rw [List.sum_cons, List.sum_cons] at hsum
          rw [ih h.tail h'.tail hrest (Nat.add_left_cancel hsum)]

/-- The size of the range with a given index, if `total` is divided by `count`. -/
def rangeSize (total count index : Nat) : Nat :=
  total / count + if index < total % count then 1 else 0

def rangeSizes (total count : Nat) : List Nat :=
  (List.range (min count total)).map (rangeSize total (min count total))

theorem balanced_rangeSizes (total count : Nat) : Balanced (rangeSizes total count) := by
  constructor
  · refine List.pairwise_map.2 (List.pairwise_lt_range.imp fun {i j} hij => ?_)
    simp only [rangeSize]
    split_ifs <;> omega
  · intro m hm n hn
    obtain ⟨i, -, rfl⟩ := List.mem_map.1 hm
    obtain ⟨j, -, rfl⟩ := List.mem_map.1 hn
    simp only [rangeSize]
    split_ifs <;> omega

theorem pos_of_mem_rangeSizes {total count n : Nat} (h : n ∈ rangeSizes total count) : 0 < n := by
  obtain ⟨i, hi, rfl⟩ := List.mem_map.1 h
  have hcount : 0 < min count total := Nat.zero_lt_of_lt (List.mem_range.1 hi)
  exact Nat.add_pos_left (Nat.div_pos (Nat.min_le_right count total) hcount) _

end Balance

section Ranges

variable (total count : Nat)

theorem rangeStart_succ (index : Nat) :
    rangeStart total count (index + 1) = rangeStart total count index + rangeSize total count index := by
  rw [rangeStart, rangeStart, rangeSize, Nat.succ_mul]
  split_ifs <;> omega

theorem sum_map_rangeSize (n : Nat) :
    ((List.range n).map (rangeSize total count)).sum = rangeStart total count n := by
  rw [← sum_sizes_eq_rangeStart]
  refine congrArg List.sum (List.map_congr_left fun index _ => ?_)
  rw [rangeStart_succ, Nat.add_sub_cancel_left]

theorem map_range_eq_rangesFrom (n : Nat) :
    ((List.range n).map fun i => Range.mk (rangeStart total count i) (rangeStart total count (i + 1))) =
      rangesFrom 0 ((List.range n).map (rangeSize total count)) := by
  induction n with
  | zero => rfl
  | succ n ih =>
      rw [List.range_succ, List.map_append, List.map_append, List.map_singleton, List.map_singleton,
        rangesFrom_append_singleton, ih, sum_map_rangeSize, Nat.zero_add, rangeStart_succ]

theorem ranges_eq_rangesFrom : ranges total count = rangesFrom 0 (rangeSizes total count) :=
  map_range_eq_rangesFrom total (min count total) (min count total)

theorem map_size_ranges : (ranges total count).map Range.size = rangeSizes total count := by
  rw [ranges_eq_rangesFrom, map_size_rangesFrom]

theorem sum_rangeSizes_le : (rangeSizes total count).sum ≤ total := by
  rw [← map_size_ranges]
  exact sum_size_ranges_le total count

theorem sum_rangeSizes {count : Nat} (h : 0 < count) : (rangeSizes total count).sum = total := by
  rw [← map_size_ranges, sum_size_ranges total h]

theorem ranges_eq_nil_iff : ranges total count = [] ↔ total = 0 ∨ count = 0 := by
  rw [← List.length_eq_zero_iff, length_ranges]
  omega

theorem countP_holds_ranges {count : Nat} (h : 0 < count) (index : Nat) :
    (ranges total count).countP (·.holds index) = if index < total then 1 else 0 := by
  rw [ranges_eq_rangesFrom, countP_holds_rangesFrom, sum_rangeSizes total h]
  simp

end Ranges

section Evenness

variable {total count : Nat}

/-- Ranges that divide the numbers below a total evenly, in order. -/
structure EvenDivision (total : Nat) (rs : List Range) : Prop where
  start_lt_stop : ∀ r ∈ rs, r.start < r.stop
  start_head? : ∀ r ∈ rs.head?, r.start = 0
  contiguous : rs.IsChain fun r s => r.stop = s.start
  stop_getLast? : ∀ r ∈ rs.getLast?, r.stop = total
  balanced : Balanced (rs.map Range.size)

theorem EvenDivision.eq_rangesFrom {rs : List Range} (h : EvenDivision total rs) :
    rs = rangesFrom 0 (rs.map Range.size) :=
  Salvo.eq_rangesFrom 0 (fun r hr => Nat.le_of_lt (h.start_lt_stop r hr)) h.start_head? h.contiguous

theorem EvenDivision.sum_size {rs : List Range} (h : EvenDivision total rs) (hne : rs ≠ []) :
    (rs.map Range.size).sum = total := by
  have hlast : rs.getLast hne ∈ rs.getLast? := List.getLast?_eq_getLast_of_ne_nil hne
  have hstop := stop_getLast?_rangesFrom 0 (rs.map Range.size) (rs.getLast hne)
  rw [← h.eq_rangesFrom, Nat.zero_add] at hstop
  rw [← hstop hlast, h.stop_getLast? _ hlast]

theorem EvenDivision.eq {rs others : List Range} (h : EvenDivision total rs)
    (h' : EvenDivision total others) (hlength : rs.length = others.length) : rs = others := by
  by_cases hnil : rs = []
  · subst hnil
    exact (List.length_eq_zero_iff.1 hlength.symm).symm
  · have hnil' : others ≠ [] := by
      rwa [← List.length_pos_iff, ← hlength, List.length_pos_iff]
    have hsizes : rs.map Range.size = others.map Range.size := by
      refine h.balanced.eq h'.balanced ?_ ?_
      · rw [List.length_map, List.length_map, hlength]
      · rw [h.sum_size hnil, h'.sum_size hnil']
    rw [h.eq_rangesFrom, hsizes, ← h'.eq_rangesFrom]

theorem evenDivision_ranges (total count : Nat) : EvenDivision total (ranges total count) := by
  constructor
  · intro r hr
    have hsize := List.mem_map_of_mem (f := Range.size) hr
    rw [map_size_ranges] at hsize
    exact Nat.lt_of_sub_pos (pos_of_mem_rangeSizes hsize)
  · rw [ranges_eq_rangesFrom]
    exact start_head?_rangesFrom 0 _
  · rw [ranges_eq_rangesFrom]
    exact isChain_rangesFrom 0 _
  · intro r hr
    have hcount : 0 < count := by
      have hlength := List.length_pos_of_mem (List.mem_of_getLast? hr)
      rw [length_ranges] at hlength
      omega
    rw [ranges_eq_rangesFrom] at hr
    rw [stop_getLast?_rangesFrom 0 _ r hr, sum_rangeSizes total hcount, Nat.zero_add]
  · rw [map_size_ranges]
    exact balanced_rangeSizes total count

end Evenness

section Registers

variable {w : Nat}

/-- Ranges that registers of a given width lay out. What exceeds a register is lost. -/
def rangesFromInRegisters (start : BitVec w) : List (BitVec w) → List Range
  | [] => []
  | size :: sizes => ⟨start.toNat, (start + size).toNat⟩ :: rangesFromInRegisters (start + size) sizes

def rangeSizeInRegisters (total count : BitVec w) (index : Nat) : BitVec w :=
  total / count + if BitVec.ofNat w index < total % count then 1#w else 0#w

/-- The division of a total as registers compute it. -/
def rangesInRegisters (total count : BitVec w) : List Range :=
  let n := if count ≤ total then count else total
  rangesFromInRegisters 0#w ((List.range n.toNat).map (rangeSizeInRegisters total n))

theorem rangesFromInRegisters_eq {start : BitVec w} {sizes : List (BitVec w)}
    (h : start.toNat + (sizes.map BitVec.toNat).sum < 2 ^ w) :
    rangesFromInRegisters start sizes = rangesFrom start.toNat (sizes.map BitVec.toNat) := by
  induction sizes generalizing start with
  | nil => rfl
  | cons size sizes ih =>
      rw [List.map_cons, List.sum_cons, ← Nat.add_assoc] at h
      have hstop : (start + size).toNat = start.toNat + size.toNat :=
        BitVec.toNat_add_of_lt (Nat.lt_of_le_of_lt (Nat.le_add_right _ _) h)
      rw [← hstop] at h
      rw [List.map_cons, rangesFromInRegisters, rangesFrom, ih h, hstop]

theorem toNat_rangeSizeInRegisters {total count : BitVec w} {index : Nat} (h : index < count.toNat) :
    (rangeSizeInRegisters total count index).toNat = rangeSize total.toNat count.toNat index := by
  have hindex : index % 2 ^ w = index := Nat.mod_eq_of_lt (Nat.lt_trans h count.isLt)
  have hextra : BitVec.ofNat w index < total % count ↔ index < total.toNat % count.toNat := by
    rw [BitVec.lt_def, BitVec.toNat_ofNat, BitVec.toNat_umod, hindex]
  rw [rangeSizeInRegisters, rangeSize]
  by_cases hlt : index < total.toNat % count.toNat
  · have hle : total.toNat / count.toNat + total.toNat % count.toNat ≤ total.toNat := by
      have hdiv := Nat.div_add_mod' total.toNat count.toNat
      have hmul := Nat.le_mul_of_pos_right (total.toNat / count.toNat) (Nat.zero_lt_of_lt h)
      omega
    have htotal := total.isLt
    have hword : 1 < 2 ^ w := by omega
    have hone : (1#w).toNat = 1 := Nat.mod_eq_of_lt hword
    have hfits : (total / count).toNat + (1#w).toNat < 2 ^ w := by
      rw [BitVec.toNat_udiv, hone]
      omega
    rw [if_pos (hextra.2 hlt), if_pos hlt, BitVec.toNat_add_of_lt hfits, BitVec.toNat_udiv, hone]
  · rw [if_neg (mt hextra.1 hlt), if_neg hlt, Nat.add_zero, ← BitVec.toNat_udiv]
    exact congrArg BitVec.toNat (BitVec.add_zero _)

theorem rangesInRegisters_eq (total count : BitVec w) :
    rangesInRegisters total count = ranges total.toNat count.toNat := by
  have hn : (if count ≤ total then count else total).toNat = min count.toNat total.toNat := by
    rw [apply_ite BitVec.toNat, Nat.min_def]
    rfl
  simp only [rangesInRegisters]
  generalize (if count ≤ total then count else total) = n at hn ⊢
  have hsizes : ((List.range n.toNat).map (rangeSizeInRegisters total n)).map BitVec.toNat =
      rangeSizes total.toNat count.toNat := by
    rw [rangeSizes, ← hn, List.map_map]
    exact List.map_congr_left fun i hi => toNat_rangeSizeInRegisters (List.mem_range.1 hi)
  have hzero : (0#w).toNat = 0 := Nat.zero_mod (2 ^ w)
  have hfits : (0#w).toNat + (rangeSizes total.toNat count.toNat).sum < 2 ^ w := by
    rw [hzero, Nat.zero_add]
    exact Nat.lt_of_le_of_lt (sum_rangeSizes_le _ _) total.isLt
  rw [← hsizes] at hfits
  rw [rangesFromInRegisters_eq hfits, hsizes, hzero, ranges_eq_rangesFrom]

end Registers

/-- A batch is divided exactly, and in the one way that is even. There are no ranges if there are no
trials or no chunks to divide them into; else there are as many as chunks, or as trials if these are
fewer. They follow each other from zero to the total, none is empty, and their sizes, which never
increase, differ by at most one. So every number below the total is in one range and no other number is
in any. Going through the sizes leads to the same ranges, and as no sum on the way exceeds the total,
also in registers, whatever their width. -/
theorem ranges_divide (total count : Nat) :
    (ranges total count = [] ↔ total = 0 ∨ count = 0) ∧
      (ranges total count).length = min count total ∧
      EvenDivision total (ranges total count) ∧
      (∀ rs, EvenDivision total rs → rs.length = min count total → rs = ranges total count) ∧
      (0 < count → ∀ index,
        (ranges total count).countP (·.holds index) = if index < total then 1 else 0) ∧
      ranges total count = rangesFrom 0 (rangeSizes total count) ∧
      (∀ sum ∈ (rangeSizes total count).partialSums, sum ≤ total) ∧
      ∀ (w : Nat) (t c : BitVec w), t.toNat = total → c.toNat = count →
        rangesInRegisters t c = ranges total count := by
  refine ⟨ranges_eq_nil_iff total count, length_ranges total count, evenDivision_ranges total count,
    fun rs hrs hlength => ?_, fun hcount index => countP_holds_ranges total hcount index,
    ranges_eq_rangesFrom total count, fun sum hsum => ?_, fun w t c ht hc => ?_⟩
  · exact hrs.eq (evenDivision_ranges total count) (hlength.trans (length_ranges total count).symm)
  · exact Nat.le_trans (le_sum_of_mem_partialSums hsum) (sum_rangeSizes_le total count)
  · rw [rangesInRegisters_eq, ht, hc]

example : ranges 10 3 = [⟨0, 4⟩, ⟨4, 7⟩, ⟨7, 10⟩] := by decide

end Salvo
