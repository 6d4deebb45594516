import Mathlib.Data.FinEnum
import Mathlib.Data.UInt
import Mathlib.Dynamics.PeriodicPts.Defs
import Salvo.Dice.Generator
import Salvo.Proofs.Dice.Throws

/-!
# The period of the generator

Scrambling mixes a state with its own upper bits and multiplies it by units, and all of that can be
undone: a word tells the state that it was made from (`bijective_scramble`). The distance between two
states is a unit too, so that counting up by it meets each of the 2⁶⁴ states once before the first one
comes again. So do the words that are drawn (`draw_full_period`).
-/

namespace Salvo

open scoped UInt64.CommRing

section XorShift

def xorShift (n word : UInt64) : UInt64 := word ^^^ (word >>> n)

theorem xorShift_xor (n u v : UInt64) : xorShift n (u ^^^ v) = xorShift n u ^^^ xorShift n v := by
  rw [xorShift, xorShift, xorShift, UInt64.shiftRight_xor]
  ac_rfl

theorem eq_zero_of_shiftRight_eq {n word : UInt64} (hn : 0 < n.toNat % 64) (h : word >>> n = word) :
    word = 0 := by
  by_contra hne
  have hpos : 0 < word.toNat := Nat.pos_of_ne_zero fun hzero => hne (UInt64.toNat_inj.1 hzero)
  have hlt : (word >>> n).toNat < word.toNat := by
    rw [UInt64.toNat_shiftRight, Nat.shiftRight_eq_div_pow]
    exact Nat.div_lt_self hpos (Nat.one_lt_two_pow (Nat.ne_of_gt hn))
  exact Nat.ne_of_lt hlt (congrArg UInt64.toNat h)

theorem xorShift_injective {n : UInt64} (hn : 0 < n.toNat % 64) : Function.Injective (xorShift n) := by
  intro u v h
  have hdiff : xorShift n (u ^^^ v) = 0 := by rw [xorShift_xor, h, UInt64.xor_self]
  have hshift : u ^^^ v = (u ^^^ v) >>> n := UInt64.xor_eq_zero_iff.1 hdiff
  exact UInt64.xor_eq_zero_iff.1 (eq_zero_of_shiftRight_eq hn hshift.symm)

end XorShift

namespace Generator

section Scramble

theorem injective_scramble : Function.Injective scramble := by
  have hfirst : IsUnit (0xbf58476d1ce4e5b9 : UInt64) := .of_mul_eq_one 0x96de1b173f119089 (by decide)
  have hsecond : IsUnit (0x94d049bb133111eb : UInt64) := .of_mul_eq_one 0x319642b2d24d8ec3 (by decide)
  have hinner := hfirst.mul_left_injective.comp (xorShift_injective (n := 30) (by decide))
  have houter := hsecond.mul_left_injective.comp (xorShift_injective (n := 27) (by decide))
  exact (xorShift_injective (n := 31) (by decide)).comp (houter.comp hinner)

theorem bijective_scramble : Function.Bijective scramble :=
  Finite.injective_iff_bijective.1 injective_scramble

theorem eq_of_state_eq {g h : Generator} (heq : g.state = h.state) : g = h := by
  cases g
  cases h
  exact congrArg Generator.mk heq

theorem bijective_next : Function.Bijective next := by
  constructor
  · intro g h heq
    have hstate : g.state + increment = h.state + increment := injective_scramble heq
    exact eq_of_state_eq (add_right_cancel hstate)
  · intro word
    obtain ⟨state, rfl⟩ := bijective_scramble.2 word
    refine ⟨⟨state - increment⟩, congrArg scramble ?_⟩
    exact sub_add_cancel state increment

end Scramble

section Draws

def draw : StateM Generator UInt64 := fun g => (g.next, g.advance)

def word (g : Generator) (k : Nat) : UInt64 := (advance^[k] g).next

theorem state_iterate_advance (g : Generator) (k : Nat) :
    (advance^[k] g).state = g.state + UInt64.ofNat k * increment := by
  induction k with
  | zero =>
      change g.state = g.state + 0 * increment
      rw [zero_mul, add_zero]
  | succ k ih =>
      rw [Function.iterate_succ_apply', UInt64.ofNat_add]
      change (advance^[k] g).state + increment = g.state + (UInt64.ofNat k + 1) * increment
      rw [ih, add_mul, one_mul, add_assoc]

theorem run_collect_draw (g : Generator) (k : Nat) :
    (collect draw k).run g = ((List.range k).map g.word, advance^[k] g) := by
  induction k generalizing g with
  | zero => rfl
  | succ k ih =>
      have hword : g.word ∘ Nat.succ = g.advance.word := by
        funext i
        rw [Function.comp_apply, word, word, Function.iterate_succ_apply]
      rw [run_collect_succ, List.range_succ_eq_map, List.map_cons, List.map_map, hword,
        Function.iterate_succ_apply]
      change (g.next :: ((collect draw k).run g.advance).1, ((collect draw k).run g.advance).2) = _
      rw [ih g.advance]
      rfl

theorem drawn_eq (g : Generator) (k : Nat) :
    ((collect draw k).run g).1 = (List.range k).map g.word :=
  congrArg Prod.fst (run_collect_draw g k)

end Draws

section Period

theorem isUnit_increment : IsUnit increment := .of_mul_eq_one 0xf1de83e19937733d (by decide)

theorem ofNat_eq_ofNat_iff {i j : Nat} : UInt64.ofNat i = UInt64.ofNat j ↔ i ≡ j [MOD wordCount] := by
  rw [← UInt64.toNat_inj, UInt64.toNat_ofNat', UInt64.toNat_ofNat']
  rfl

/-- The states come again after 2⁶⁴ steps and not before. -/
theorem iterate_advance_eq_iff {g : Generator} {i j : Nat} :
    advance^[i] g = advance^[j] g ↔ i ≡ j [MOD wordCount] := by
  have hstate : advance^[i] g = advance^[j] g ↔ (advance^[i] g).state = (advance^[j] g).state :=
    ⟨congrArg state, eq_of_state_eq⟩
  rw [hstate, state_iterate_advance, state_iterate_advance, add_right_inj,
    isUnit_increment.mul_left_injective.eq_iff, ofNat_eq_ofNat_iff]

theorem minimalPeriod_advance (g : Generator) : Function.minimalPeriod advance g = wordCount := by
  refine Nat.dvd_antisymm ?_ ?_
  · refine Function.IsPeriodicPt.minimalPeriod_dvd ?_
    exact iterate_advance_eq_iff.2 (Nat.modEq_zero_iff_dvd.2 (Nat.dvd_refl wordCount))
  · have hperiod := Function.iterate_minimalPeriod (f := advance) (x := g)
    exact Nat.modEq_zero_iff_dvd.1 (iterate_advance_eq_iff.1 hperiod)

theorem word_eq_word_iff {g : Generator} {i j : Nat} : g.word i = g.word j ↔ i ≡ j [MOD wordCount] := by
  rw [word, word, bijective_next.1.eq_iff, iterate_advance_eq_iff]

/-- Words at the same place differ, since the states there are as far apart as the first ones. -/
theorem word_eq_word_iff_eq {g h : Generator} (k : Nat) : g.word k = h.word k ↔ g = h := by
  constructor
  · intro heq
    have hstate := congrArg state (bijective_next.1 heq)
    rw [state_iterate_advance, state_iterate_advance] at hstate
    exact eq_of_state_eq (add_right_cancel hstate)
  · intro heq
    rw [heq]

/-- From every state on, each word comes up. -/
theorem exists_word_eq (g : Generator) (w : UInt64) : ∃ k < wordCount, g.word k = w := by
  obtain ⟨h, rfl⟩ := bijective_next.2 w
  obtain ⟨inverse, hinverse⟩ := isUnit_increment.exists_left_inv
  refine ⟨((h.state - g.state) * inverse).toNat, UInt64.toNat_lt _, congrArg next ?_⟩
  refine eq_of_state_eq ?_
  rw [state_iterate_advance, UInt64.ofNat_toNat, mul_assoc, hinverse, mul_one, add_sub_cancel]

theorem nodup_map_word (g : Generator) : ((List.range wordCount).map g.word).Nodup := by
  refine List.nodup_range.map_on fun i hi j hj heq => ?_
  have hmod := word_eq_word_iff.1 heq
  exact hmod.eq_of_lt_of_lt (List.mem_range.1 hi) (List.mem_range.1 hj)

/-- The generator has the full period. From every seed, `k` draws move it on by `k` times the
increment, and it takes 2⁶⁴ draws to get back. In as many draws, wherever they begin, no word is drawn
twice and every word is drawn. What is drawn tells the state it is drawn from, and generators with
different seeds never draw the same word at the same place. -/
theorem draw_full_period (seed : UInt64) :
    (∀ k, ((collect draw k).run (ofSeed seed)).2.state = seed + UInt64.ofNat k * increment) ∧
      Function.minimalPeriod advance (ofSeed seed) = wordCount ∧
      (∀ k, ((collect draw wordCount).run ((collect draw k).run (ofSeed seed)).2).1.Nodup ∧
        ∀ w, w ∈ ((collect draw wordCount).run ((collect draw k).run (ofSeed seed)).2).1) ∧
      Function.Bijective (fun g : Generator => (draw.run g).1) ∧
      ∀ other, other ≠ seed → ∀ k, List.Forall₂ (· ≠ ·)
        ((collect draw k).run (ofSeed seed)).1 ((collect draw k).run (ofSeed other)).1 := by
  refine ⟨fun k => ?_, minimalPeriod_advance _, fun k => ⟨?_, fun w => ?_⟩, bijective_next,
    fun other hother k => ?_⟩
  · rw [run_collect_draw]
    exact state_iterate_advance (ofSeed seed) k
  · rw [drawn_eq]
    exact nodup_map_word _
  · rw [drawn_eq]
    obtain ⟨i, hi, rfl⟩ := exists_word_eq ((collect draw k).run (ofSeed seed)).2 w
    exact List.mem_map_of_mem (List.mem_range.2 hi)
  · rw [drawn_eq, drawn_eq, List.forall₂_map_left_iff, List.forall₂_map_right_iff, List.forall₂_same]
    intro i _ heq
    have hseed := congrArg state ((word_eq_word_iff_eq i).1 heq)
    exact hother hseed.symm

end Period

end Generator

end Salvo
