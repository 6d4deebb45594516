import Mathlib.Algebra.Order.Floor.Div
import Mathlib.Data.FinEnum
import Mathlib.Data.Set.Card
import Mathlib.Data.UInt
import Mathlib.Order.Interval.Finset.Nat
import Salvo.Proofs.Dice.Sources

/-!
# The words of a face

The faces of a die divide the 2⁶⁴ words among each other in order: a face stands behind the words of
the faces below it, and those of the first `n` faces are the words below `n` parts of 2⁶⁴, rounded up.
So the shares of two faces differ by one word at most (`roll_evenly`). Registers of 128 and 32 bits hold
every number on the way from a word to its face.
-/

namespace Salvo.Generator

section Shares

/-- The number of words that stand for the first `n` faces. -/
def wordsUpTo (sides n : Nat) : Nat := (n * wordCount) ⌈/⌉ sides

variable {sides n : Nat}

theorem wordsUpTo_le_iff (h : 1 ≤ sides) {m : Nat} :
    wordsUpTo sides n ≤ m ↔ n * wordCount ≤ sides * m := ceilDiv_le_iff_le_mul h

theorem face_le_iff (h : 1 ≤ sides) {word : UInt64} :
    face sides word ≤ n ↔ word.toNat < wordsUpTo sides n := by
  have hcount : 0 < wordCount := by decide
  calc face sides word ≤ n
      ↔ word.toNat * sides / wordCount < n := Nat.succ_le_iff
    _ ↔ word.toNat * sides < n * wordCount := Nat.div_lt_iff_lt_mul hcount
    _ ↔ ¬ n * wordCount ≤ sides * word.toNat := by rw [Nat.not_le, Nat.mul_comm]
    _ ↔ word.toNat < wordsUpTo sides n := by rw [← wordsUpTo_le_iff h, Nat.not_le]

theorem face_eq_iff (h : 1 ≤ sides) {word : UInt64} :
    face sides word = n + 1 ↔
      wordsUpTo sides n ≤ word.toNat ∧ word.toNat < wordsUpTo sides (n + 1) := by
  rw [← face_le_iff h, ← Nat.not_lt, ← face_le_iff h]
  omega

theorem wordsUpTo_le (h : 1 ≤ sides) (hn : n ≤ sides) : wordsUpTo sides n ≤ wordCount :=
  (wordsUpTo_le_iff h).2 (Nat.mul_le_mul_right wordCount hn)

/-- Each face adds its part of the words, rounded in one of the two ways. -/
theorem wordsUpTo_succ_mem (h : 1 ≤ sides) (n : Nat) :
    wordsUpTo sides n + wordCount / sides ≤ wordsUpTo sides (n + 1) ∧
      wordsUpTo sides (n + 1) ≤ wordsUpTo sides n + wordCount ⌈/⌉ sides := by
  have hpart : (n + 1) * wordCount = n * wordCount + wordCount := Nat.succ_mul n wordCount
  have hnow := (wordsUpTo_le_iff (n := n) h).1 (Nat.le_refl _)
  have hnext := (wordsUpTo_le_iff (n := n + 1) h).1 (Nat.le_refl _)
  have hwhole : sides * (wordCount / sides) ≤ wordCount := Nat.mul_div_le wordCount sides
  constructor
  · have hle : wordsUpTo sides n ≤ wordsUpTo sides (n + 1) - wordCount / sides := by
      refine (wordsUpTo_le_iff h).2 ?_
      rw [Nat.mul_sub]
      omega
    have hfew : wordCount / sides ≤ wordsUpTo sides (n + 1) := by
      refine Nat.le_of_mul_le_mul_left ?_ h
      omega
    omega
  · have hround : wordCount ≤ sides * (wordCount ⌈/⌉ sides) :=
      (ceilDiv_le_iff_le_mul h).1 (Nat.le_refl _)
    refine (wordsUpTo_le_iff h).2 ?_
    rw [Nat.mul_add]
    omega

theorem ceilDiv_le_div_add_one (h : 1 ≤ sides) : wordCount ⌈/⌉ sides ≤ wordCount / sides + 1 := by
  refine (ceilDiv_le_iff_le_mul h).2 ?_
  exact Nat.le_of_lt (Nat.lt_mul_div_succ wordCount h)

theorem ncard_words {a b : Nat} (h : b ≤ wordCount) :
    {word : UInt64 | a ≤ word.toNat ∧ word.toNat < b}.ncard = b - a := by
  have himage : UInt64.toNat '' {word : UInt64 | a ≤ word.toNat ∧ word.toNat < b} = Set.Ico a b := by
    ext m
    constructor
    · rintro ⟨word, hword, rfl⟩
      exact hword
    · intro hm
      have hvalue : (UInt64.ofNat m).toNat = m := UInt64.toNat_ofNat_of_lt' (Nat.lt_of_lt_of_le hm.2 h)
      refine ⟨UInt64.ofNat m, ?_, hvalue⟩
      rwa [Set.mem_ofPred_eq, hvalue]
  have hinjective : Function.Injective UInt64.toNat := fun _ _ => UInt64.toNat_inj.1
  rw [← Set.ncard_image_of_injective _ hinjective, himage, ← Finset.coe_Ico, Set.ncard_coe_finset,
    Nat.card_Ico]

theorem ncard_face_eq (h : 1 ≤ sides) (hone : 1 ≤ n) (hn : n ≤ sides) :
    {word : UInt64 | face sides word = n}.ncard = wordCount / sides ∨
      {word : UInt64 | face sides word = n}.ncard = wordCount ⌈/⌉ sides := by
  obtain ⟨m, rfl⟩ := Nat.exists_eq_add_of_le' hone
  obtain ⟨hlo, hhi⟩ := wordsUpTo_succ_mem h m
  have hround := ceilDiv_le_div_add_one h
  have hcount : {word : UInt64 | face sides word = m + 1}.ncard =
      wordsUpTo sides (m + 1) - wordsUpTo sides m := by
    simp only [face_eq_iff h]
    exact ncard_words (wordsUpTo_le h hn)
  rw [hcount]
  omega

end Shares

section Registers

/-- The face of a word as registers compute it: the product takes up to 128 bits, of which the upper 64
are kept and cut down to 32. -/
def faceInRegisters (sides : UInt32) (word : UInt64) : UInt32 :=
  .ofBitVec (((word.toBitVec.setWidth 128 * sides.toBitVec.setWidth 128) >>> 64).setWidth 32) + 1

variable {sides : UInt32}

theorem product_lt (sides : UInt32) (word : UInt64) : word.toNat * sides.toNat < 2 ^ 128 :=
  calc word.toNat * sides.toNat < 2 ^ 64 * 2 ^ 32 := Nat.mul_lt_mul'' word.toNat_lt sides.toNat_lt
    _ < 2 ^ 128 := by decide

theorem toNat_faceInRegisters (h : 0 < sides) (word : UInt64) :
    (faceInRegisters sides word).toNat = face sides.toNat word := by
  have hsides : 1 ≤ sides.toNat := UInt32.lt_iff_toNat_lt.1 h
  have hword : word.toNat < 2 ^ 128 := Nat.lt_trans word.toNat_lt (by decide)
  have hwide : sides.toNat < 2 ^ 128 := Nat.lt_trans sides.toNat_lt (by decide)
  have hface : word.toNat * sides.toNat / wordCount + 1 < 2 ^ 32 :=
    Nat.lt_of_le_of_lt (face_le hsides word) sides.toNat_lt
  have hupper : word.toNat * sides.toNat / wordCount < 2 ^ 32 := Nat.lt_of_succ_lt hface
  have hproduct : (((word.toBitVec.setWidth 128 * sides.toBitVec.setWidth 128) >>> 64).setWidth 32).toNat =
      word.toNat * sides.toNat / wordCount := by
    rw [BitVec.toNat_setWidth, BitVec.toNat_ushiftRight, BitVec.toNat_mul, BitVec.toNat_setWidth,
      BitVec.toNat_setWidth, UInt64.toNat_toBitVec, UInt32.toNat_toBitVec, Nat.mod_eq_of_lt hword,
      Nat.mod_eq_of_lt hwide, Nat.mod_eq_of_lt (product_lt sides word), Nat.shiftRight_eq_div_pow]
    exact Nat.mod_eq_of_lt hupper
  rw [faceInRegisters, UInt32.toNat_add, UInt32.toNat_ofBitVec, hproduct]
  exact Nat.mod_eq_of_lt hface

end Registers

theorem face_mono (sides : Nat) {u v : UInt64} (h : u ≤ v) : face sides u ≤ face sides v := by
  have hscaled : u.toNat * sides ≤ v.toNat * sides :=
    Nat.mul_le_mul_right sides (UInt64.le_iff_toNat_le.1 h)
  exact Nat.succ_le_succ (Nat.div_le_div_right hscaled)

/-- Dice are fair as far as words can be. For a die with sides, a generator in any state shows one of
its faces, and no number on the way from the word to the face is too large for its register. The face
does not get lower when the word gets larger, and each face has as many of the 2⁶⁴ words as any other,
up to rounding. -/
theorem roll_evenly {sides : UInt32} (h : 0 < sides) :
    (∀ g : Generator, (DiceSource.roll sides.toNat).run g =
        ((faceInRegisters sides g.next).toNat, g.advance)) ∧
      (∀ word, 1 ≤ (faceInRegisters sides word).toNat ∧
        (faceInRegisters sides word).toNat ≤ sides.toNat) ∧
      (∀ word : UInt64, word.toNat * sides.toNat < 2 ^ 128 ∧
        word.toNat * sides.toNat / wordCount + 1 < 2 ^ 32 ∧
        (faceInRegisters sides word).toNat = word.toNat * sides.toNat / wordCount + 1) ∧
      (∀ u v : UInt64, u ≤ v → faceInRegisters sides u ≤ faceInRegisters sides v) ∧
      ∀ n, 1 ≤ n → n ≤ sides.toNat →
        {word | (faceInRegisters sides word).toNat = n}.ncard = wordCount / sides.toNat ∨
          {word | (faceInRegisters sides word).toNat = n}.ncard = wordCount ⌈/⌉ sides.toNat := by
  have hsides : 1 ≤ sides.toNat := UInt32.lt_iff_toNat_lt.1 h
  have hregisters := toNat_faceInRegisters h
  refine ⟨fun g => ?_, fun word => ?_, fun word => ⟨product_lt sides word, ?_, hregisters word⟩,
    fun u v huv => ?_, fun n hone hn => ?_⟩
  · rw [roll_of_pos hsides, hregisters]
  · rw [hregisters]
    exact ⟨Nat.le_add_left 1 _, face_le hsides word⟩
  · exact Nat.lt_of_le_of_lt (face_le hsides word) sides.toNat_lt
  · rw [UInt32.le_iff_toNat_le, hregisters, hregisters]
    exact face_mono sides.toNat huv
  · simp only [hregisters]
    exact ncard_face_eq hsides hone hn

/-- Six does not divide 2⁶⁴, so some faces of a die have one word more than others. -/
theorem roll_evenly_six :
    (0 : UInt32) < 6 ∧ ∀ n, 1 ≤ n → n ≤ 6 →
      {word | (faceInRegisters 6 word).toNat = n}.ncard = 3074457345618258602 ∨
        {word | (faceInRegisters 6 word).toNat = n}.ncard = 3074457345618258603 := by
  have hsix : (0 : UInt32) < 6 := by decide
  have hdown : wordCount / (6 : UInt32).toNat = 3074457345618258602 := by decide
  have hup : wordCount ⌈/⌉ (6 : UInt32).toNat = 3074457345618258603 := by decide
  obtain ⟨-, -, -, -, hshares⟩ := roll_evenly hsix
  rw [hdown, hup] at hshares
  exact ⟨hsix, hshares⟩

end Salvo.Generator
