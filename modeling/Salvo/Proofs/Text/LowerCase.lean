import Salvo.Proofs.Text.Words
import Salvo.Text.LetterCase

/-!
# Small characters

No small form of a character is a capital again (`isSmall_of_mem_lowerChar`). The capitals are looked up in
a set of bits, so that one look at the table of runs settles it (`small_forms_clear`). So a text that has
been lower-cased holds only characters that have no other small form (`isSmall_of_mem_lowerAfter`).
-/

namespace Salvo.Text

section Ascii

variable {c : Char}

theorem forall_ascii {P : Char → Prop} (h : ∀ n < 128, P (Char.ofNat n)) (hc : c.toNat < 128) :
    P c := by
  have hchar := h c.toNat hc
  rwa [Char.ofNat_toNat] at hchar

theorem toLower_of_le (h : 128 ≤ c.toNat) : c.toLower = c :=
  toLower_of_not_mem (by omega)

end Ascii

/-- A set of bits: `count` of them, `step` places apart. -/
def bitsFrom (first step : Nat) : Nat → Nat
  | 0 => 0
  | count + 1 => bitsFrom first step count ||| 1 <<< (first + step * count)

theorem testBit_bitsFrom (first step : Nat) {count i : Nat} (h : i < count) :
    (bitsFrom first step count).testBit (first + step * i) = true := by
  induction count with
  | zero => cases h
  | succ count ih =>
      rw [bitsFrom, Nat.testBit_or]
      rcases Nat.lt_succ_iff_lt_or_eq.1 h with hlt | rfl
      · rw [ih hlt, Bool.true_or]
      · rw [Nat.one_shiftLeft, Nat.testBit_two_pow_self, Bool.or_true]

namespace CaseRun

variable {r : CaseRun} {n : Nat}

theorem has_iff : r.has n = true ↔ r.first ≤ n ∧ n ≤ r.last ∧ (n - r.first) % r.step = 0 := by
  simp [has, and_assoc]

def image (r : CaseRun) (n : Nat) : Nat := (n + r.shift).toNat

def bits (r : CaseRun) : Nat := bitsFrom r.first r.step ((r.last - r.first) / r.step + 1)

/-- The small forms of the run's characters as a set of bits. -/
def imageBits (r : CaseRun) : Nat :=
  if r.shift < 0 then r.bits >>> r.shift.natAbs else r.bits <<< r.shift.natAbs

theorem testBit_bits (h : r.has n = true) : r.bits.testBit n = true := by
  obtain ⟨hfirst, hlast, hstep⟩ := has_iff.1 h
  have hplace : r.first + r.step * ((n - r.first) / r.step) = n := by
    rw [Nat.mul_div_cancel' (Nat.dvd_of_mod_eq_zero hstep), Nat.add_sub_cancel' hfirst]
  have hcount : (n - r.first) / r.step < (r.last - r.first) / r.step + 1 :=
    Nat.lt_succ_of_le (Nat.div_le_div_right (Nat.sub_le_sub_right hlast _))
  have hbit := testBit_bitsFrom r.first r.step hcount
  rwa [hplace] at hbit

theorem testBit_imageBits (h : r.has n = true) (hpos : 0 ≤ n + r.shift) :
    r.imageBits.testBit (r.image n) = true := by
  rw [imageBits]
  split
  · have hplace : r.shift.natAbs + r.image n = n := by
      rw [image]
      omega
    rw [Nat.testBit_shiftRight, hplace, testBit_bits h]
  · have hplace : r.image n - r.shift.natAbs = n ∧ r.shift.natAbs ≤ r.image n := by
      rw [image]
      omega
    rw [Nat.testBit_shiftLeft, hplace.1, testBit_bits h, Bool.and_true]
    exact decide_eq_true hplace.2

end CaseRun

def capitals : List CaseRun := ⟨65, 90, 1, 32⟩ :: ⟨0x130, 0x130, 1, 0⟩ :: caseRuns

/-- The capitals as a set of bits. Looking a number up in it takes one step, and not one for each run. -/
def capitalBits : Nat := capitals.foldr (fun q bits => bits ||| q.bits) 0

theorem testBit_capitalBits {q : CaseRun} {n : Nat} (hq : q ∈ capitals) (h : q.has n = true) :
    capitalBits.testBit n = true := by
  rw [capitalBits]
  generalize capitals = qs at hq
  induction qs with
  | nil => cases hq
  | cons r rs ih =>
      rw [List.foldr_cons, Nat.testBit_or]
      rcases List.mem_cons.1 hq with rfl | hrs
      · rw [CaseRun.testBit_bits h, Bool.or_true]
      · rw [ih hrs, Bool.true_or]

section SmallForms

variable {c d : Char} {cs : List Char}

def IsSmall (c : Char) : Prop := lowerChar c = [c]

instance (c : Char) : Decidable (IsSmall c) := by unfold IsSmall; infer_instance

/-- Small forms that come from no run: the parts of the dotted I and the two small sigmas. The first one
stands for numbers of no character. -/
def specialForms : List Char := ['\x00', 'i', '\u0307', 'ς', 'σ']

/-- No small form is a capital: not in ASCII, not a special one and not what a run leads to. -/
theorem small_forms_clear :
    (∀ n < 128, capitalBits.testBit (Char.ofNat n).toLower.toNat = false) ∧
      (specialForms.all fun c => !capitalBits.testBit c.toNat) = true ∧
      (caseRuns.all fun r => r.imageBits &&& capitalBits == 0) = true ∧ ¬ IsSmall 'Σ' := by
  decide +kernel

theorem isSmall_of_clear (h : capitalBits.testBit c.toNat = false) : IsSmall c := by
  have hcapitals : ∀ q ∈ capitals, q.has c.toNat = false := fun q hq => by
    refine Bool.eq_false_iff.2 fun hhas => ?_
    rw [testBit_capitalBits hq hhas] at h
    cases h
  simp only [capitals, List.forall_mem_cons] at hcapitals
  obtain ⟨hascii, hdotted, hruns⟩ := hcapitals
  have hnone : caseRuns.find? (·.has c.toNat) = none :=
    List.find?_eq_none.2 fun q hq => by simp [hruns q hq]
  have hlower : c.toLower = c := by
    refine toLower_of_not_mem fun hmem => ?_
    rw [CaseRun.has_iff.2 ⟨hmem.1, hmem.2, Nat.mod_one _⟩] at hascii
    cases hascii
  have hne : c.toNat ≠ 0x130 := by
    intro heq
    rw [heq] at hdotted
    cases hdotted
  simp only [IsSmall, lowerChar, hlower, if_neg hne, hnone, ite_self]

theorem isSmall_toLower_of_lt (h : c.toNat < 128) : IsSmall c.toLower := by
  obtain ⟨hascii, -⟩ := small_forms_clear
  exact forall_ascii (P := fun c => IsSmall c.toLower) (fun n hn => isSmall_of_clear (hascii n hn)) h

theorem isSmall_of_mem_specialForms (h : c ∈ specialForms) : IsSmall c := by
  obtain ⟨-, hspecial, -⟩ := small_forms_clear
  exact isSmall_of_clear (by simpa using List.all_eq_true.1 hspecial c h)

theorem isSmall_image {r : CaseRun} {n : Nat} (hr : r ∈ caseRuns) (hn : r.has n = true) :
    IsSmall (Char.ofNat (r.image n)) := by
  obtain ⟨-, -, hruns, -⟩ := small_forms_clear
  have hzero : IsSmall '\x00' := isSmall_of_mem_specialForms List.mem_cons_self
  by_cases hvalid : (r.image n).isValidChar
  · have htoNat : (Char.ofNat (r.image n)).toNat = r.image n := by
      rw [Char.ofNat, dif_pos hvalid]
      rfl
    rcases Int.lt_or_le (n + r.shift) 0 with hneg | hpos
    · rw [CaseRun.image, Int.toNat_of_nonpos (Int.le_of_lt hneg)]
      exact hzero
    · have hclear := eq_of_beq (List.all_eq_true.1 hruns r hr)
      have hbit := congrArg (·.testBit (r.image n)) hclear
      rw [Nat.testBit_and, CaseRun.testBit_imageBits hn hpos, Bool.true_and, Nat.zero_testBit] at hbit
      exact isSmall_of_clear (htoNat.symm ▸ hbit)
  · rw [Char.ofNat, dif_neg hvalid]
    exact hzero

theorem isSmall_of_mem_lowerChar (h : d ∈ lowerChar c) : IsSmall d := by
  rw [lowerChar] at h
  split at h
  · rename_i hlt
    rw [List.mem_singleton.1 h]
    exact isSmall_toLower_of_lt hlt
  · rename_i hlt
    split at h
    · refine isSmall_of_mem_specialForms ?_
      simp only [List.mem_cons, List.not_mem_nil, or_false] at h
      rcases h with rfl | rfl <;> simp [specialForms]
    · rename_i hdotted
      split at h
      · rename_i r hfind
        have hhas : r.has c.toNat = true := List.find?_some (p := fun q : CaseRun => q.has c.toNat) hfind
        rw [List.mem_singleton.1 h]
        exact isSmall_image (List.mem_of_find?_eq_some hfind) hhas
      · rename_i hnone
        rw [List.mem_singleton.1 h]
        simp only [IsSmall, lowerChar, if_neg hlt, if_neg hdotted, hnone]

theorem IsSmall.ne_sigma (h : IsSmall c) : c ≠ 'Σ' := by
  rintro rfl
  obtain ⟨-, -, -, hsigma⟩ := small_forms_clear
  exact hsigma h

theorem isSmall_of_mem_lowerAfter {before : List Char} (h : d ∈ lowerAfter before cs) : IsSmall d := by
  induction cs generalizing before with
  | nil => cases h
  | cons c cs ih =>
      rw [lowerAfter] at h
      rcases List.mem_append.1 h with h | h
      · split at h
        · split at h
          · rw [List.mem_singleton.1 h]
            exact isSmall_of_mem_specialForms (by simp [specialForms])
          · rw [List.mem_singleton.1 h]
            exact isSmall_of_mem_specialForms (by simp [specialForms])
        · exact isSmall_of_mem_lowerChar h
      · exact ih h

end SmallForms

end Salvo.Text
