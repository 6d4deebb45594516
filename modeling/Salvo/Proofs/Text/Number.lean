import Mathlib.Data.List.TakeWhile
import Salvo.Text.Number

/-!
# Numbers that are written and read

A written number holds nothing but digits and a minus sign in front, so whatever readers remove from
the text of a number, blanks or plus signs, is not in there. It reads back if it is in bounds.
-/

namespace Salvo.Text

section Characters

def IsNumeral (c : Char) : Prop := c = '-' ∨ c.isDigit = true

theorem toNat_of_isDigit {c : Char} (h : c.isDigit = true) : 48 ≤ c.toNat ∧ c.toNat ≤ 57 := by
  simpa [Char.isDigit, UInt32.le_iff_toNat_le] using h

theorem IsNumeral.ne {c d : Char} (h : IsNumeral c) (hminus : d ≠ '-') (hdigit : d.isDigit = false) :
    c ≠ d := by
  rintro rfl
  rcases h with rfl | hc
  · exact hminus rfl
  · rw [hc] at hdigit
    cases hdigit

theorem IsNumeral.isBlank {c : Char} (h : IsNumeral c) : isBlank c = false := by
  rcases h with rfl | hc
  · rfl
  · obtain ⟨hlo, hhi⟩ := toNat_of_isDigit hc
    simp only [Text.isBlank, Bool.or_eq_false_iff, Bool.and_eq_false_iff, decide_eq_false_iff_not,
      beq_eq_false_iff_ne]
    omega

theorem IsNumeral.toUpper {c : Char} (h : IsNumeral c) : c.toUpper = c := by
  rcases h with rfl | hc
  · rfl
  · obtain ⟨hlo, hhi⟩ := toNat_of_isDigit hc
    have hlower : ¬ (c.val ≥ 'a'.val ∧ c.val ≤ 'z'.val) := by
      rintro ⟨ha, -⟩
      have hle : 97 ≤ c.toNat := UInt32.le_iff_toNat_le.1 ha
      omega
    exact dif_neg hlower

theorem toLower_of_not_mem {c : Char} (h : ¬ (65 ≤ c.toNat ∧ c.toNat ≤ 90)) : c.toLower = c := by
  have hupper : ¬ (c.val ≥ 'A'.val ∧ c.val ≤ 'Z'.val) := by
    rintro ⟨ha, hz⟩
    exact h ⟨UInt32.le_iff_toNat_le.1 ha, UInt32.le_iff_toNat_le.1 hz⟩
  exact dif_neg hupper

theorem IsNumeral.toLower {c : Char} (h : IsNumeral c) : c.toLower = c := by
  rcases h with rfl | hc
  · rfl
  · have hdigit := toNat_of_isDigit hc
    exact toLower_of_not_mem (by omega)

end Characters

section Written

theorem intText_of_nonneg {n : Int} (h : 0 ≤ n) : intText n = natText n.natAbs :=
  if_neg (Int.not_lt.2 h)

theorem intText_of_neg {n : Int} (h : n < 0) : intText n = '-' :: natText n.natAbs :=
  if_pos h

theorem isDigit_of_mem_natText {n : Nat} {c : Char} (h : c ∈ natText n) : c.isDigit = true :=
  List.all_eq_true.1 (all_isDigit_natText n) c h

theorem isNumeral_of_mem_intText {n : Int} {c : Char} (h : c ∈ intText n) : IsNumeral c := by
  by_cases hn : n < 0
  · rw [intText_of_neg hn] at h
    rcases List.mem_cons.1 h with rfl | h
    · exact .inl rfl
    · exact .inr (isDigit_of_mem_natText h)
  · rw [intText_of_nonneg (Int.not_lt.1 hn)] at h
    exact .inr (isDigit_of_mem_natText h)

theorem notMem_natText {c : Char} (h : c.isDigit = false) (n : Nat) : c ∉ natText n := by
  intro hmem
  rw [isDigit_of_mem_natText hmem] at h
  cases h

theorem notMem_intText {c : Char} (hminus : c ≠ '-') (h : c.isDigit = false) (n : Int) :
    c ∉ intText n :=
  fun hmem => (isNumeral_of_mem_intText hmem).ne hminus h rfl

theorem exists_mem_intText_isDigit (n : Int) : ∃ c ∈ intText n, c.isDigit = true := by
  obtain ⟨c, hc⟩ := List.exists_mem_of_ne_nil _ (natText_ne_nil n.natAbs)
  refine ⟨c, ?_, isDigit_of_mem_natText hc⟩
  by_cases hn : n < 0
  · rw [intText_of_neg hn]
    exact List.mem_cons_of_mem _ hc
  · rwa [intText_of_nonneg (Int.not_lt.1 hn)]

theorem intText_ne_nil (n : Int) : intText n ≠ [] := by
  obtain ⟨c, hc, -⟩ := exists_mem_intText_isDigit n
  exact List.ne_nil_of_mem hc

theorem map_toLower_intText (n : Int) : (intText n).map Char.toLower = intText n :=
  (List.map_congr_left fun _ hc => (isNumeral_of_mem_intText hc).toLower).trans (List.map_id _)

end Written

section Removed

variable {cs : List Char}

theorem trimEnd_of_forall (h : ∀ c ∈ cs, isBlank c = false) : trimEnd cs = cs := by
  have hend : cs.reverse.dropWhile isBlank = cs.reverse := by
    refine List.dropWhile_eq_self_iff.2 fun hpos => ?_
    rw [h _ (List.mem_reverse.1 (List.getElem_mem hpos))]
    exact Bool.false_ne_true
  rw [trimEnd, hend, List.reverse_reverse]

theorem trim_of_forall (h : ∀ c ∈ cs, isBlank c = false) : trim cs = cs := by
  have hstart : trimStart cs = cs :=
    List.dropWhile_eq_self_iff.2 fun hpos => by simp [h _ (List.getElem_mem hpos)]
  rw [trim, hstart, trimEnd_of_forall h]

theorem withoutBlanks_of_forall (h : ∀ c ∈ cs, isBlank c = false) : withoutBlanks cs = cs :=
  List.filter_eq_self.2 fun c hc => by simp [h c hc]

theorem dropPlus_of_notMem (h : '+' ∉ cs) : dropPlus cs = cs := by
  cases cs with
  | nil => rfl
  | cons c cs =>
      have hc : c ≠ '+' := fun heq => h (heq ▸ List.mem_cons_self)
      simp [dropPlus, hc]

theorem dropLastPlus_of_notMem (h : '+' ∉ cs) : dropLastPlus cs = cs :=
  if_neg fun hlast => h (List.mem_of_getLast? hlast)

theorem isBlank_of_mem_intText {n : Int} : ∀ c ∈ intText n, isBlank c = false :=
  fun _ hc => (isNumeral_of_mem_intText hc).isBlank

theorem isBlank_of_mem_natText {n : Nat} : ∀ c ∈ natText n, isBlank c = false :=
  fun _ hc => IsNumeral.isBlank (.inr (isDigit_of_mem_natText hc))

theorem isBlank_of_mem_toString {n : Nat} {c : Char} (h : c ∈ (toString n).toList) :
    isBlank c = false := by
  rw [Nat.toString_eq_repr, Nat.repr_eq_ofList_toDigits, String.toList_ofList] at h
  exact IsNumeral.isBlank (.inr (Nat.isDigit_of_mem_toDigits (by decide) (by decide) h))

theorem plus_notMem_intText (n : Int) : '+' ∉ intText n := notMem_intText (by decide) (by decide) n

end Removed

theorem readInt?_intText (lo hi n : Int) :
    readInt? lo hi (intText n) = if lo ≤ n ∧ n ≤ hi then some n else none := by
  have hfilter : (some n).filter (fun n => decide (lo ≤ n) && decide (n ≤ hi)) =
      if lo ≤ n ∧ n ≤ hi then some n else none := by
    simp [Option.filter]
  rw [← hfilter]
  by_cases hn : n < 0
  · have hvalue : -(n.natAbs : Int) = n := by omega
    rw [intText_of_neg hn, readInt?]
    simp only [digits?_natText]
    exact congrArg (fun m => (some m).filter _) hvalue
  · have hvalue : (n.natAbs : Int) = n := by omega
    have hminus : ∀ ds, natText n.natAbs ≠ '-' :: ds := fun ds heq =>
      notMem_natText (by decide) n.natAbs (heq ▸ List.mem_cons_self)
    rw [intText_of_nonneg (Int.not_lt.1 hn), readInt?,
      dropPlus_of_notMem (notMem_natText (by decide) _), digits?_natText]
    · exact congrArg (fun m => (some m).filter _) hvalue
    · exact hminus

end Salvo.Text
