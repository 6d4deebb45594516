import Mathlib.Data.Nat.Digits.Defs
import Salvo.Proofs.Text.Number

/-!
# What digits denote

The grammar of numbers, apart from how they are read: `Digits` says which number a run of digits denotes,
by place value; `Unsigned` and `Signed` allow for one sign in front. A reader accepts exactly the texts of
its grammar whose number is in bounds (`readNat?_eq_some_iff`, `readInt?_eq_some_iff`).
-/

namespace Salvo.Text

/-- A run of decimal digits, and the number that it denotes. -/
structure Digits (cs : List Char) (n : Nat) : Prop where
  ne_nil : cs ≠ []
  isDigit : ∀ c ∈ cs, c.isDigit = true
  value_eq : Nat.ofDigits 10 (cs.reverse.map digitValue) = n

/-- Digits, with or without a plus sign in front. -/
inductive Unsigned : List Char → Nat → Prop
  | bare {ds : List Char} {n : Nat} : Digits ds n → Unsigned ds n
  | plus {ds : List Char} {n : Nat} : Digits ds n → Unsigned ('+' :: ds) n

inductive Signed : List Char → Int → Prop
  | bare {ds : List Char} {n : Nat} : Digits ds n → Signed ds n
  | plus {ds : List Char} {n : Nat} : Digits ds n → Signed ('+' :: ds) n
  | minus {ds : List Char} {n : Nat} : Digits ds n → Signed ('-' :: ds) (-n)

section Digits

variable {cs : List Char} {n : Nat}

theorem digitsValue_eq_ofDigits (cs : List Char) :
    digitsValue 0 cs = Nat.ofDigits 10 (cs.reverse.map digitValue) := by
  rw [digitsValue, Nat.ofDigits_eq_foldr, List.foldr_map, List.foldr_reverse]
  simp only [Nat.cast_id, Nat.add_comm]

theorem digits?_eq_some_iff : digits? cs = some n ↔ Digits cs n := by
  have hguard : (cs.isEmpty || !cs.all Char.isDigit) = false ↔
      cs ≠ [] ∧ ∀ c ∈ cs, c.isDigit = true := by
    simp
  rw [digits?, digitsValue_eq_ofDigits]
  cases h : cs.isEmpty || !cs.all Char.isDigit with
  | true =>
      refine iff_of_false (Option.some_ne_none n).symm fun hdigits => ?_
      rw [hguard.2 ⟨hdigits.ne_nil, hdigits.isDigit⟩] at h
      cases h
  | false =>
      have hfound := hguard.1 h
      exact ⟨fun hvalue => ⟨hfound.1, hfound.2, Option.some.inj hvalue⟩,
        fun hdigits => congrArg some hdigits.value_eq⟩

theorem digits_natText (n : Nat) : Digits (natText n) n := digits?_eq_some_iff.1 (digits?_natText n)

theorem Digits.isNumeral (h : Digits cs n) : ∀ c ∈ cs, IsNumeral c := fun c hc => .inr (h.isDigit c hc)

theorem Digits.head_ne {c : Char} (h : Digits (c :: cs) n) {d : Char} (hd : d.isDigit = false) :
    c ≠ d := by
  rintro rfl
  rw [h.isDigit c List.mem_cons_self] at hd
  cases hd

end Digits

section Signs

variable {cs : List Char}

def IsNumberChar (c : Char) : Prop := IsNumeral c ∨ c = '+'

theorem Unsigned.isNumberChar {n : Nat} (h : Unsigned cs n) : ∀ c ∈ cs, IsNumberChar c := by
  rcases h with h | h
  · exact fun c hc => .inl (h.isNumeral c hc)
  · exact List.forall_mem_cons.2 ⟨.inr rfl, fun c hc => .inl (h.isNumeral c hc)⟩

theorem Signed.isNumberChar {n : Int} (h : Signed cs n) : ∀ c ∈ cs, IsNumberChar c := by
  rcases h with h | h | h
  · exact Unsigned.isNumberChar (.bare h)
  · exact Unsigned.isNumberChar (.plus h)
  · exact List.forall_mem_cons.2 ⟨.inl (.inl rfl), fun c hc => .inl (h.isNumeral c hc)⟩

theorem signed_intText (n : Int) : Signed (intText n) n := by
  have hdigits := digits_natText n.natAbs
  by_cases hn : n < 0
  · have hread : Signed (intText n) (-(n.natAbs : Int)) := by
      rw [intText_of_neg hn]
      exact .minus hdigits
    rwa [show -(n.natAbs : Int) = n by omega] at hread
  · have hread : Signed (intText n) (n.natAbs : Int) := by
      rw [intText_of_nonneg (Int.not_lt.1 hn)]
      exact .bare hdigits
    rwa [show (n.natAbs : Int) = n by omega] at hread

theorem Unsigned.ne_nil {n : Nat} (h : Unsigned cs n) : cs ≠ [] := by
  rcases h with h | h
  · exact h.ne_nil
  · exact List.cons_ne_nil _ _

theorem Signed.ne_nil {n : Int} (h : Signed cs n) : cs ≠ [] := by
  rcases h with h | h | h
  · exact h.ne_nil
  · exact List.cons_ne_nil _ _
  · exact List.cons_ne_nil _ _

def EndsInDigit (cs : List Char) : Prop := ∃ before c, cs = before ++ [c] ∧ c.isDigit = true

theorem EndsInDigit.append (h : EndsInDigit cs) (ds : List Char) : EndsInDigit (ds ++ cs) := by
  obtain ⟨before, c, rfl, hc⟩ := h
  exact ⟨ds ++ before, c, (List.append_assoc ..).symm, hc⟩

theorem Digits.endsInDigit {n : Nat} (h : Digits cs n) : EndsInDigit cs :=
  ⟨cs.dropLast, cs.getLast h.ne_nil, (List.dropLast_concat_getLast h.ne_nil).symm,
    h.isDigit _ (List.getLast_mem h.ne_nil)⟩

theorem Signed.endsInDigit {n : Int} (h : Signed cs n) : EndsInDigit cs := by
  rcases h with h | h | h
  · exact h.endsInDigit
  · exact h.endsInDigit.append ['+']
  · exact h.endsInDigit.append ['-']

end Signs

section Readers

variable {cs : List Char}

theorem digits?_dropPlus_eq_some_iff {n : Nat} : digits? (dropPlus cs) = some n ↔ Unsigned cs n := by
  rw [digits?_eq_some_iff]
  constructor
  · intro h
    unfold dropPlus at h
    split at h
    · exact .plus h
    · exact .bare h
  · rintro (h | h)
    · rwa [dropPlus_of_notMem fun hplus => absurd (h.isDigit _ hplus) (by decide)]
    · exact h

theorem readNat?_eq_some_iff {bound n : Nat} : readNat? bound cs = some n ↔ Unsigned cs n ∧ n ≤ bound := by
  rw [readNat?, Option.filter_eq_some_iff, digits?_dropPlus_eq_some_iff, decide_eq_true_eq]

theorem readInt?_eq_some_iff {lo hi n : Int} :
    readInt? lo hi cs = some n ↔ Signed cs n ∧ lo ≤ n ∧ n ≤ hi := by
  unfold readInt?
  rw [Option.filter_eq_some_iff, Bool.and_eq_true, decide_eq_true_eq, decide_eq_true_eq]
  refine and_congr_left fun _ => ?_
  constructor
  · intro h
    split at h
    · rename_i ds
      cases hm : digits? ds with
      | none =>
          rw [hm] at h
          cases h
      | some m =>
          rw [hm] at h
          cases h
          exact .minus (digits?_eq_some_iff.1 hm)
    · obtain ⟨m, hm, rfl⟩ := Option.map_eq_some_iff.1 h
      rcases digits?_dropPlus_eq_some_iff.1 hm with hm | hm
      · exact .bare hm
      · exact .plus hm
  · have hunsigned {ds : List Char} {m : Nat} (h : Unsigned ds m) :
        (digits? (dropPlus ds)).map Int.ofNat = some (m : Int) :=
      Option.map_eq_some_iff.2 ⟨m, digits?_dropPlus_eq_some_iff.2 h, rfl⟩
    rintro (h | h | h)
    · split
      · exact absurd rfl (h.head_ne (by decide))
      · exact hunsigned (.bare h)
    · exact hunsigned (.plus h)
    · simp only [digits?_eq_some_iff.2 h]
      rfl

end Readers

end Salvo.Text
