import Mathlib.Tactic.TFAE
import Salvo.Proofs.Dice.Language

/-!
# Dice expressions that are written and read

The text of a dice expression spells it, part by part, and there is nothing in it that compacting would
change. An expression can be written exactly if it can be read from some text, and then it reads back from
its own (`tfae_writable`).
-/

namespace Salvo

namespace DiceExpr

section Parts

/-- The number of dice in front of the `D`; a single die has none. -/
def countText (n : Nat) : List Char := if n = 1 then [] else Text.natText n

theorem counted_countText {n : Nat} (hpos : 1 ≤ n) (hle : n ≤ maxCount) : Counted (countText n) n := by
  rw [countText]
  split
  · rename_i hone
    rw [hone]
    exact .single
  · exact .many (.bare (Text.digits_natText n)) hpos hle

theorem modifierText_cases (n : Int) :
    (n = 0 ∧ modifierText n = []) ∨ (0 < n ∧ modifierText n = '+' :: Text.intText n) ∨
      (n < 0 ∧ modifierText n = '-' :: Text.natText n.natAbs) := by
  rcases Int.lt_trichotomy n 0 with hneg | rfl | hpos
  · refine .inr (.inr ⟨hneg, ?_⟩)
    rw [modifierText, if_neg (Int.ne_of_lt hneg), if_neg (Int.not_lt.2 (Int.le_of_lt hneg)),
      Text.intText_of_neg hneg]
  · exact .inl ⟨rfl, rfl⟩
  · refine .inr (.inl ⟨hpos, ?_⟩)
    rw [modifierText, if_neg (Int.ne_of_gt hpos), if_pos hpos]

theorem modified_modifierText {n : Int} (h : minStat ≤ n ∧ n ≤ maxStat) :
    Modified (modifierText n) n := by
  have hsigned := Text.signed_intText n
  rcases modifierText_cases n with ⟨rfl, htext⟩ | ⟨-, htext⟩ | ⟨hneg, htext⟩ <;> rw [htext]
  · exact .zero
  · -- The plus sign that was written is the one that a number may have in front of its own.
    exact .signed (.plus hsigned) h.1 h.2
  · rw [Text.intText_of_neg hneg] at hsigned
    exact .signed (.bare hsigned) h.1 h.2

theorem isSign_head_modifierText (n : Int) : ∀ c ∈ (modifierText n).head?, isSign c = true := by
  rcases modifierText_cases n with ⟨-, htext⟩ | ⟨-, htext⟩ | ⟨-, htext⟩ <;> rw [htext] <;>
    rintro c ⟨⟩ <;> rfl

end Parts

section RoundTrip

variable {e : DiceExpr}

theorem chars_of_pos (h : 1 ≤ e.count) :
    e.chars = countText e.count ++
      'D' :: (Text.natText e.sides ++ modifierText e.modifier) := by
  have hdice : e.isConstant = false := by
    rw [isConstant, beq_eq_false_iff_ne]
    omega
  rw [chars, hdice]
  rfl

theorem spells_chars (h : e.Writable) : Spells e.chars e := by
  rcases Nat.eq_zero_or_pos e.count with hzero | hpos
  · obtain ⟨-, hsides⟩ := h.1.resolve_right (by omega)
    have hconstant : e = constant e.modifier := by
      cases e
      simp_all [constant]
    rw [hconstant]
    exact .constant (.bare (Text.signed_intText e.modifier)) h.2.1 h.2.2
  · obtain ⟨-, hcount, hsides, hsides'⟩ := h.1.resolve_left (by omega)
    rw [chars_of_pos hpos]
    exact .dice (counted_countText hpos hcount) (Text.digits_natText e.sides) hsides hsides'
      (isSign_head_modifierText e.modifier) (modified_modifierText h.2)

/-- There is nothing to remove from a written expression and nothing to change. -/
theorem compact_chars (h : e.Writable) : compact e.chars = e.chars :=
  compact_of_forall fun c hc =>
    have hdice := (spells_chars h).isDiceChar c hc
    ⟨hdice.isBlank, hdice.toUpper⟩

theorem parse_text (h : e.Writable) : parse e.text = .ok e := by
  rw [parse_eq_ok_iff, text, String.toList_ofList, compact_chars h]
  exact spells_chars h

/-- An expression can be written if and only if it reads back from its own text, and if and only if
some text reads as it. So writing what was read from a text, in whatever form, and reading that again
changes nothing. -/
theorem tfae_writable (e : DiceExpr) :
    [e.Writable, parse e.text = .ok e, ∃ s, parse s = .ok e].TFAE := by
  tfae_have 1 → 2 := parse_text
  tfae_have 2 → 3 := fun h => ⟨e.text, h⟩
  tfae_have 3 → 1 := fun ⟨_, h⟩ => parse_writable h
  tfae_finish

example : (parse " 02d6 + 3 ").toOption.map text = some "2D6+3" := by decide +kernel

end RoundTrip

end DiceExpr

end Salvo
