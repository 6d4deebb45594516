import Salvo.Decimal.Style
import Salvo.Proofs.Text.Number

/-!
# Written doubles hold no blanks

Whatever its style, the text of a double is made of digits, signs, points, the mark of an exponent and the
letters of what is not a finite number. No blank is among these, so the text is one word, and one cell
where blanks divide cells.
-/

namespace Salvo

def Text.Blankless (cs : List Char) : Prop := ∀ c ∈ cs, isBlank c = false

namespace Text.Blankless

variable {c : Char} {cs ds : List Char}

theorem nil : Blankless [] := nofun

theorem cons (hc : isBlank c = false) (hcs : Blankless cs) : Blankless (c :: cs) :=
  List.forall_mem_cons.2 ⟨hc, hcs⟩

theorem append (hcs : Blankless cs) (hds : Blankless ds) : Blankless (cs ++ ds) :=
  List.forall_mem_append.2 ⟨hcs, hds⟩

theorem take (hcs : Blankless cs) (n : Nat) : Blankless (cs.take n) :=
  fun c hc => hcs c (List.mem_of_mem_take hc)

theorem drop (hcs : Blankless cs) (n : Nat) : Blankless (cs.drop n) :=
  fun c hc => hcs c (List.mem_of_mem_drop hc)

theorem replicate (hc : isBlank c = false) (n : Nat) : Blankless (List.replicate n c) := by
  intro d hd
  rw [List.eq_of_mem_replicate hd]
  exact hc

theorem natText (n : Nat) : Blankless (Text.natText n) := isBlank_of_mem_natText

theorem intText (n : Int) : Blankless (Text.intText n) := isBlank_of_mem_intText

end Text.Blankless

namespace Decimal

open Text (Blankless)

theorem blankless_positional (d : Digits) (keepsPoint : Bool) : Blankless (positional d keepsPoint) := by
  have hdigits := Blankless.natText d.digits
  have hzeros (n : Nat) : Blankless (List.replicate n '0') := .replicate rfl n
  rw [positional]
  split
  · exact .cons rfl (.cons rfl ((hzeros _).append hdigits))
  · split
    · refine (hdigits.append (hzeros _)).append ?_
      split
      · exact .cons rfl (.cons rfl .nil)
      · exact .nil
    · exact (hdigits.take _).append (.cons rfl (hdigits.drop _))

theorem blankless_scientific (d : Digits) (signsExponent : Bool) :
    Blankless (scientific d signsExponent) := by
  have hdigits := Blankless.natText d.digits
  have hpower : Blankless ('e' :: ((if signsExponent && 0 ≤ d.point - 1 then ['+'] else []) ++
      Text.intText (d.point - 1))) := by
    refine .cons rfl (.append ?_ (.intText _))
    split
    · exact .cons rfl .nil
    · exact .nil
  rw [scientific]
  split
  · exact hpower
  · rename_i c heq
    rw [heq] at hdigits
    exact .cons (hdigits c List.mem_cons_self) hpower
  · rename_i c cs heq
    rw [heq] at hdigits
    obtain ⟨hc, hcs⟩ := List.forall_mem_cons.1 hdigits
    exact .cons hc (.cons rfl (.append hcs hpower))

theorem Style.blankless_digitsText (s : Style) (d : Digits) : Blankless (s.digitsText d) := by
  rw [digitsText]
  split
  · split
    · exact .cons rfl (.cons rfl (.cons rfl .nil))
    · exact .cons rfl .nil
  · split
    · exact blankless_positional _ _
    · split
      · exact blankless_positional _ _
      · exact blankless_scientific _ _

theorem blankless_signed {body : List Char} (h : Blankless body) (negative : Bool) :
    Blankless (String.ofList (if negative then '-' :: body else body)).toList := by
  rw [String.toList_ofList]
  split
  · exact .cons rfl h
  · exact h

theorem blankless_nonFinite (x : Float) :
    Blankless (if x.isNaN then "NaN" else if signBit x then "-inf" else "inf").toList := by
  split
  · exact .cons rfl (.cons rfl (.cons rfl .nil))
  · split
    · exact .cons rfl (.cons rfl (.cons rfl (.cons rfl .nil)))
    · exact .cons rfl (.cons rfl (.cons rfl .nil))

theorem Style.blankless_text (s : Style) (x : Float) : Blankless (s.text x).toList := by
  rw [text]
  split
  · exact blankless_signed (s.blankless_digitsText _) _
  · exact blankless_nonFinite x

theorem blankless_fixedText (places : Nat) (x : Float) : Blankless (fixedText places x).toList := by
  rw [fixedText]
  split
  · refine blankless_signed ?_ _
    have hdigits (n k : Nat) : Blankless (List.replicate k '0' ++ Text.natText n) :=
      (Blankless.replicate rfl k).append (.natText n)
    exact ((hdigits _ _).take _).append (.cons rfl ((hdigits _ _).drop _))
  · exact blankless_nonFinite x

end Decimal

end Salvo
