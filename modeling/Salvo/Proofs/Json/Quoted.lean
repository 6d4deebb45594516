import Mathlib.Logic.Function.Basic
import Salvo.Json.Token
import Salvo.Json.Writer

/-!
# Quoted strings

What is written between the quotes of a string is read back as the string, one character after the
other (`unescape_escapeChar`). So strings that differ are written differently, and different keys of an
object stay different in its text.
-/

namespace Salvo.Json

theorem hex4?_hexDigit {n : Nat} (h : n < 32) :
    hex4? '0' '0' (hexDigit (n / 16)) (hexDigit (n % 16)) = some n := by
  have hall : ∀ n : Fin 32, hex4? '0' '0' (hexDigit (n / 16)) (hexDigit (n % 16)) = some n.val := by
    decide
  exact hall ⟨n, h⟩

section Reading

variable (whole : Bool) (done rest : List Char)

theorem unescape_of_hex4?_eq_none {a b c d : Char} (h : hex4? a b c d = none) :
    unescape whole done ('\\' :: 'u' :: a :: b :: c :: d :: rest) = none := by
  by_cases hnext : ∃ e f g i cs, rest = '\\' :: 'u' :: e :: f :: g :: i :: cs
  · obtain ⟨e, f, g, i, cs, rfl⟩ := hnext
    rw [unescape.eq_2, h]
  · rw [unescape.eq_3 _ _ _ _ _ _ _ fun e f g i cs heq => hnext ⟨e, f, g, i, cs, heq⟩, h]

/-- A unit that is no half of a pair stands for a character. The reader also looks at a unit behind it,
but leaves that one to be read again. -/
theorem unescape_unit {a b c d : Char} {n : Nat} (h : hex4? a b c d = some n) (hn : n < 0xD800) :
    unescape whole done ('\\' :: 'u' :: a :: b :: c :: d :: rest) =
      unescape whole (Char.ofNat n :: done) rest := by
  have hhigh : isHighUnit n = false := by
    simp only [isHighUnit, Bool.and_eq_false_iff, decide_eq_false_iff_not]
    omega
  have hlow : isLowUnit n = false := by
    simp only [isLowUnit, Bool.and_eq_false_iff, decide_eq_false_iff_not]
    omega
  by_cases hnext : ∃ e f g i cs, rest = '\\' :: 'u' :: e :: f :: g :: i :: cs
  · obtain ⟨e, f, g, i, cs, rfl⟩ := hnext
    rw [unescape.eq_2, h]
    cases hm : hex4? e f g i with
    | none => exact (unescape_of_hex4?_eq_none whole _ cs hm).symm
    | some m => simp [hhigh, hlow]
  · rw [unescape.eq_3 _ _ _ _ _ _ _ fun e f g i cs heq => hnext ⟨e, f, g, i, cs, heq⟩, h]
    simp [hhigh, hlow]

theorem unescape_letter {c e : Char} (h : escape? c = some e) (hc : c ≠ 'u') :
    unescape whole done ('\\' :: c :: rest) = unescape whole (e :: done) rest := by
  rw [unescape.eq_4, h]
  · intros
    exact hc ‹_›
  · intros
    exact hc ‹_›

theorem unescape_plain {c : Char} (hc : c ≠ '\\') (hlo : ¬ c.toNat < 0x20) :
    unescape whole done (c :: rest) = unescape whole (c :: done) rest := by
  rw [unescape.eq_5]
  · simp [hc, hlo]
  · intros
    exact hc ‹_›
  · intros
    exact hc ‹_›
  · intros
    exact hc ‹_›

theorem unescape_escapeChar (c : Char) :
    unescape whole done (escapeChar c ++ rest) = unescape whole (c :: done) rest := by
  rw [escapeChar.eq_def]
  split
  case h_8 c _ hbackslash _ _ _ _ _ =>
    split
    · rename_i hcontrol
      have hread := hex4?_hexDigit hcontrol
      have hunit := unescape_unit whole done rest hread (by omega)
      rwa [Char.ofNat_toNat] at hunit
    · rename_i hlo
      exact unescape_plain whole done rest hbackslash hlo
  all_goals exact unescape_letter whole done rest rfl (by decide)

end Reading

theorem unescape_flatMap_escapeChar (done cs : List Char) :
    unescape true done (cs.flatMap escapeChar) = some (some (String.ofList (done.reverse ++ cs))) := by
  induction cs generalizing done with
  | nil => rw [List.flatMap_nil, unescape.eq_1, List.append_nil, if_pos rfl]
  | cons c cs ih =>
      rw [List.flatMap_cons, unescape_escapeChar, ih, List.reverse_cons, List.append_assoc,
        List.singleton_append]

theorem quote_injective : Function.Injective quote := by
  intro s t h
  have hwritten : s.toList.flatMap escapeChar = t.toList.flatMap escapeChar := by
    have hlists := congrArg String.toList h
    simpa [quote] using hlists
  have hs := unescape_flatMap_escapeChar [] s.toList
  have ht := unescape_flatMap_escapeChar [] t.toList
  rw [hwritten, ht] at hs
  simpa using hs.symm

end Salvo.Json
