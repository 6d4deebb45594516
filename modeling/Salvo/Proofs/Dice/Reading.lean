import Salvo.Dice.Parse
import Salvo.Proofs.Text.Number

/-!
# What a text can say about dice

The numbers of a dice expression are read with a bound each, so every expression that is read from a
text can be written (`parse_writable`). A number on its own reads as a constant.
-/

namespace Salvo

theorem Text.readInt?_mem {lo hi n : Int} {cs : List Char} (h : readInt? lo hi cs = some n) :
    lo ≤ n ∧ n ≤ hi := by
  have hbounds := (Option.filter_eq_some_iff.1 h).2
  simpa using hbounds

theorem Text.readNat?_le {bound n : Nat} {cs : List Char} (h : readNat? bound cs = some n) :
    n ≤ bound := by
  have hbound := (Option.filter_eq_some_iff.1 h).2
  simpa using hbound

namespace DiceExpr

theorem writable_constant {n : Int} (h : minStat ≤ n ∧ n ≤ maxStat) : (constant n).Writable :=
  ⟨.inl ⟨rfl, rfl⟩, h⟩

theorem mem_of_positive? {cs : List Char} {n : Nat} (h : positive? cs = some n) :
    1 ≤ n ∧ n ≤ maxCount := by
  obtain ⟨hread, hne⟩ := Option.filter_eq_some_iff.1 h
  have hpos : n ≠ 0 := by simpa using hne
  exact ⟨Nat.pos_of_ne_zero hpos, Text.readNat?_le hread⟩

theorem mem_of_count? {cs : List Char} {n : Nat} (h : count? cs = some n) :
    1 ≤ n ∧ n ≤ maxCount := by
  cases cs with
  | nil =>
      cases h
      decide
  | cons c cs => exact mem_of_positive? h

theorem mem_of_modifier? {cs : List Char} {n : Int} (h : modifier? cs = some n) :
    minStat ≤ n ∧ n ≤ maxStat := by
  cases cs with
  | nil =>
      cases h
      decide
  | cons c cs => exact Text.readInt?_mem h

theorem writable_of_compact? {cs : List Char} {e : DiceExpr} (h : compact? cs = some e) :
    e.Writable := by
  rw [compact?] at h
  split at h
  · obtain ⟨n, hn, rfl⟩ := Option.map_eq_some_iff.1 h
    exact writable_constant (Text.readInt?_mem hn)
  · simp only [dice?, Option.bind_eq_bind, Option.bind_eq_some_iff, Option.pure_def,
      Option.some.injEq] at h
    obtain ⟨count, hcount, sides, hsides, modifier, hmodifier, rfl⟩ := h
    obtain ⟨hcount, hcount'⟩ := mem_of_count? hcount
    obtain ⟨hsides, hsides'⟩ := mem_of_positive? hsides
    exact ⟨.inr ⟨hcount, hcount', hsides, hsides'⟩, mem_of_modifier? hmodifier⟩

theorem parse_writable {s : String} {e : DiceExpr} (h : parse s = .ok e) : e.Writable := by
  rw [parse] at h
  split at h
  · cases h
  · split at h
    · cases h
    · split at h
      · rename_i hread
        cases h
        exact writable_of_compact? hread
      · cases h

theorem compact_of_forall {cs : List Char}
    (h : ∀ c ∈ cs, Text.isBlank c = false ∧ c.toUpper = c) : compact cs = cs := by
  rw [compact, Text.withoutBlanks_of_forall fun c hc => (h c hc).1]
  exact (List.map_congr_left fun c hc => (h c hc).2).trans (List.map_id _)

theorem number?_intText (n : Int) :
    number? (Text.intText n) = if minStat ≤ n ∧ n ≤ maxStat then some n else none := by
  rw [number?, Text.dropPlus_of_notMem (Text.plus_notMem_intText n), Text.readInt?_intText]

theorem parse_intText (n : Int) :
    parse (String.ofList (Text.intText n)) =
      if minStat ≤ n ∧ n ≤ maxStat then .ok (.constant n)
      else .error (.malformed (String.ofList (Text.intText n))) := by
  have hblanks := Text.isBlank_of_mem_intText (n := n)
  have hd : 'D' ∉ Text.intText n := Text.notMem_intText (by decide) (by decide) n
  have hcompact : compact (Text.intText n) = Text.intText n :=
    compact_of_forall fun c hc => ⟨hblanks c hc, (Text.isNumeral_of_mem_intText hc).toUpper⟩
  have hread : compact? (Text.intText n) =
      if minStat ≤ n ∧ n ≤ maxStat then some (constant n) else none := by
    have hnone : (Text.intText n).dropWhile (· != 'D') = [] :=
      List.dropWhile_eq_nil_iff.2 fun c hc => bne_iff_ne.2 fun heq => hd (heq ▸ hc)
    rw [compact?, hnone]
    dsimp only
    rw [number?_intText]
    split <;> rfl
  rw [parse, String.toList_ofList, hcompact, if_neg (Text.intText_ne_nil n),
    List.count_eq_zero_of_not_mem hd, if_neg (Nat.not_lt_zero 1), hread,
    Text.trim_of_forall hblanks]
  by_cases hn : minStat ≤ n ∧ n ≤ maxStat
  · rw [if_pos hn, if_pos hn]
  · rw [if_neg hn, if_neg hn]

end DiceExpr

end Salvo
