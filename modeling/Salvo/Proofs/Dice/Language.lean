import Mathlib.Data.List.Basic
import Salvo.Proofs.Dice.Reading
import Salvo.Proofs.Text.Numerals

/-!
# The language of dice expressions

`Spells` says which texts, without blanks and in capitals, spell which dice expression. The reader accepts
this language and nothing else, and sorts what it refuses into three kinds (`classified_parse`). This holds
for the capitals of all letters, although the reader changes those of ASCII only.
-/

namespace Salvo

namespace DiceExpr

section Characters

variable {c : Char}

def IsDiceChar (c : Char) : Prop := Text.IsNumeral c ∨ c = '+' ∨ c = 'D'

theorem IsDiceChar.isBlank (h : IsDiceChar c) : Text.isBlank c = false := by
  rcases h with hnumeral | rfl | rfl
  · exact hnumeral.isBlank
  · rfl
  · rfl

theorem IsDiceChar.toUpper (h : IsDiceChar c) : c.toUpper = c := by
  rcases h with hnumeral | rfl | rfl
  · exact hnumeral.toUpper
  · rfl
  · rfl

theorem IsDiceChar.toNat_lt (h : IsDiceChar c) : c.toNat < 128 := by
  rcases h with (rfl | hdigit) | rfl | rfl
  · decide
  · have hle := (Text.toNat_of_isDigit hdigit).2
    omega
  · decide
  · decide

theorem isDiceChar_of_isNumberChar (h : Text.IsNumberChar c) : IsDiceChar c :=
  h.imp_right .inl

theorem ne_of_isNumberChar (h : Text.IsNumberChar c) : c ≠ 'D' := by
  rcases h with hnumeral | rfl
  · exact hnumeral.ne (by decide) (by decide)
  · decide

theorem isSign_of_isDigit (h : c.isDigit = true) : isSign c = false := by
  have hnumeral : Text.IsNumeral c := .inr h
  have hplus : c ≠ '+' := hnumeral.ne (by decide) (by decide)
  have hminus : c ≠ '-' := by
    rintro rfl
    cases h
  simp [isSign, hplus, hminus]

end Characters

section Grammar

/-- A number on its own: a plus sign may stand in front of a number that has a sign already. -/
inductive Numeric : List Char → Int → Prop
  | bare {cs : List Char} {n : Int} : Text.Signed cs n → Numeric cs n
  | plus {cs : List Char} {n : Int} : Text.Signed cs n → Numeric ('+' :: cs) n

/-- The number of dice: nothing for a single die, else a number with no sign or a plus sign. -/
inductive Counted : List Char → Nat → Prop
  | single : Counted [] 1
  | many {cs : List Char} {n : Nat} : Text.Unsigned cs n → 1 ≤ n → n ≤ maxCount → Counted cs n

/-- What stands behind the sides: nothing, or a modifier. -/
inductive Modified : List Char → Int → Prop
  | zero : Modified [] 0
  | signed {cs : List Char} {n : Int} : Numeric cs n → minStat ≤ n → n ≤ maxStat → Modified cs n

/-- The texts that spell a dice expression. The sides have no sign; the first sign behind them begins the
modifier. -/
inductive Spells : List Char → DiceExpr → Prop
  | constant {cs : List Char} {n : Int} :
      Numeric cs n → minStat ≤ n → n ≤ maxStat → Spells cs (.constant n)
  | dice {before ds rest : List Char} {count sides : Nat} {modifier : Int} :
      Counted before count → Text.Digits ds sides → 1 ≤ sides → sides ≤ maxCount →
      (∀ c ∈ rest.head?, isSign c = true) → Modified rest modifier →
      Spells (before ++ 'D' :: (ds ++ rest)) ⟨count, sides, modifier⟩

variable {cs : List Char}

theorem Numeric.isNumberChar {n : Int} (h : Numeric cs n) : ∀ c ∈ cs, Text.IsNumberChar c := by
  rcases h with h | h
  · exact h.isNumberChar
  · exact List.forall_mem_cons.2 ⟨.inr rfl, h.isNumberChar⟩

theorem Counted.isNumberChar {n : Nat} (h : Counted cs n) : ∀ c ∈ cs, Text.IsNumberChar c := by
  rcases h with _ | ⟨h, -, -⟩
  · exact List.forall_mem_nil _
  · exact h.isNumberChar

theorem Modified.isNumberChar {n : Int} (h : Modified cs n) : ∀ c ∈ cs, Text.IsNumberChar c := by
  rcases h with _ | ⟨h, -, -⟩
  · exact List.forall_mem_nil _
  · exact h.isNumberChar

theorem Numeric.ne_nil {n : Int} (h : Numeric cs n) : cs ≠ [] := by
  rcases h with h | h
  · exact h.ne_nil
  · exact List.cons_ne_nil _ _

end Grammar

section Readers

variable {cs : List Char}

theorem number?_eq_some_iff {n : Int} :
    number? cs = some n ↔ Numeric cs n ∧ minStat ≤ n ∧ n ≤ maxStat := by
  rw [number?, Text.readInt?_eq_some_iff]
  refine and_congr_left fun _ => ⟨fun h => ?_, fun h => ?_⟩
  · unfold Text.dropPlus at h
    split at h
    · exact .plus h
    · exact .bare h
  · rcases h with (h | h | h) | h
    · rw [Text.dropPlus_of_notMem fun hplus => absurd (h.isDigit _ hplus) (by decide)]
      exact .bare h
    · exact .bare h
    · exact .minus h
    · exact h

theorem positive?_eq_some_iff {n : Nat} :
    positive? cs = some n ↔ Text.Unsigned cs n ∧ 1 ≤ n ∧ n ≤ maxCount := by
  rw [positive?, Option.filter_eq_some_iff, Text.readNat?_eq_some_iff, decide_eq_true_eq,
    Nat.one_le_iff_ne_zero, and_assoc, and_comm (a := n ≤ maxCount)]

theorem count?_eq_some_iff {n : Nat} : count? cs = some n ↔ Counted cs n := by
  constructor
  · intro h
    cases cs with
    | nil =>
        cases h
        exact .single
    | cons c cs =>
        obtain ⟨hread, hpos, hle⟩ := positive?_eq_some_iff.1 h
        exact .many hread hpos hle
  · rintro (_ | ⟨hread, hpos, hle⟩)
    · rfl
    · cases cs with
      | nil => exact absurd rfl hread.ne_nil
      | cons c cs => exact positive?_eq_some_iff.2 ⟨hread, hpos, hle⟩

theorem modifier?_eq_some_iff {n : Int} : modifier? cs = some n ↔ Modified cs n := by
  constructor
  · intro h
    cases cs with
    | nil =>
        cases h
        exact .zero
    | cons c cs =>
        obtain ⟨hread, hlo, hhi⟩ := number?_eq_some_iff.1 h
        exact .signed hread hlo hhi
  · rintro (_ | ⟨hread, hlo, hhi⟩)
    · rfl
    · cases cs with
      | nil => exact absurd rfl hread.ne_nil
      | cons c cs => exact number?_eq_some_iff.2 ⟨hread, hlo, hhi⟩

end Readers

section Spelling

variable {cs : List Char} {e : DiceExpr}

theorem Spells.isDiceChar (h : Spells cs e) : ∀ c ∈ cs, IsDiceChar c := by
  cases h with
  | constant hnumber => exact fun c hc => isDiceChar_of_isNumberChar (hnumber.isNumberChar c hc)
  | dice hcount hsides _ _ _ hmodifier =>
      intro c hc
      simp only [List.mem_append, List.mem_cons] at hc
      rcases hc with hc | rfl | hc | hc
      · exact isDiceChar_of_isNumberChar (hcount.isNumberChar c hc)
      · exact .inr (.inr rfl)
      · exact .inl (hsides.isNumeral c hc)
      · exact isDiceChar_of_isNumberChar (hmodifier.isNumberChar c hc)

theorem Spells.ne_nil (h : Spells cs e) : cs ≠ [] := by
  cases h with
  | constant hnumber => exact hnumber.ne_nil
  | dice => exact List.append_ne_nil_of_right_ne_nil _ (List.cons_ne_nil _ _)

theorem Numeric.endsInDigit {n : Int} (h : Numeric cs n) : Text.EndsInDigit cs := by
  rcases h with h | h
  · exact h.endsInDigit
  · exact h.endsInDigit.append ['+']

theorem Spells.endsInDigit (h : Spells cs e) : Text.EndsInDigit cs := by
  cases h with
  | constant hnumber => exact hnumber.endsInDigit
  | @dice before ds rest _ _ _ _ hsides _ _ _ hmodifier =>
      have hback : Text.EndsInDigit (ds ++ rest) := by
        rcases hmodifier with _ | ⟨hnumber, -, -⟩
        · rw [List.append_nil]
          exact hsides.endsInDigit
        · exact hnumber.endsInDigit.append ds
      exact (hback.append ['D']).append before

theorem notMem_of_isNumberChar (h : ∀ c ∈ cs, Text.IsNumberChar c) : 'D' ∉ cs :=
  fun hmem => ne_of_isNumberChar (h _ hmem) rfl

theorem Spells.count_le_one (h : Spells cs e) : cs.count 'D' ≤ 1 := by
  cases h with
  | constant hnumber =>
      rw [List.count_eq_zero_of_not_mem (notMem_of_isNumberChar hnumber.isNumberChar)]
      exact Nat.zero_le 1
  | dice hcount hsides _ _ _ hmodifier =>
      have hbefore := notMem_of_isNumberChar hcount.isNumberChar
      have hds := notMem_of_isNumberChar fun c hc => .inl (hsides.isNumeral c hc)
      have hrest := notMem_of_isNumberChar hmodifier.isNumberChar
      rw [List.count_append, List.count_cons_self, List.count_append,
        List.count_eq_zero_of_not_mem hbefore, List.count_eq_zero_of_not_mem hds,
        List.count_eq_zero_of_not_mem hrest]

theorem cut_append {before : List Char} (h : 'D' ∉ before) (after : List Char) :
    (before ++ 'D' :: after).takeWhile (· != 'D') = before ∧
      (before ++ 'D' :: after).dropWhile (· != 'D') = 'D' :: after := by
  have hbefore : ∀ c ∈ before, (c != 'D') = true := fun c hc => bne_iff_ne.2 fun heq => h (heq ▸ hc)
  rw [List.takeWhile_append_of_pos hbefore, List.dropWhile_append_of_pos hbefore]
  exact ⟨List.append_nil _, rfl⟩

theorem cut_sides {ds rest : List Char} {n : Nat} (hds : Text.Digits ds n)
    (hrest : ∀ c ∈ rest.head?, isSign c = true) :
    (ds ++ rest).takeWhile (fun c => !isSign c) = ds ∧
      (ds ++ rest).dropWhile (fun c => !isSign c) = rest := by
  have hdigits : ∀ c ∈ ds, (!isSign c) = true := by
    intro c hc
    rw [isSign_of_isDigit (hds.isDigit c hc)]
    rfl
  rw [List.takeWhile_append_of_pos hdigits, List.dropWhile_append_of_pos hdigits]
  cases rest with
  | nil => exact ⟨List.append_nil _, rfl⟩
  | cons c rest =>
      have hsign : (!isSign c) = false := by
        rw [hrest c rfl]
        rfl
      rw [List.takeWhile_cons_of_neg (by simp [hsign]), List.dropWhile_cons_of_neg (by simp [hsign])]
      exact ⟨List.append_nil _, rfl⟩

theorem spells_of_dice? {before after : List Char} (h : dice? before after = some e) :
    Spells (before ++ 'D' :: after) e := by
  simp only [dice?, Option.bind_eq_bind, Option.bind_eq_some_iff, Option.pure_def,
    Option.some.injEq] at h
  obtain ⟨count, hcount, sides, hsides, modifier, hmodifier, rfl⟩ := h
  obtain ⟨hread, hpos, hle⟩ := positive?_eq_some_iff.1 hsides
  rw [← List.takeWhile_append_dropWhile (p := fun c => !isSign c) (l := after)]
  refine .dice (count?_eq_some_iff.1 hcount) ?_ hpos hle ?_ (modifier?_eq_some_iff.1 hmodifier)
  · -- The sides end in front of the first sign, so they have none of their own.
    generalize hds : after.takeWhile (fun c => !isSign c) = ds at hread
    rcases hread with hread | hread
    · exact hread
    · have hsign := List.mem_takeWhile_imp (hds ▸ List.mem_cons_self : '+' ∈ after.takeWhile _)
      cases hsign
  · intro c hc
    have hhead := List.head?_dropWhile_not (fun c => !isSign c) after
    rw [hc] at hhead
    simpa using hhead

/-- The reader of compact texts accepts the texts that spell an expression. -/
theorem compact?_eq_some_iff : compact? cs = some e ↔ Spells cs e := by
  constructor
  · intro h
    rw [compact?] at h
    split at h
    · obtain ⟨n, hn, rfl⟩ := Option.map_eq_some_iff.1 h
      obtain ⟨hnumber, hlo, hhi⟩ := number?_eq_some_iff.1 hn
      exact .constant hnumber hlo hhi
    · rename_i d after hdrop
      have hd : d = 'D' := by
        have hhead := List.head?_dropWhile_not (· != 'D') cs
        rw [hdrop] at hhead
        simpa using hhead
      rw [← List.takeWhile_append_dropWhile (p := (· != 'D')) (l := cs), hdrop, hd]
      exact spells_of_dice? h
  · intro h
    cases h with
    | constant hnumber hlo hhi =>
        have hd := notMem_of_isNumberChar hnumber.isNumberChar
        have hnone : cs.dropWhile (· != 'D') = [] :=
          List.dropWhile_eq_nil_iff.2 fun c hc => bne_iff_ne.2 fun heq => hd (heq ▸ hc)
        rw [compact?, hnone]
        dsimp only
        rw [number?_eq_some_iff.2 ⟨hnumber, hlo, hhi⟩]
        rfl
    | @dice before ds rest _ _ _ hcount hsides hpos hle hsign hmodifier =>
        obtain ⟨hfront, hback⟩ :=
          cut_append (notMem_of_isNumberChar hcount.isNumberChar) (ds ++ rest)
        obtain ⟨hds, hrest⟩ := cut_sides hsides hsign
        rw [compact?, hback, hfront]
        dsimp only
        rw [dice?, hds, hrest, count?_eq_some_iff.2 hcount,
          positive?_eq_some_iff.2 ⟨.bare hsides, hpos, hle⟩, modifier?_eq_some_iff.2 hmodifier]
        rfl

end Spelling

section Classification

/-- What becomes of a text with the compact form `cs`: nothing is there, or there are several `D`, or it
spells an expression, or it is none of these. The last two refusals carry the text `trimmed`. -/
inductive Classified (cs : List Char) (trimmed : String) : Except DiceError DiceExpr → Prop
  | empty : cs = [] → Classified cs trimmed (.error .empty)
  | unsupported : 2 ≤ cs.count 'D' → Classified cs trimmed (.error (.unsupported trimmed))
  | ok {e : DiceExpr} : Spells cs e → Classified cs trimmed (.ok e)
  | malformed : cs ≠ [] → cs.count 'D' ≤ 1 → (∀ e, ¬ Spells cs e) →
      Classified cs trimmed (.error (.malformed trimmed))

variable {s : String} {r : Except DiceError DiceExpr}

theorem classified_parse (s : String) :
    Classified (compact s.toList) (String.ofList (Text.trim s.toList)) (parse s) := by
  rw [parse]
  split
  · rename_i hnil
    exact .empty hnil
  · rename_i hne
    split
    · rename_i hmany
      exact .unsupported hmany
    · rename_i hfew
      split
      · rename_i hread
        exact .ok (compact?_eq_some_iff.1 hread)
      · rename_i hnone
        refine .malformed hne (Nat.not_lt.1 hfew) fun e hspells => ?_
        rw [compact?_eq_some_iff.2 hspells] at hnone
        cases hnone

theorem parse_of_classified
    (h : Classified (compact s.toList) (String.ofList (Text.trim s.toList)) r) : parse s = r := by
  rw [parse]
  cases h with
  | empty hnil => rw [if_pos hnil]
  | unsupported hmany =>
      have hne : compact s.toList ≠ [] := by
        intro hnil
        rw [hnil] at hmany
        cases hmany
      rw [if_neg hne, if_pos (Nat.lt_of_succ_le hmany)]
  | ok hspells =>
      rw [if_neg hspells.ne_nil, if_neg (Nat.not_lt.2 hspells.count_le_one),
        compact?_eq_some_iff.2 hspells]
  | malformed hne hfew hnone =>
      have hread : compact? (compact s.toList) = none :=
        Option.eq_none_iff_forall_ne_some.2 fun e he => hnone e (compact?_eq_some_iff.1 he)
      rw [if_neg hne, if_neg (Nat.not_lt.2 hfew), hread]

theorem parse_eq_iff_classified :
    parse s = r ↔ Classified (compact s.toList) (String.ofList (Text.trim s.toList)) r :=
  ⟨fun h => h ▸ classified_parse s, parse_of_classified⟩

theorem parse_eq_ok_iff {e : DiceExpr} : parse s = .ok e ↔ Spells (compact s.toList) e := by
  rw [parse_eq_iff_classified]
  exact ⟨fun | .ok hspells => hspells, .ok⟩

end Classification

section Capitals

/-- Two texts that are classified in the same way. -/
structure Alike (cs ds : List Char) : Prop where
  nil_iff : cs = [] ↔ ds = []
  count_eq : cs.count 'D' = ds.count 'D'
  spells_iff : ∀ e, Spells cs e ↔ Spells ds e

theorem Alike.symm {cs ds : List Char} (h : Alike cs ds) : Alike ds cs :=
  ⟨h.nil_iff.symm, h.count_eq.symm, fun e => (h.spells_iff e).symm⟩

theorem Alike.classified {cs ds : List Char} (h : Alike cs ds) {trimmed : String}
    {r : Except DiceError DiceExpr} (hr : Classified cs trimmed r) : Classified ds trimmed r := by
  cases hr with
  | empty hnil => exact .empty (h.nil_iff.1 hnil)
  | unsupported hmany => exact .unsupported (h.count_eq ▸ hmany)
  | ok hspells => exact .ok ((h.spells_iff _).1 hspells)
  | malformed hne hfew hnone =>
      exact .malformed (mt h.nil_iff.2 hne) (h.count_eq ▸ hfew) fun e => mt (h.spells_iff e).2 (hnone e)

/-- What matters of the capitals of all letters: those of ASCII are known, and beyond ASCII no letter
disappears or has a capital that a dice expression may hold. -/
structure UpperCasing (up : Char → List Char) : Prop where
  ascii : ∀ c, c.toNat < 128 → up c = [c.toUpper]
  ne_nil : ∀ c, up c ≠ []
  beyond : ∀ c, 128 ≤ c.toNat → ∀ d ∈ up c, ¬ IsDiceChar d

/-- The text without blanks, in capitals that may be several characters for one. -/
def compactWith (up : Char → List Char) (cs : List Char) : List Char :=
  (Text.withoutBlanks cs).flatMap up

variable {up : Char → List Char}

theorem toUpper_of_le {c : Char} (h : 128 ≤ c.toNat) : c.toUpper = c := by
  have hlower : ¬ (c.val ≥ 'a'.val ∧ c.val ≤ 'z'.val) := by
    rintro ⟨-, hz⟩
    have hle : c.toNat ≤ 122 := UInt32.le_iff_toNat_le.1 hz
    omega
  exact dif_neg hlower

theorem upperCasing_toUpper : UpperCasing fun c => [c.toUpper] where
  ascii _ _ := rfl
  ne_nil _ := List.cons_ne_nil _ _
  beyond c hc d hd hdice := by
    rw [List.mem_singleton.1 hd, toUpper_of_le hc] at hdice
    have hlt := hdice.toNat_lt
    omega

theorem compact_eq_compactWith (cs : List Char) : compact cs = compactWith (fun c => [c.toUpper]) cs := by
  rw [compact, compactWith, List.map_eq_flatMap]

theorem UpperCasing.count_eq (hup : UpperCasing up) (c : Char) :
    (up c).count 'D' = [c.toUpper].count 'D' := by
  rcases Nat.lt_or_ge c.toNat 128 with hlt | hge
  · rw [hup.ascii c hlt]
  · have hD : IsDiceChar 'D' := .inr (.inr rfl)
    rw [List.count_eq_zero_of_not_mem fun hmem => hup.beyond c hge _ hmem hD,
      List.count_eq_zero_of_not_mem fun hmem => upperCasing_toUpper.beyond c hge _ hmem hD]

theorem UpperCasing.not_spells (hup : UpperCasing up) {cs : List Char} {c : Char} (hc : c ∈ cs)
    (hge : 128 ≤ c.toNat) (e : DiceExpr) : ¬ Spells (cs.flatMap up) e := by
  intro h
  obtain ⟨d, hd⟩ := List.exists_mem_of_ne_nil _ (hup.ne_nil c)
  exact hup.beyond c hge d hd (h.isDiceChar d (List.mem_flatMap.2 ⟨c, hc, hd⟩))

theorem UpperCasing.alike (hup : UpperCasing up) (cs : List Char) :
    Alike (cs.flatMap up) (cs.flatMap fun c => [c.toUpper]) where
  nil_iff := by
    simp only [List.flatMap_eq_nil_iff, hup.ne_nil, List.cons_ne_nil]
  count_eq := by
    simp only [List.count_flatMap, Function.comp_def, hup.count_eq]
  spells_iff e := by
    by_cases h : ∀ c ∈ cs, c.toNat < 128
    · rw [List.flatMap_congr fun c hc => hup.ascii c (h c hc)]
    · obtain ⟨c, hc, hge⟩ : ∃ c ∈ cs, 128 ≤ c.toNat := by simpa using h
      exact iff_of_false (hup.not_spells hc hge e) (upperCasing_toUpper.not_spells hc hge e)

/-- A text is read by what it says without blanks and in capitals, and every refusal is of the kind that
this form shows. -/
theorem parse_eq_iff (hup : UpperCasing up) (s : String) (r : Except DiceError DiceExpr) :
    parse s = r ↔
      Classified (compactWith up s.toList) (String.ofList (Text.trim s.toList)) r := by
  rw [parse_eq_iff_classified, compact_eq_compactWith]
  have halike := hup.alike (Text.withoutBlanks s.toList)
  exact ⟨halike.symm.classified, halike.classified⟩

example : parse "d6 ++ 1" = .ok ⟨1, 6, 1⟩ := by decide +kernel

example : parse "- 1d6" = .error (.malformed "- 1d6") := by decide +kernel

/-- Capitals with one letter beyond ASCII, whose capital is two letters of ASCII. -/
def sharpUp (c : Char) : List Char := if c = 'ß' then ['S', 'S'] else [c.toUpper]

theorem upperCasing_sharpUp : UpperCasing sharpUp where
  ascii c hc := by
    have hne : c ≠ 'ß' := by
      rintro rfl
      exact absurd hc (by decide)
    exact if_neg hne
  ne_nil c := by
    unfold sharpUp
    split <;> exact List.cons_ne_nil _ _
  beyond c hc d hd := by
    unfold sharpUp at hd
    split at hd
    · have hS : d = 'S' := by simpa using hd
      rw [hS]
      rintro ((h | h) | h | h) <;> cases h
    · exact upperCasing_toUpper.beyond c hc d hd

/-- The sharp s is a letter too many, and no blank that could be left out. -/
theorem parse_eq_iff_sharp :
    UpperCasing sharpUp ∧ compactWith sharpUp " 2d6 + 1ß".toList = "2D6+1SS".toList ∧
      Classified "2D6+1SS".toList "2d6 + 1ß" (.error (.malformed "2d6 + 1ß")) ∧
      parse " 2d6 + 1ß" = .error (.malformed "2d6 + 1ß") := by
  have hparse : parse " 2d6 + 1ß" = .error (.malformed "2d6 + 1ß") := by decide +kernel
  exact ⟨upperCasing_sharpUp, by decide +kernel,
    (parse_eq_iff upperCasing_sharpUp " 2d6 + 1ß" _).1 hparse, hparse⟩

end Capitals

end DiceExpr

end Salvo
