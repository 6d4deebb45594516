import Salvo.Proofs.Dice.RoundTrip
import Salvo.Proofs.Keyword.Bounds
import Salvo.Proofs.Keyword.NormalForm

/-!
# Keywords with a parameter

Which rule a tag stands for is decided by the phrase that its normal form starts with, and no phrase stands
in the way of another. So a rule is read back from every tag that says its phrase and its parameter, and the
rules whose parameter is a threshold are read from no other tags (`parametrised_read_back`).
-/

namespace Salvo

namespace Keyword

section Thresholds

variable {cs : List Char} {n : Nat}

/-- Digits, with or without a plus sign behind. -/
inductive Threshold : List Char → Nat → Prop
  | bare {ds : List Char} {n : Nat} : Text.Digits ds n → Threshold ds n
  | plus {ds : List Char} {n : Nat} : Text.Digits ds n → Threshold (ds ++ ['+']) n

theorem digits?_dropLastPlus_eq_some_iff :
    Text.digits? (Text.dropLastPlus cs) = some n ↔ Threshold cs n := by
  rw [Text.digits?_eq_some_iff]
  constructor
  · intro h
    rw [Text.dropLastPlus] at h
    split at h
    · rename_i hlast
      rw [← List.dropLast_append_getLast? _ hlast]
      exact .plus h
    · exact .bare h
  · rintro (h | h)
    · rwa [Text.dropLastPlus_of_notMem fun hplus => absurd (h.isDigit _ hplus) (by decide)]
    · rwa [Text.dropLastPlus, if_pos List.getLast?_concat, List.dropLast_concat]

theorem threshold?_of_threshold (h : Threshold (Text.withoutBlanks cs) n) :
    threshold? cs = if n ≤ maxCount then some n else none := by
  rw [threshold?, digits?_dropLastPlus_eq_some_iff.2 h]
  simp [Option.filter]

theorem threshold?_eq_some_iff :
    threshold? cs = some n ↔ Threshold (Text.withoutBlanks cs) n ∧ n ≤ maxCount := by
  rw [threshold?, Option.filter_eq_some_iff, digits?_dropLastPlus_eq_some_iff, decide_eq_true_eq]

theorem Threshold.isNumberChar (h : Threshold cs n) : ∀ c ∈ cs, Text.IsNumberChar c := by
  rcases h with h | h
  · exact fun c hc => .inl (h.isNumeral c hc)
  · intro c hc
    rcases List.mem_append.1 hc with hc | hc
    · exact .inl (h.isNumeral c hc)
    · exact .inr (List.mem_singleton.1 hc)

theorem Threshold.ne_nil (h : Threshold cs n) : cs ≠ [] := by
  rcases h with h | h
  · exact h.ne_nil
  · exact List.append_ne_nil_of_right_ne_nil _ (List.cons_ne_nil _ _)

end Thresholds

section Parameters

variable {cs : List Char}

theorem isParameter_of_isDiceChar (hne : cs ≠ []) (h : ∀ c ∈ cs, DiceExpr.IsDiceChar c) :
    Tag.IsParameter cs where
  ne_nil := hne
  settled c hc := Tag.settled_toLower_of_lt (h c hc).toNat_lt
  notMem hmem := by
    obtain ⟨c, hc, heq⟩ := List.mem_map.1 hmem
    rcases h c hc with hnumeral | rfl | rfl
    · rw [hnumeral.toLower] at heq
      exact hnumeral.ne (by decide) (by decide) heq
    · cases heq
    · cases heq

theorem Threshold.isParameter {n : Nat} (h : Threshold cs n) : Tag.IsParameter cs :=
  isParameter_of_isDiceChar h.ne_nil fun c hc => DiceExpr.isDiceChar_of_isNumberChar (h.isNumberChar c hc)

theorem Threshold.map_toLower {n : Nat} (h : Threshold cs n) : cs.map Char.toLower = cs := by
  refine (List.map_congr_left fun c hc => ?_).trans (List.map_id _)
  rcases h.isNumberChar c hc with hnumeral | rfl
  · exact hnumeral.toLower
  · rfl

end Parameters

section Phrases

def phrases : List String :=
  ["lethal hits", "devastating wounds", "twin-linked", "twin linked", "blast", "hazardous", "precision",
    "torrent", "ignores cover", "heavy", "lance", "cover", "in cover", "benefit of cover", "stealth",
    "half damage", "halve damage", "halves damage", "damage halved"]

theorem mem_phrases_of_phrase? {tag : String} {k : Keyword} (h : phrase? tag = some k) :
    tag ∈ phrases := by
  unfold phrase? at h
  split at h <;> cases h <;> simp [phrases]

/-- A phrase that no phrase without a parameter starts with. -/
def TakesParameter (start : String) : Prop := ∀ p ∈ phrases, ¬ start.toList <+: p.toList

instance (start : String) : Decidable (TakesParameter start) := by unfold TakesParameter; infer_instance

theorem parse?_of_start {start tag : String} {rest : List Char} (hstart : TakesParameter start)
    (h : Tag.normalChars tag.toList = start.toList ++ rest) :
    parse? tag = parametrised? (start.toList ++ rest) := by
  have hnone : phrase? (Tag.normal tag) = none := by
    refine Option.eq_none_iff_forall_ne_some.2 fun k hk => ?_
    refine hstart _ (mem_phrases_of_phrase? hk) ?_
    rw [Tag.toList_normal, h]
    exact List.prefix_append _ _
  rw [parse?, parseNormal?, hnone]
  dsimp only
  rw [Tag.toList_normal, h]

end Phrases

section ThresholdRules

variable {phrase tag : String} {rule : Nat → Keyword} {rest : List Char}

theorem ThresholdRule.takesParameter (h : ThresholdRule phrase rule) : TakesParameter phrase := by
  cases h <;> decide +kernel

theorem ThresholdRule.isPhrase (h : ThresholdRule phrase rule) : Tag.IsPhrase phrase.toList := by
  cases h <;>
    exact ⟨Text.forall_mem_of_all (by decide +kernel), by decide +kernel, by decide +kernel,
      by decide +kernel⟩

theorem ThresholdRule.parametrised?_eq (h : ThresholdRule phrase rule) (rest : List Char) :
    parametrised? (phrase.toList ++ rest) = (threshold? rest).map rule := by
  cases h <;> rfl

theorem ThresholdRule.parse?_eq (h : ThresholdRule phrase rule)
    (htag : Tag.normalChars tag.toList = phrase.toList ++ rest) :
    parse? tag = (threshold? rest).map rule := by
  rw [parse?_of_start h.takesParameter htag, h.parametrised?_eq]

/-- Two phrases may stand for one rule, but no two rules give one keyword. -/
theorem ThresholdRule.injective {phrase' : String} {rule' : Nat → Keyword} {n m : Nat}
    (h : ThresholdRule phrase rule) (h' : ThresholdRule phrase' rule') (heq : rule n = rule' m) :
    rule = rule' ∧ n = m := by
  cases h <;> cases h' <;> cases heq <;> exact ⟨rfl, rfl⟩

theorem ThresholdRule.phrase?_ne {n : Nat} (h : ThresholdRule phrase rule) :
    phrase? tag ≠ some (rule n) := by
  intro hphrase
  unfold phrase? at hphrase
  split at hphrase <;> cases h <;> cases hphrase

/-- A threshold is read behind one of its phrases and nowhere else. -/
theorem exists_rule_of_parametrised? {cs : List Char} {n : Nat} (h : ThresholdRule phrase rule)
    (hread : parametrised? cs = some (rule n)) :
    ∃ phrase' rest, ThresholdRule phrase' rule ∧ cs = phrase'.toList ++ rest ∧
      threshold? rest = some n := by
  generalize hk : rule n = k at hread
  cases parametrised_of_parametrised? hread with
  | @threshold phrase' _ rest m h' hvalue =>
      obtain ⟨rfl, rfl⟩ := h.injective h' hk
      exact ⟨phrase', rest, h', rfl, hvalue⟩
  | sustained => cases h <;> cases hk
  | anti => cases h <;> cases hk
  | reroll => cases h <;> cases hk
  | modifier => cases h <;> cases hk

theorem ThresholdRule.parse?_eq_some_iff {n : Nat} (h : ThresholdRule phrase rule) :
    parse? tag = some (rule n) ↔
      ∃ phrase' rest, ThresholdRule phrase' rule ∧ (Tag.normal tag).toList = phrase'.toList ++ rest ∧
        Threshold (Text.withoutBlanks rest) n ∧ n ≤ maxCount := by
  constructor
  · intro hread
    rw [parse?, parseNormal?] at hread
    split at hread
    · rename_i hphrase
      rw [hread] at hphrase
      exact absurd hphrase h.phrase?_ne
    · obtain ⟨phrase', rest, h', hcs, hvalue⟩ := exists_rule_of_parametrised? h hread
      exact ⟨phrase', rest, h', hcs, threshold?_eq_some_iff.1 hvalue⟩
  · rintro ⟨phrase', rest, h', hcs, hvalue⟩
    rw [Tag.toList_normal] at hcs
    rw [h'.parse?_eq hcs, threshold?_eq_some_iff.2 hvalue]
    rfl

theorem parse?_of_writes {parameter : List Char} {n : Nat} (hphrase : Tag.IsPhrase phrase.toList)
    (hread : ∀ rest, Tag.normalChars tag.toList = phrase.toList ++ ' ' :: rest →
      parse? tag = (threshold? rest).map rule)
    (htag : Tag.Writes tag phrase parameter) (hnumber : Threshold parameter n) :
    parse? tag = if n ≤ maxCount then some (rule n) else none := by
  obtain ⟨rest, hnormal, hrest⟩ := htag.normalChars_eq hphrase hnumber.isParameter
  rw [hnumber.map_toLower] at hrest
  rw [hread rest hnormal, threshold?_of_threshold (hrest ▸ hnumber)]
  split <;> rfl

theorem ThresholdRule.parse?_of_writes {parameter : List Char} {n : Nat}
    (h : ThresholdRule phrase rule) (htag : Tag.Writes tag phrase parameter)
    (hnumber : Threshold parameter n) :
    parse? tag = if n ≤ maxCount then some (rule n) else none := by
  refine Keyword.parse?_of_writes h.isPhrase (fun rest hnormal => ?_) htag hnumber
  rw [h.parse?_eq hnormal]
  rfl

end ThresholdRules

section Categories

/-- A name of letters and digits of any script, all of them in lower case, and underscores. -/
structure IsCategoryName (category : List Char) : Prop where
  ne_nil : category ≠ []
  alphanumeric : ∀ c ∈ category, Text.isAlphanumeric c = true ∨ c = '_'
  lowerChar : ∀ c ∈ category, Text.lowerChar c = [c]

variable {category : List Char}

theorem IsCategoryName.isCategory (h : IsCategoryName category) : isCategory category = true := by
  simpa [Keyword.isCategory, h.ne_nil] using h.alphanumeric

theorem IsCategoryName.isWord (h : IsCategoryName category) : Text.IsWord category := by
  refine ⟨h.ne_nil, fun c hc => Bool.eq_false_iff.2 fun hblank => ?_⟩
  have hnone : ¬ (Text.isAlphanumeric c = true ∨ c = '_') :=
    Text.forall_blank (P := fun c => ¬ (Text.isAlphanumeric c = true ∨ c = '_')) (by decide +kernel)
      hblank
  exact hnone (h.alphanumeric c hc)

theorem IsCategoryName.notMem (h : IsCategoryName category) {c : Char}
    (hc : ¬ (Text.isAlphanumeric c = true ∨ c = '_')) : c ∉ category :=
  fun hmem => hc (h.alphanumeric c hmem)

theorem IsCategoryName.settled (h : IsCategoryName category) : ∀ c ∈ category, Tag.Settled c := by
  intro c hc
  refine ⟨h.lowerChar c hc, if_neg ?_⟩
  rw [Bool.or_eq_true, decide_eq_true_eq, decide_eq_true_eq]
  rintro (rfl | rfl)
  · exact h.notMem (by decide +kernel) hc
  · exact h.notMem (by decide +kernel) hc

theorem IsCategoryName.joinReroll (h : IsCategoryName category) : Tag.joinReroll category = category :=
  Tag.joinReroll_of_notMem (x := '-') (by decide) (h.notMem (by decide +kernel))

inductive AntiStart : String → Prop
  | dash : AntiStart "anti-"
  | blank : AntiStart "anti "

variable {start tag : String}

theorem AntiStart.isPhrase (hstart : AntiStart start) (h : IsCategoryName category) :
    Tag.IsPhrase (start.toList ++ category) := by
  have hsettled : ∀ c ∈ start.toList ++ category, Tag.Settled c := by
    refine List.forall_mem_append.2 ⟨?_, h.settled⟩
    cases hstart <;> exact Text.forall_mem_of_all (by decide +kernel)
  cases hstart with
  | dash =>
      have hword : Text.IsWord ("anti-".toList ++ category) :=
        ⟨List.append_ne_nil_of_right_ne_nil _ h.ne_nil,
          List.forall_mem_append.2 ⟨Text.forall_mem_of_all (by decide +kernel), h.isWord.isBlank⟩⟩
      refine ⟨hsettled, fun w hw => ?_, ?_, hword.ne_nil⟩
      · rw [Text.words_of_isWord hword, List.mem_singleton] at hw
        rw [hw]
        exact congrArg ("anti-".toList ++ ·) h.joinReroll
      · rw [Text.collapseBlanks, Text.words_of_isWord hword, List.intercalate_singleton]
  | blank =>
      have hwords : Text.words ("anti ".toList ++ category) = ["anti".toList, category] := by
        have hword : Text.IsWord "anti".toList :=
          ⟨by decide +kernel, Text.forall_mem_of_all (by decide +kernel)⟩
        have hspace : Text.StartsBlank (' ' :: category) := Text.startsBlank_cons rfl category
        rw [show "anti ".toList ++ category = "anti".toList ++ ' ' :: category from rfl,
          Text.words_append hword hspace, Text.words_cons_blank rfl, Text.words_of_isWord h.isWord]
      refine ⟨hsettled, fun w hw => ?_, ?_, List.append_ne_nil_of_right_ne_nil _ h.ne_nil⟩
      · rw [hwords, List.mem_pair] at hw
        rcases hw with rfl | rfl
        · decide +kernel
        · exact h.joinReroll
      · rw [Text.collapseBlanks, hwords, List.intercalate_cons_of_ne_nil (List.cons_ne_nil _ _),
          List.intercalate_singleton]
        rfl

theorem cutAt?_append {c : Char} {before : List Char} (h : c ∉ before) (after : List Char) :
    Text.cutAt? c (before ++ c :: after) = some (before, after) := by
  induction before with
  | nil => exact if_pos rfl
  | cons d before ih =>
      have hd : d ≠ c := fun heq => h (heq ▸ List.mem_cons_self)
      rw [List.cons_append, Text.cutAt?, if_neg hd, ih fun hmem => h (List.mem_cons_of_mem d hmem)]
      rfl

theorem anti?_append (h : IsCategoryName category) (rest : List Char) :
    anti? (category ++ ' ' :: rest) = (threshold? rest).map (anti (String.ofList category)) := by
  rw [anti?, cutAt?_append (h.notMem (by decide +kernel))]
  simp only [Option.bind_eq_bind, Option.bind_some, h.isCategory]
  cases threshold? rest <;> rfl

theorem AntiStart.takesParameter (hstart : AntiStart start) : TakesParameter start := by
  cases hstart <;> decide +kernel

theorem AntiStart.parse?_of_writes {category : String} (hstart : AntiStart start)
    (h : IsCategoryName category.toList) {parameter : List Char} {n : Nat}
    (htag : Tag.Writes tag (start ++ category) parameter) (hnumber : Threshold parameter n) :
    parse? tag = if n ≤ maxCount then some (anti category n) else none := by
  have hphrase : Tag.IsPhrase (start ++ category).toList := by
    rw [String.toList_append]
    exact hstart.isPhrase h
  refine Keyword.parse?_of_writes hphrase (fun rest hnormal => ?_) htag hnumber
  rw [String.toList_append, List.append_assoc] at hnormal
  rw [parse?_of_start hstart.takesParameter hnormal]
  have hread : parametrised? (start.toList ++ (category.toList ++ ' ' :: rest)) =
      anti? (category.toList ++ ' ' :: rest) := by
    cases hstart <;> rfl
  rw [hread, anti?_append h, String.ofList_toList]

end Categories

section SustainedHits

variable {tag : String} {cs : List Char} {e : DiceExpr}

/-- A dice expression ends in a digit, so the reader finds no plus sign behind it to leave out. -/
theorem sustained?_of_spells (h : DiceExpr.Spells (DiceExpr.compact cs) e) :
    sustained? cs = some (sustainedHits e) := by
  have hplus : Text.dropLastPlus (Text.trim cs) = Text.trim cs := by
    refine if_neg fun hlast => ?_
    rw [Text.getLast?_trim] at hlast
    obtain ⟨before, c, hend, hc⟩ := h.endsInDigit
    have hcompact : (DiceExpr.compact cs).getLast? = some '+' := by
      rw [DiceExpr.compact, List.getLast?_map, hlast]
      rfl
    rw [hend, List.getLast?_concat] at hcompact
    cases hcompact
    cases hc
  have hparse : DiceExpr.parse (String.ofList (Text.trim cs)) = .ok e := by
    rw [DiceExpr.parse_eq_ok_iff, String.toList_ofList, DiceExpr.compact, Text.withoutBlanks_trim]
    exact h
  rw [sustained?, hplus, hparse]

theorem map_toUpper_toLower (h : ∀ c ∈ cs, DiceExpr.IsDiceChar c) :
    (cs.map Char.toLower).map Char.toUpper = cs := by
  rw [List.map_map]
  refine (List.map_congr_left fun c hc => ?_).trans (List.map_id _)
  rcases h c hc with hnumeral | rfl | rfl
  · rw [Function.comp_apply, hnumeral.toLower, hnumeral.toUpper]
    rfl
  · rfl
  · rfl

theorem isPhrase_sustained : Tag.IsPhrase "sustained hits".toList :=
  ⟨Text.forall_mem_of_all (by decide +kernel), by decide +kernel, by decide +kernel, by decide +kernel⟩

theorem parse?_of_writes_sustained (he : e.Writable)
    (htag : Tag.Writes tag "sustained hits" e.chars) : parse? tag = some (sustainedHits e) := by
  have hspells := DiceExpr.spells_chars he
  have hparameter := isParameter_of_isDiceChar hspells.ne_nil hspells.isDiceChar
  obtain ⟨rest, hnormal, hrest⟩ := htag.normalChars_eq isPhrase_sustained hparameter
  have hcompact : DiceExpr.compact (' ' :: rest) = e.chars := by
    change (Text.withoutBlanks rest).map Char.toUpper = e.chars
    rw [hrest, map_toUpper_toLower hspells.isDiceChar]
  have hread : parametrised? ("sustained hits".toList ++ ' ' :: rest) = sustained? (' ' :: rest) := rfl
  rw [parse?_of_start (by decide +kernel) hnormal, hread]
  exact sustained?_of_spells (hcompact ▸ hspells)

theorem writes_sustained (he : e.Writable) :
    Tag.Writes ("sustained hits " ++ e.text) "sustained hits" e.chars := by
  have hspells := DiceExpr.spells_chars he
  have hword : Text.IsWord e.chars := ⟨hspells.ne_nil, fun c hc => (hspells.isDiceChar c hc).isBlank⟩
  have hspace : "sustained hits " = "sustained hits" ++ " " := by decide +kernel
  rw [hspace]
  exact Tag.writes_append isPhrase_sustained hword

end SustainedHits

section Main

/-- A rule with a parameter is read back from every tag that says its phrase and its parameter, unless the
number is out of bounds. The rules whose parameter is a threshold are read from no other tags than those
whose normal form is one of their phrases with the number behind it. -/
theorem parametrised_read_back :
    (∀ phrase rule, ThresholdRule phrase rule → ∀ tag parameter n,
      Tag.Writes tag phrase parameter → Threshold parameter n →
        parse? tag = if n ≤ maxCount then some (rule n) else none) ∧
    (∀ start, AntiStart start → ∀ category : String, IsCategoryName category.toList →
      ∀ tag parameter n, Tag.Writes tag (start ++ category) parameter → Threshold parameter n →
        parse? tag = if n ≤ maxCount then some (anti category n) else none) ∧
    (∀ e : DiceExpr, (∃ s, DiceExpr.parse s = .ok e) →
      parse? ("sustained hits " ++ e.text) = some (sustainedHits e) ∧
        ∀ tag, Tag.Writes tag "sustained hits" e.chars → parse? tag = some (sustainedHits e)) ∧
    (∀ phrase rule, ThresholdRule phrase rule → ∀ tag n, parse? tag = some (rule n) ↔
      ∃ phrase' rest, ThresholdRule phrase' rule ∧ (Tag.normal tag).toList = phrase'.toList ++ rest ∧
        Threshold (Text.withoutBlanks rest) n ∧ n ≤ maxCount) ∧
    ∀ phrase rule, ThresholdRule phrase rule → ∀ tag rest n,
      (Tag.normal tag).toList = phrase.toList ++ rest → Threshold (Text.withoutBlanks rest) n →
        maxCount < n → parse? tag = none := by
  refine ⟨fun phrase rule h tag parameter n htag hnumber => h.parse?_of_writes htag hnumber,
    fun start hstart category h tag parameter n htag hnumber => hstart.parse?_of_writes h htag hnumber,
    fun e he => ?_, fun phrase rule h tag n => h.parse?_eq_some_iff,
    fun phrase rule h tag rest n htag hnumber hn => ?_⟩
  · obtain ⟨s, hs⟩ := he
    have hwritable := DiceExpr.parse_writable hs
    exact ⟨parse?_of_writes_sustained hwritable (writes_sustained hwritable),
      fun tag htag => parse?_of_writes_sustained hwritable htag⟩
  · rw [Tag.toList_normal] at htag
    rw [h.parse?_eq htag, threshold?_of_threshold hnumber, if_neg (Nat.not_le.2 hn)]
    rfl

/-- Tags with blanks in a number, with a category, with dice, and with a number that is too large. -/
theorem parametrised_read_back_spellings :
    parse? " RAPID\tFire 1 2 +" = some (rapidFire 12) ∧
      parse? "ANTI fly  4" = some (anti "fly" 4) ∧
      parse? "sustained hits D3+1" = some (sustainedHits ⟨1, 3, 1⟩) ∧
      (∃ phrase rest, ThresholdRule phrase feelNoPain ∧
        (Tag.normal "FNP 5 +").toList = phrase.toList ++ rest ∧
        Threshold (Text.withoutBlanks rest) 5 ∧ 5 ≤ maxCount) ∧
      parse? "melta 4294967296" = none := by
  obtain ⟨hrules, hanti, hsustained, hconverse, hbounds⟩ := parametrised_read_back
  refine ⟨?_, ?_, ?_, ?_, ?_⟩
  · have htag : Tag.Writes " RAPID\tFire 1 2 +" "rapid fire" ['1', '2', '+'] :=
      ⟨["RAPID".toList, "Fire".toList], [['1'], ['2'], ['+']], by decide +kernel, by decide +kernel, rfl⟩
    have htwelve : Text.Digits ['1', '2'] 12 := Text.digits?_eq_some_iff.1 (by decide)
    exact hrules _ _ .rapidFire _ _ 12 htag (.plus htwelve)
  · have hcategory : IsCategoryName "fly".toList :=
      ⟨by decide +kernel, Text.forall_mem_of_all (by decide +kernel),
        Text.forall_mem_of_all (by decide +kernel)⟩
    have htag : Tag.Writes "ANTI fly  4" ("anti " ++ "fly") ['4'] :=
      ⟨["ANTI".toList, "fly".toList], [['4']], by decide +kernel, by decide +kernel, rfl⟩
    exact hanti _ .blank _ hcategory _ _ 4 htag (.bare (Text.digits?_eq_some_iff.1 (by decide)))
  · have htext : "sustained hits " ++ (⟨1, 3, 1⟩ : DiceExpr).text = "sustained hits D3+1" := by
      decide +kernel
    rw [← htext]
    exact (hsustained ⟨1, 3, 1⟩ ⟨"d3 + 1", by decide +kernel⟩).1
  · exact (hconverse _ _ .fnp _ 5).1 (by decide +kernel)
  · exact hbounds _ _ .melta _ " 4294967296".toList 4294967296 (by decide +kernel)
      (.bare (Text.digits?_eq_some_iff.1 (by decide +kernel))) (by decide)

end Main

end Keyword

end Salvo
