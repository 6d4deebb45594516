import Salvo.Keyword.Tag
import Salvo.Proofs.Text.LowerCase

/-!
# Tags in normal form

Where every letter has one small form and no dash is long, the normal form of a tag is found word by word
(`normalChars_eq`). So a phrase and a parameter behind it keep their places, in whatever letter case and
with whatever blanks they are written (`Writes.normalChars_eq`).
-/

namespace Salvo

namespace Text

section Letters

variable {c : Char}

/-- In ASCII, lower case stays in ASCII and keeps blanks apart from other characters. -/
theorem toLower_ascii :
    ∀ n < 128, (Char.ofNat n).toLower.toNat < 128 ∧
      isBlank (Char.ofNat n).toLower = isBlank (Char.ofNat n) := by
  decide +kernel

theorem toNat_toLower_lt (h : c.toNat < 128) : c.toLower.toNat < 128 :=
  forall_ascii (P := fun c => c.toLower.toNat < 128) (fun n hn => (toLower_ascii n hn).1) h

theorem isBlank_toLower (c : Char) : isBlank c.toLower = isBlank c := by
  rcases Nat.lt_or_ge c.toNat 128 with hlt | hge
  · exact forall_ascii (P := fun c => isBlank c.toLower = isBlank c)
      (fun n hn => (toLower_ascii n hn).2) hlt
  · rw [toLower_of_le hge]

def blankNumbers : List Nat :=
  [9, 10, 11, 12, 13, 32, 133, 160, 5760, 8192, 8193, 8194, 8195, 8196, 8197, 8198, 8199, 8200, 8201,
    8202, 8232, 8233, 8239, 8287, 12288]

theorem forall_blank {P : Char → Prop} (h : ∀ n ∈ blankNumbers, P (Char.ofNat n))
    (hc : isBlank c = true) : P c := by
  have hmem : c.toNat ∈ blankNumbers := by
    have hspace : List.range' 9 5 ⊆ blankNumbers := by decide
    have hquad : List.range' 8192 11 ⊆ blankNumbers := by decide
    simp only [isBlank, Bool.or_eq_true, Bool.and_eq_true, decide_eq_true_eq, beq_iff_eq] at hc
    rcases hc with (((((((((⟨hlo, hhi⟩ | hn) | hn) | hn) | hn) | ⟨hlo, hhi⟩) | hn) | hn) | hn) | hn) | hn
    · exact hspace (List.mem_range'_1.2 ⟨hlo, Nat.lt_succ_of_le hhi⟩)
    iterate 4
      · rw [hn]
        decide
    · exact hquad (List.mem_range'_1.2 ⟨hlo, Nat.lt_succ_of_le hhi⟩)
    iterate 5
      · rw [hn]
        decide
  have hchar := h c.toNat hmem
  rwa [Char.ofNat_toNat] at hchar

theorem isSmall_of_isBlank (h : isBlank c = true) : IsSmall c := by
  have hclear : ∀ n ∈ blankNumbers, capitalBits.testBit (Char.ofNat n).toNat = false := by decide +kernel
  exact forall_blank (fun n hn => isSmall_of_clear (hclear n hn)) h

end Letters

end Text

namespace Tag

section Settled

variable {c : Char} {cs : List Char}

/-- A character that has no other form: it is in lower case and no long dash. -/
def Settled (c : Char) : Prop := Text.lowerChar c = [c] ∧ plainDash c = c

instance (c : Char) : Decidable (Settled c) := by unfold Settled; infer_instance

theorem plainDash_of_ne (hshort : c ≠ '–') (hlong : c ≠ '—') : plainDash c = c := by
  simp [plainDash, hshort, hlong]

theorem settled_of_isBlank (h : Text.isBlank c = true) : Settled c := by
  refine ⟨Text.isSmall_of_isBlank h, plainDash_of_ne ?_ ?_⟩
  · rintro rfl
    cases h
  · rintro rfl
    cases h

theorem settled_toLower_of_lt (h : c.toNat < 128) : Settled c.toLower := by
  have hlt := Text.toNat_toLower_lt h
  refine ⟨Text.isSmall_toLower_of_lt h, plainDash_of_ne ?_ ?_⟩
  · intro heq
    rw [heq] at hlt
    exact absurd hlt (by decide)
  · intro heq
    rw [heq] at hlt
    exact absurd hlt (by decide)

theorem Settled.toLower (h : Settled c) : c.toLower = c := by
  rcases Nat.lt_or_ge c.toNat 128 with hlt | hge
  · have hlower := h.1
    rw [Text.lowerChar_of_lt hlt] at hlower
    exact (List.cons.inj hlower).1
  · exact Text.toLower_of_le hge

theorem lowerChar_eq_toLower (h : Settled c.toLower) : Text.lowerChar c = [c.toLower] := by
  rcases Nat.lt_or_ge c.toNat 128 with hlt | hge
  · exact Text.lowerChar_of_lt hlt
  · rw [Text.toLower_of_le hge] at h ⊢
    exact h.1

/-- Without capitals beyond ASCII it makes no difference where in a word a letter stands. -/
theorem map_plainDash_lower (h : ∀ c ∈ cs, Settled c.toLower) :
    (Text.lower cs).map plainDash = cs.map Char.toLower := by
  suffices ∀ before, (Text.lowerAfter before cs).map plainDash = cs.map Char.toLower from this []
  induction cs with
  | nil => exact fun _ => rfl
  | cons c cs ih =>
      intro before
      have hc := h c List.mem_cons_self
      have hsigma : c ≠ 'Σ' := by
        rintro rfl
        exact Text.IsSmall.ne_sigma hc.1 rfl
      rw [Text.lowerAfter_cons_of_ne hsigma, lowerChar_eq_toLower hc, List.map_append,
        ih (fun d hd => h d (List.mem_cons_of_mem _ hd)), List.map_cons, List.map_cons, hc.2]
      rfl

end Settled

section Joined

variable {c : Char} {cs : List Char}

def reroll : List Char := ['r', 'e', '-', 'r', 'o', 'l', 'l']

theorem joinReroll_cons (h : ∀ ds, c :: cs ≠ reroll ++ ds) : joinReroll (c :: cs) = c :: joinReroll cs := by
  rw [joinReroll]
  rintro ds rfl rfl
  exact h ds rfl

theorem joinReroll_cons_of_ne (h : c ≠ 'r') (cs : List Char) :
    joinReroll (c :: cs) = c :: joinReroll cs :=
  joinReroll_cons fun _ heq => h (List.cons.inj heq).1

theorem joinReroll_of_notMem {x : Char} (hx : x ∈ reroll) (h : x ∉ cs) : joinReroll cs = cs := by
  fun_induction joinReroll cs with
  | case1 cs ih => exact absurd (List.mem_append_left cs hx) h
  | case2 c cs hno ih => rw [ih fun hmem => h (List.mem_cons_of_mem _ hmem)]
  | case3 => rfl

theorem mem_of_mem_joinReroll (h : c ∈ joinReroll cs) : c ∈ cs := by
  fun_induction joinReroll cs with
  | case1 cs ih =>
      simp only [List.mem_cons] at h ⊢
      grind
  | case2 d cs hno ih => exact List.mem_cons.2 ((List.mem_cons.1 h).imp_right ih)
  | case3 => exact h

/-- A blank is no part of `re-roll`, so nothing is joined across it. -/
theorem joinReroll_append (ds : List Char) (hcs : Text.StartsBlank cs) :
    joinReroll (ds ++ cs) = joinReroll ds ++ joinReroll cs := by
  fun_induction joinReroll ds with
  | case1 ds ih => simp only [List.cons_append, joinReroll, ih]
  | case2 d ds hno ih =>
      rw [List.cons_append, joinReroll_cons, ih, List.cons_append]
      intro es heq
      rw [← List.cons_append] at heq
      rcases List.append_eq_append_iff.1 heq with ⟨as, hreroll, hrest⟩ | ⟨as, hds, -⟩
      · cases as with
        | nil =>
            rw [List.append_nil] at hreroll
            obtain ⟨hd, hds⟩ := List.cons.inj hreroll
            exact hno [] hd.symm hds.symm
        | cons b as =>
            have hb : Text.isBlank b = true := hcs b (hrest ▸ rfl)
            have hmem : b ∈ reroll := hreroll ▸ List.mem_append_right _ List.mem_cons_self
            have hnone : ∀ c ∈ reroll, Text.isBlank c = false := Text.forall_mem_of_all (by decide)
            rw [hnone b hmem] at hb
            cases hb
      · obtain ⟨hd, hds⟩ := List.cons.inj hds
        exact hno as hd hds
  | case3 => rfl

theorem words_joinReroll (cs : List Char) :
    Text.words (joinReroll cs) = (Text.words cs).map joinReroll := by
  have hword {w : List Char} (hw : Text.IsWord w) : Text.IsWord (joinReroll w) := by
    refine ⟨?_, fun c hc => hw.isBlank c (mem_of_mem_joinReroll hc)⟩
    have hne := hw.ne_nil
    fun_cases joinReroll w with
    | case1 => exact List.cons_ne_nil _ _
    | case2 => exact List.cons_ne_nil _ _
    | case3 => exact absurd rfl hne
  have hblank {b : Char} (hb : Text.isBlank b = true) (ds : List Char) :
      joinReroll (b :: ds) = b :: joinReroll ds := by
    refine joinReroll_cons_of_ne ?_ ds
    rintro rfl
    cases hb
  induction cs using Text.induction_on_words with
  | nil => rfl
  | blank b cs hb ih => rw [hblank hb, Text.words_cons_blank hb, Text.words_cons_blank hb, ih]
  | word w cs hw hcs ih =>
      have hstarts : Text.StartsBlank (joinReroll cs) := by
        cases cs with
        | nil => exact hcs
        | cons b cs =>
            have hb := hcs b rfl
            rw [hblank hb]
            exact Text.startsBlank_cons hb _
      rw [joinReroll_append w hcs, Text.words_append (hword hw) hstarts, Text.words_append hw hcs, ih,
        List.map_cons]

end Joined

section Written

variable {cs : List Char}

theorem normalChars_eq (h : ∀ c ∈ cs, Settled c.toLower) :
    normalChars cs =
      [' '].intercalate ((Text.words cs).map fun w => joinReroll (w.map Char.toLower)) := by
  rw [normalChars, Text.collapseBlanks, map_plainDash_lower h, words_joinReroll,
    Text.words_map Text.isBlank_toLower, List.map_map]
  rfl

/-- A text that is in normal form, character by character and word by word. -/
structure IsPhrase (phrase : List Char) : Prop where
  settled : ∀ c ∈ phrase, Settled c
  joined : ∀ w ∈ Text.words phrase, joinReroll w = w
  collapsed : Text.collapseBlanks phrase = phrase
  ne_nil : phrase ≠ []

/-- The tag says the words of a phrase, in small letters or capitals, and behind them a parameter. There
may be blanks around all of these words, and anywhere in the parameter. -/
def Writes (tag phrase : String) (parameter : List Char) : Prop :=
  ∃ front pieces, Text.words tag.toList = front ++ pieces ∧
    front.map (List.map Char.toLower) = Text.words phrase.toList ∧ pieces.flatten = parameter

variable {tag phrase : String} {parameter : List Char}

theorem writes_append (hphrase : IsPhrase phrase.toList) (hword : Text.IsWord parameter) :
    Writes (phrase ++ " " ++ String.ofList parameter) phrase parameter := by
  have htag : (phrase ++ " " ++ String.ofList parameter).toList = phrase.toList ++ ' ' :: parameter := by
    simp
  have hlower : phrase.toList.map Char.toLower = phrase.toList :=
    (List.map_congr_left fun c hc => (hphrase.settled c hc).toLower).trans (List.map_id _)
  refine ⟨Text.words phrase.toList, [parameter], ?_, ?_, by simp⟩
  · rw [htag, Text.words_append_cons rfl, Text.words_of_isWord hword]
  · rw [← Text.words_map Text.isBlank_toLower, hlower]

/-- What a parameter is made of: no letter of it has a capital beyond ASCII or could be joined. -/
structure IsParameter (parameter : List Char) : Prop where
  ne_nil : parameter ≠ []
  settled : ∀ c ∈ parameter, Settled c.toLower
  notMem : 'r' ∉ parameter.map Char.toLower

theorem Writes.settled (h : Writes tag phrase parameter) (hphrase : IsPhrase phrase.toList)
    (hparameter : IsParameter parameter) : ∀ c ∈ tag.toList, Settled c.toLower := by
  obtain ⟨front, pieces, hwords, hfront, hpieces⟩ := h
  intro c hc
  cases hb : Text.isBlank c with
  | true =>
      rw [← Text.isBlank_toLower] at hb
      exact settled_of_isBlank hb
  | false =>
      have hmem : c ∈ (Text.words tag.toList).flatten := by
        rw [Text.flatten_words, Text.withoutBlanks, List.mem_filter, hb]
        exact ⟨hc, rfl⟩
      rw [hwords, List.flatten_append, hpieces, List.mem_append] at hmem
      rcases hmem with hmem | hmem
      · refine hphrase.settled _ ?_
        have hlower : c.toLower ∈ (Text.words phrase.toList).flatten := by
          rw [← hfront, ← List.map_flatten]
          exact List.mem_map_of_mem hmem
        rw [Text.flatten_words] at hlower
        exact (List.mem_filter.1 hlower).1
      · exact hparameter.settled c hmem

theorem IsPhrase.words_ne_nil {cs : List Char} (h : IsPhrase cs) : Text.words cs ≠ [] := by
  intro hnil
  have hcollapsed := h.collapsed
  rw [Text.collapseBlanks, hnil] at hcollapsed
  exact h.ne_nil hcollapsed.symm

theorem IsPhrase.map_joinReroll {cs : List Char} (h : IsPhrase cs) {front : List (List Char)}
    (hfront : front.map (List.map Char.toLower) = Text.words cs) :
    front.map (fun w => joinReroll (w.map Char.toLower)) = Text.words cs := by
  rw [← hfront]
  refine List.map_congr_left fun w hw => h.joined _ ?_
  rw [← hfront]
  exact List.mem_map_of_mem hw

theorem IsParameter.map_joinReroll {pieces : List (List Char)} (h : IsParameter pieces.flatten) :
    pieces.map (fun w => joinReroll (w.map Char.toLower)) = pieces.map (List.map Char.toLower) := by
  refine List.map_congr_left fun w hw => joinReroll_of_notMem (x := 'r') (by decide) fun hr => ?_
  obtain ⟨c, hc, heq⟩ := List.mem_map.1 hr
  exact h.notMem (heq ▸ List.mem_map_of_mem (List.mem_flatten.2 ⟨w, hw, hc⟩))

theorem Writes.normalChars_eq (h : Writes tag phrase parameter) (hphrase : IsPhrase phrase.toList)
    (hparameter : IsParameter parameter) :
    ∃ rest, normalChars tag.toList = phrase.toList ++ ' ' :: rest ∧
      Text.withoutBlanks rest = parameter.map Char.toLower := by
  have hnormal := Tag.normalChars_eq (h.settled hphrase hparameter)
  obtain ⟨front, pieces, hwords, hfront, rfl⟩ := h
  have hpieces : pieces.map (List.map Char.toLower) ≠ [] := by
    rintro hnil
    rw [List.map_eq_nil_iff.1 hnil] at hparameter
    exact hparameter.ne_nil rfl
  have hcollapsed : [' '].intercalate (Text.words phrase.toList) = phrase.toList := hphrase.collapsed
  refine ⟨[' '].intercalate (pieces.map (List.map Char.toLower)), ?_, ?_⟩
  · rw [hnormal, hwords, List.map_append, hphrase.map_joinReroll hfront, hparameter.map_joinReroll,
      Text.intercalate_append hphrase.words_ne_nil hpieces, hcollapsed]
  · rw [Text.withoutBlanks_intercalate, ← List.map_flatten]
    intro v hv
    obtain ⟨w, hw, rfl⟩ := List.mem_map.1 hv
    have hword := Text.isWord_of_mem_words (hwords ▸ List.mem_append_right front hw)
    exact hword.map Text.isBlank_toLower

end Written

end Tag

end Salvo
