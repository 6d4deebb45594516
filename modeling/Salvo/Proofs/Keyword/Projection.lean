import Salvo.Profile.Defender
import Salvo.Proofs.Keyword.NormalForm

/-!
# The normal form as a projection

A normal form is a text in lower case without long dashes in which nothing is left to join or to collapse
(`IsNormal`). Such a text is its own normal form (`IsNormal.normalChars_eq`). So whatever reads tags by
their normal form cannot tell a tag from its normal form (`normal_projection`).
-/

namespace Salvo

namespace Tag

section Joined

variable {c : Char} {cs ds : List Char}

/-- Joining leaves a character where it is, unless a reroll that was joined begins with it. -/
theorem exists_of_joinReroll_eq_cons (h : joinReroll cs = c :: ds)
    (hc : c = 'r' → ds.head? ≠ some 'e') : ∃ es, cs = c :: es ∧ joinReroll es = ds := by
  fun_cases joinReroll cs with
  | case1 cs =>
      obtain ⟨rfl, rfl⟩ := List.cons.inj h
      exact absurd rfl (hc rfl)
  | case2 d cs hno =>
      rw [joinReroll.eq_2 _ _ hno] at h
      obtain ⟨rfl, rfl⟩ := List.cons.inj h
      exact ⟨cs, rfl, rfl⟩
  | case3 => cases h

/-- No dash is left between `re` and `roll`: one that stands there after joining stood there before. -/
theorem joinReroll_joinReroll (cs : List Char) : joinReroll (joinReroll cs) = joinReroll cs := by
  fun_induction joinReroll cs with
  | case1 cs ih =>
      rw [joinReroll_cons (by simp [reroll]), joinReroll_cons_of_ne (by decide),
        joinReroll_cons (by simp [reroll]), joinReroll_cons_of_ne (by decide),
        joinReroll_cons_of_ne (by decide), joinReroll_cons_of_ne (by decide), ih]
  | case2 c cs hno ih =>
      rw [joinReroll_cons, ih]
      intro ds heq
      obtain ⟨rfl, hrest⟩ := List.cons.inj heq
      obtain ⟨cs₁, rfl, h₁⟩ := exists_of_joinReroll_eq_cons hrest (by simp)
      obtain ⟨cs₂, rfl, h₂⟩ := exists_of_joinReroll_eq_cons h₁ (by simp)
      obtain ⟨cs₃, rfl, h₃⟩ := exists_of_joinReroll_eq_cons h₂ (by simp)
      obtain ⟨cs₄, rfl, h₄⟩ := exists_of_joinReroll_eq_cons h₃ (by simp)
      obtain ⟨cs₅, rfl, h₅⟩ := exists_of_joinReroll_eq_cons h₄ (by simp)
      obtain ⟨cs₆, rfl, -⟩ := exists_of_joinReroll_eq_cons h₅ (by simp)
      exact hno cs₆ rfl rfl
  | case3 => rfl

end Joined

section Normal

variable {c : Char} {cs : List Char}

/-- A text that normalising has nothing to do with. -/
structure IsNormal (cs : List Char) : Prop where
  settled : ∀ c ∈ cs, Settled c
  joined : ∀ w ∈ Text.words cs, joinReroll w = w
  collapsed : Text.collapseBlanks cs = cs

theorem IsNormal.normalChars_eq (h : IsNormal cs) : normalChars cs = cs := by
  have hlower : ∀ c ∈ cs, c.toLower = c := fun c hc => (h.settled c hc).toLower
  have hwords : (Text.words cs).map (fun w => joinReroll (w.map Char.toLower)) = Text.words cs := by
    refine (List.map_congr_left fun w hw => ?_).trans (List.map_id _)
    have hmap : w.map Char.toLower = w :=
      (List.map_congr_left fun c hc => hlower c (Text.mem_of_mem_words hw hc)).trans (List.map_id _)
    rw [hmap, h.joined w hw]
    rfl
  rw [Tag.normalChars_eq fun c hc => (hlower c hc).symm ▸ h.settled c hc, hwords]
  exact h.collapsed

theorem settled_of_isSmall (h : Text.IsSmall c) : Settled (plainDash c) := by
  unfold plainDash
  split
  · decide +kernel
  · exact ⟨h, if_neg ‹_›⟩

theorem settled_of_mem_map_plainDash_lower (h : c ∈ (Text.lower cs).map plainDash) : Settled c := by
  obtain ⟨d, hd, rfl⟩ := List.mem_map.1 h
  exact settled_of_isSmall (Text.isSmall_of_mem_lowerAfter hd)

theorem isNormal_normalChars (cs : List Char) : IsNormal (normalChars cs) := by
  have hwords : Text.words (normalChars cs) =
      (Text.words ((Text.lower cs).map plainDash)).map joinReroll := by
    rw [normalChars, Text.collapseBlanks, Text.words_intercalate fun w hw => Text.isWord_of_mem_words hw,
      words_joinReroll]
  refine ⟨fun c hc => ?_, fun w hw => ?_, ?_⟩
  · cases hblank : Text.isBlank c with
    | true => exact settled_of_isBlank hblank
    | false =>
        have hmem : c ∈ (Text.words (normalChars cs)).flatten := by
          rw [Text.flatten_words, Text.withoutBlanks, List.mem_filter, hblank]
          exact ⟨hc, rfl⟩
        rw [hwords] at hmem
        obtain ⟨w, hw, hcw⟩ := List.mem_flatten.1 hmem
        obtain ⟨v, hv, rfl⟩ := List.mem_map.1 hw
        exact settled_of_mem_map_plainDash_lower (Text.mem_of_mem_words hv (mem_of_mem_joinReroll hcw))
  · rw [hwords] at hw
    obtain ⟨v, -, rfl⟩ := List.mem_map.1 hw
    exact joinReroll_joinReroll v
  · rw [Text.collapseBlanks, normalChars, Text.collapseBlanks,
      Text.words_intercalate fun w hw => Text.isWord_of_mem_words hw]

@[simp] theorem normalChars_normalChars (cs : List Char) : normalChars (normalChars cs) = normalChars cs :=
  (isNormal_normalChars cs).normalChars_eq

@[simp] theorem normal_normal (tag : String) : normal (normal tag) = normal tag := by
  rw [normal, toList_normal, normalChars_normalChars, normal]

end Normal

end Tag

section Readers

variable {tags tags' : List String}

namespace Keyword

theorem parse?_normal (tag : String) : parse? (Tag.normal tag) = parse? tag := by
  rw [parse?, Tag.normal_normal, parse?]

theorem parse?_eq_comp : parse? = parseNormal? ∘ Tag.normal := by
  funext tag
  rw [parse?, Function.comp_apply]

theorem recognized_eq (tags : List String) :
    recognized tags = (tags.map Tag.normal).filterMap parseNormal? := by
  rw [List.filterMap_map, ← parse?_eq_comp, recognized]

theorem map_normal_unrecognized (tags : List String) :
    (unrecognized tags).map Tag.normal =
      (tags.map Tag.normal).filter fun t => (parseNormal? t).isNone := by
  have hunrecognized : unrecognized tags =
      tags.filter ((fun t => (parseNormal? t).isNone) ∘ Tag.normal) :=
    List.filter_congr fun t _ => by rw [parse?, Function.comp_apply]
  rw [List.filter_map, hunrecognized]

end Keyword

theorem WeaponEffects.ofTags_congr (h : tags.map Tag.normal = tags'.map Tag.normal) :
    ofTags tags = ofTags tags' := by
  rw [ofTags, ofTags, Keyword.recognized_eq, h, ← Keyword.recognized_eq]

theorem DefenderEffects.ofTags_congr (h : tags.map Tag.normal = tags'.map Tag.normal) :
    ofTags tags = ofTags tags' := by
  have hcategories : categoriesOf tags = categoriesOf tags' := by
    rw [categoriesOf, categoriesOf, Keyword.map_normal_unrecognized, h,
      ← Keyword.map_normal_unrecognized]
  rw [ofTags, ofTags, hcategories, Keyword.recognized_eq, h, ← Keyword.recognized_eq]

theorem map_normal_map_normal (tags : List String) :
    (tags.map Tag.normal).map Tag.normal = tags.map Tag.normal := by
  simp

namespace DefenderProfile

def inNormalForm (d : DefenderProfile) : DefenderProfile :=
  { d with unitType := d.unitType.map Tag.normal, keywords := d.keywords.map Tag.normal }

theorem declared_inNormalForm (d : DefenderProfile) :
    d.inNormalForm.declared = d.declared.map Tag.normal := by
  cases h : d.unitType <;> simp [inNormalForm, declared, h]

theorem matchesCategory_inNormalForm (d : DefenderProfile) (category : String) :
    d.inNormalForm.matchesCategory (Tag.normal category) = d.matchesCategory category := by
  simp only [matchesCategory, declared_inNormalForm, Tag.toList_normal, Tag.normalChars_normalChars,
    List.any_map, Function.comp_def]

end DefenderProfile

end Readers

/-- Normalising is a projection, and nothing that reads tags tells a tag from its normal form: not the
reader of keywords, not the effects of a list of tags, not the search for a category among a unit's type
and keywords. -/
theorem Tag.normal_projection :
    (∀ tag, normal (normal tag) = normal tag) ∧
    (∀ tag, Keyword.parse? tag = Keyword.parse? (normal tag)) ∧
    (∀ tags : List String,
      WeaponEffects.ofTags (tags.map normal) = WeaponEffects.ofTags tags ∧
      DefenderEffects.ofTags (tags.map normal) = DefenderEffects.ofTags tags) ∧
    ∀ (d : DefenderProfile) (category : String),
      d.inNormalForm.matchesCategory (normal category) = d.matchesCategory category := by
  refine ⟨normal_normal, fun tag => (Keyword.parse?_normal tag).symm, fun tags => ⟨?_, ?_⟩,
    DefenderProfile.matchesCategory_inNormalForm⟩
  · exact WeaponEffects.ofTags_congr (map_normal_map_normal tags)
  · exact DefenderEffects.ofTags_congr (map_normal_map_normal tags)

/-- The first `re-` stands in front of no `roll`, neither before joining nor after it. -/
example : Tag.normal "RE—re–roll  Hits" = "re-reroll hits" := by decide +kernel

end Salvo
