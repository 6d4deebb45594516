import Mathlib.Data.List.Induction
import Salvo.Proofs.Keyword.Bounds
import Salvo.Proofs.Keyword.Projection

/-!
# Categories of a unit

A list of tags is split into rules and categories. The categories are collected tag by tag, so that they
come out in the order in which their normal forms come first (`collects_categoriesOf`). They are no rules,
the rules have their effects without them, and each of them can be found (`tags_split`).
-/

namespace Salvo

namespace Keyword

/-- The tags that are rules. -/
def rulesAmong (tags : List String) : List String := tags.filter fun t => (parse? t).isSome

theorem recognized_rulesAmong (tags : List String) :
    recognized (rulesAmong tags) = recognized tags := by
  have hparse (t : String) : (if (parse? t).isSome then parse? t else none) =
      parse? t := by
    cases parse? t <;> rfl
  rw [rulesAmong, recognized, List.filterMap_filter]
  simp only [hparse, recognized]

theorem unrecognized_rulesAmong (tags : List String) : unrecognized (rulesAmong tags) = [] := by
  refine List.filter_eq_nil_iff.2 fun t ht => ?_
  rw [Option.isNone_iff_eq_none, ← ne_eq, Option.ne_none_iff_isSome]
  exact (List.mem_filter.1 ht).2

end Keyword

namespace DefenderEffects

/-- The members of a list of normal forms but the empty one, each once and in the order in which they come
first. -/
structure Collects (forms categories : List String) : Prop where
  mem_iff : ∀ c, c ∈ categories ↔ c ∈ forms ∧ c ≠ ""
  nodup : categories.Nodup
  ordered : categories.Pairwise fun a b => forms.idxOf a < forms.idxOf b

namespace Collects

variable {forms categories : List String} {c : String}

/-- What is found in a list is found at the same place if more is added behind it. -/
theorem ordered_append (h : Collects forms categories) (later : List String) :
    categories.Pairwise fun a b => (forms ++ later).idxOf a < (forms ++ later).idxOf b := by
  refine h.ordered.imp_of_mem fun {a b} ha hb hlt => ?_
  rwa [List.idxOf_append_of_mem ((h.mem_iff a).1 ha).1, List.idxOf_append_of_mem ((h.mem_iff b).1 hb).1]

theorem append_of_skipped (h : Collects forms categories) (hskip : c = "" ∨ c ∈ categories) :
    Collects (forms ++ [c]) categories where
  mem_iff d := by
    rw [h.mem_iff, List.mem_append, List.mem_singleton]
    constructor
    · exact fun hd => ⟨.inl hd.1, hd.2⟩
    · rintro ⟨hd | rfl, hne⟩
      · exact ⟨hd, hne⟩
      · exact (h.mem_iff d).1 (hskip.resolve_left hne)
  nodup := h.nodup
  ordered := h.ordered_append [c]

theorem append_of_new (h : Collects forms categories) (hne : c ≠ "") (hnew : c ∉ categories) :
    Collects (forms ++ [c]) (categories ++ [c]) where
  mem_iff d := by
    rw [List.mem_append, List.mem_append, h.mem_iff, List.mem_singleton]
    constructor
    · rintro (hd | rfl)
      · exact ⟨.inl hd.1, hd.2⟩
      · exact ⟨.inr rfl, hne⟩
    · rintro ⟨hd | rfl, hdne⟩
      · exact .inl ⟨hd, hdne⟩
      · exact .inr rfl
  nodup := List.Nodup.append h.nodup (List.nodup_singleton c) (by simpa using hnew)
  ordered := by
    have hform : c ∉ forms := fun hmem => hnew ((h.mem_iff c).2 ⟨hmem, hne⟩)
    refine List.pairwise_append.2 ⟨h.ordered_append [c], List.pairwise_singleton _ _, fun a ha b hb => ?_⟩
    have haform := ((h.mem_iff a).1 ha).1
    rw [List.mem_singleton.1 hb, List.idxOf_append_of_mem haform, List.idxOf_append_of_notMem hform]
    exact Nat.lt_add_right _ (List.idxOf_lt_length_of_mem haform)

theorem eq (h : Collects forms categories) {cs : List String} (hcs : Collects forms cs) :
    categories = cs := by
  refine List.Perm.eq_of_pairwise (fun a b _ _ hab hba => absurd hab (Nat.lt_asymm hba)) h.ordered
    hcs.ordered ?_
  refine (List.perm_ext_iff_of_nodup h.nodup hcs.nodup).2 fun c => ?_
  rw [h.mem_iff, hcs.mem_iff]

end Collects

theorem eraseDups_append_singleton {α : Type} [DecidableEq α] (l : List α) (a : α) :
    (l ++ [a]).eraseDups = if a ∈ l then l.eraseDups else l.eraseDups ++ [a] := by
  have hsingleton : [a].eraseDups = [a] := by rw [List.eraseDups_cons]; rfl
  rw [List.eraseDups_append, List.removeAll]
  split <;> simp [*]

theorem collects_eraseDups (forms : List String) :
    Collects forms (forms.filter fun c => !c.isEmpty).eraseDups := by
  induction forms using List.reverseRecOn with
  | nil => exact ⟨by simp, List.nodup_nil, .nil⟩
  | append_singleton forms c ih =>
      by_cases hempty : c = ""
      · have hskipped := ih.append_of_skipped (.inl hempty)
        simpa [hempty] using hskipped
      · have hkept : [c].filter (fun c => !c.isEmpty) = [c] := by simp [hempty]
        rw [List.filter_append, hkept, eraseDups_append_singleton]
        split
        · rename_i hmem
          exact ih.append_of_skipped (.inr (List.mem_eraseDups.2 hmem))
        · rename_i hnew
          exact ih.append_of_new hempty (mt List.mem_eraseDups.1 hnew)

section Tags

variable {tags : List String} {c : String}

theorem collects_categoriesOf (tags : List String) :
    Collects ((Keyword.unrecognized tags).map Tag.normal) (categoriesOf tags) :=
  collects_eraseDups _

theorem exists_of_mem_categoriesOf (h : c ∈ categoriesOf tags) :
    ∃ t ∈ tags, Keyword.parse? t = none ∧ Tag.normal t = c ∧ c ≠ "" := by
  obtain ⟨hform, hne⟩ := ((collects_categoriesOf tags).mem_iff c).1 h
  obtain ⟨t, ht, hnormal⟩ := List.mem_map.1 hform
  obtain ⟨hmem, hnone⟩ := List.mem_filter.1 ht
  exact ⟨t, hmem, Option.isNone_iff_eq_none.1 hnone, hnormal, hne⟩

theorem mem_categoriesOf_of_mem {t : String} (ht : t ∈ tags) (hnone : Keyword.parse? t = none)
    (hne : Tag.normal t ≠ "") : Tag.normal t ∈ categoriesOf tags := by
  refine ((collects_categoriesOf tags).mem_iff _).2 ⟨List.mem_map_of_mem ?_, hne⟩
  exact List.mem_filter.2 ⟨ht, Option.isNone_iff_eq_none.2 hnone⟩

theorem recognized_categoriesOf (tags : List String) : Keyword.recognized (categoriesOf tags) = [] := by
  refine List.filterMap_eq_nil_iff.2 fun c hc => ?_
  obtain ⟨t, -, hnone, rfl, -⟩ := exists_of_mem_categoriesOf hc
  rw [Keyword.parse?_normal, hnone]

theorem ofTags_rulesAmong (tags : List String) :
    ofTags (Keyword.rulesAmong tags) = { ofTags tags with categories := [] } := by
  rw [ofTags, categoriesOf, Keyword.unrecognized_rulesAmong, Keyword.recognized_rulesAmong]
  rfl

end Tags

end DefenderEffects

namespace DefenderProfile

variable {d : DefenderProfile} {category : String}

theorem matchesCategory_iff :
    d.matchesCategory category = true ↔ Tag.normal category ≠ "" ∧
      ∃ t ∈ d.declared, (Tag.normal category).toList <:+: (Tag.normal t).toList := by
  have hne : Tag.normal category ≠ "" ↔ Tag.normalChars category.toList ≠ [] := by
    rw [ne_eq, ne_eq, ← String.toList_eq_nil_iff, Tag.toList_normal]
  simp only [matchesCategory, hne, Tag.toList_normal, Bool.and_eq_true, Bool.not_eq_true',
    List.isEmpty_eq_false_iff, List.any_eq_true, Text.contains_iff]

theorem matchesCategory_withKeywords_iff {tags : List String} :
    (d.withKeywords tags).matchesCategory category = true ↔ Tag.normal category ≠ "" ∧
      ((∃ c ∈ (DefenderEffects.ofTags tags).categories, (Tag.normal category).toList <:+: c.toList) ∨
        (∃ u ∈ d.unitType, (Tag.normal category).toList <:+: (Tag.normal u).toList) ∨
        ∃ t ∈ Keyword.rulesAmong tags, (Tag.normal category).toList <:+: (Tag.normal t).toList) := by
  rw [matchesCategory_iff]
  refine and_congr_right fun hne => ?_
  constructor
  · rintro ⟨t, ht, hinfix⟩
    rcases List.mem_append.1 ht with hunit | hmem
    · exact .inr (.inl ⟨t, Option.mem_toList.1 hunit, hinfix⟩)
    · cases hparse : Keyword.parse? t with
      | some k => exact .inr (.inr ⟨t, List.mem_filter.2 ⟨hmem, by rw [hparse]; rfl⟩, hinfix⟩)
      | none =>
          have hform : Tag.normal t ≠ "" := by
            intro hempty
            rw [hempty] at hinfix
            exact hne (String.toList_eq_nil_iff.1 (List.infix_nil.1 hinfix))
          exact .inl ⟨_, DefenderEffects.mem_categoriesOf_of_mem hmem hparse hform, hinfix⟩
  · rintro (⟨c, hc, hinfix⟩ | ⟨u, hu, hinfix⟩ | ⟨t, ht, hinfix⟩)
    · obtain ⟨t, ht, -, rfl, -⟩ := DefenderEffects.exists_of_mem_categoriesOf hc
      exact ⟨t, List.mem_append_right _ ht, hinfix⟩
    · exact ⟨u, List.mem_append_left _ (Option.mem_toList.2 hu), hinfix⟩
    · exact ⟨t, List.mem_append_right _ (List.mem_filter.1 ht).1, hinfix⟩

end DefenderProfile

/-- A unit's tags are split without loss. Its categories are the normal forms of the tags that are no
rules, but the empty one, each once and in the order in which they come first; none of them is a rule.
Without these tags the other effects are the same. And a search for a category succeeds exactly if its
normal form is not empty and stands in a category, in the unit's type or in one of its rules. -/
theorem DefenderEffects.tags_split (tags : List String) :
    (∀ categories, (ofTags tags).categories = categories ↔
      Collects ((Keyword.unrecognized tags).map Tag.normal) categories) ∧
    Keyword.recognized (ofTags tags).categories = [] ∧
    ofTags (Keyword.rulesAmong tags) = { ofTags tags with categories := [] } ∧
    ∀ (d : DefenderProfile) (category : String),
      (d.withKeywords tags).matchesCategory category = true ↔ Tag.normal category ≠ "" ∧
        ((∃ c ∈ (ofTags tags).categories, (Tag.normal category).toList <:+: c.toList) ∨
          (∃ u ∈ d.unitType, (Tag.normal category).toList <:+: (Tag.normal u).toList) ∨
          ∃ t ∈ Keyword.rulesAmong tags,
            (Tag.normal category).toList <:+: (Tag.normal t).toList) := by
  refine ⟨fun categories => ?_, recognized_categoriesOf tags, ofTags_rulesAmong tags, fun d category =>
    DefenderProfile.matchesCategory_withKeywords_iff⟩
  have hcollects : Collects _ (ofTags tags).categories := collects_categoriesOf tags
  constructor
  · rintro rfl
    exact hcollects
  · exact hcollects.eq

/-- Spellings of one category count once, and a rule in between is none. -/
example : (DefenderEffects.ofTags ["Re–Roll charges", "Infantry", "fnp 5+", " ", "INFANTRY ",
    "reroll  charges"]).categories = ["reroll charges", "infantry"] := by decide +kernel

end Salvo
