import Mathlib.Data.List.Perm.Basic
import Salvo.Proofs.Keyword.Bounds
import Salvo.Proofs.NameMap

/-!
# What effects depend on

Effects are found from a list of keywords in several ways: flags ask whether a keyword is there, net
modifiers add up what is there once, rerolls take the policy that wins, parameters and thresholds the
value that comes first. So lists with the same members and the same first values have the same effects
(`WeaponEffects.SameRules`, `DefenderEffects.SameRules`), and a tag that says again what an earlier one
has said has none (`effects_determined`).
-/

namespace Salvo

section Lists

variable {α β γ : Type} {xs ys zs : List α}

theorem findSome?_filterMap (f : α → Option β) (g : β → Option γ) (xs : List α) :
    (xs.filterMap f).findSome? g = xs.findSome? fun a => (f a).bind g := by
  induction xs with
  | nil => rfl
  | cons a xs ih =>
      rw [List.filterMap_cons, List.findSome?_cons]
      cases f a with
      | none => exact ih
      | some b =>
          rw [List.findSome?_cons, ih]
          rfl

theorem findSome?_append_of_subset (h : ys ⊆ xs) (f : α → Option β) :
    (xs ++ ys ++ zs).findSome? f = (xs ++ zs).findSome? f := by
  rw [List.findSome?_append, List.findSome?_append, List.findSome?_append]
  cases hxs : xs.findSome? f with
  | some b => rfl
  | none =>
      have hys : ys.findSome? f = none :=
        List.findSome?_eq_none_iff.2 fun a ha => List.findSome?_eq_none_iff.1 hxs a (h ha)
      rw [hys]
      rfl

variable [BEq α] [LawfulBEq α]

theorem eraseDups_append_of_subset (h : ys ⊆ xs) :
    (xs ++ ys ++ zs).eraseDups = (xs ++ zs).eraseDups := by
  have hnone : ys.removeAll xs = [] := by
    refine List.filter_eq_nil_iff.2 fun a ha => ?_
    simpa using h ha
  have hrest : (ys ++ zs).removeAll xs = zs.removeAll xs := by
    rw [List.removeAll, List.filter_append]
    exact congrArg (· ++ zs.removeAll xs) hnone
  rw [List.append_assoc, List.eraseDups_append, List.eraseDups_append, hrest]

theorem eraseDups_perm (h : ∀ a, a ∈ xs ↔ a ∈ ys) : xs.eraseDups.Perm ys.eraseDups :=
  (List.perm_ext_iff_of_nodup (nodup_eraseDups xs) (nodup_eraseDups ys)).2 fun a => by
    rw [List.mem_eraseDups, List.mem_eraseDups, h]

end Lists

namespace Keyword

def antiAt? (category : String) : Keyword → Option Nat
  | anti c threshold => if c = category then some threshold else none
  | _ => none

section Members

variable {ks ls : List Keyword} (h : ∀ k, k ∈ ks ↔ k ∈ ls)

include h

theorem contains_congr (k : Keyword) : ks.contains k = ls.contains k := by
  rw [Bool.eq_iff_iff, List.contains_iff_mem, List.contains_iff_mem]
  exact h k

theorem mem_filterMap_congr {α : Type} (f : Keyword → Option α) (a : α) :
    a ∈ ks.filterMap f ↔ a ∈ ls.filterMap f := by
  simp only [List.mem_filterMap, h]

theorem net_congr (stage : Stage) : net stage ks = net stage ls :=
  (eraseDups_perm (mem_filterMap_congr h (deltaAt? stage))).foldl_eq 0

/-- The policy that wins is the least one that no policy of the list wins against. -/
theorem rerollOf_congr (stage : Stage) : rerollOf stage ks = rerollOf stage ls := by
  have hle (l : List RerollPolicy) (p : RerollPolicy) (n : Nat) :
      (l.foldl RerollPolicy.merge p).precedence ≤ n ↔
        p.precedence ≤ n ∧ ∀ q ∈ l, q.precedence ≤ n := by
    induction l generalizing p with
    | nil => simp
    | cons q l ih =>
        rw [List.foldl_cons, ih, RerollPolicy.precedence_merge, Nat.max_le, List.forall_mem_cons,
          and_assoc]
  have hbound (n : Nat) : (rerollOf stage ks).precedence ≤ n ↔ (rerollOf stage ls).precedence ≤ n := by
    simp only [rerollOf, hle, mem_filterMap_congr h]
  refine RerollPolicy.precedence_injective (Nat.le_antisymm ?_ ?_)
  · exact (hbound _).2 (Nat.le_refl _)
  · exact (hbound _).1 (Nat.le_refl _)

theorem any_deltaAt?_congr (stage : Stage) (p : Int → Bool) :
    (ks.filterMap (deltaAt? stage)).any p = (ls.filterMap (deltaAt? stage)).any p := by
  rw [Bool.eq_iff_iff, List.any_eq_true, List.any_eq_true]
  simp only [mem_filterMap_congr h]

end Members

/-- A map filled with pairs keeps what it had, and takes the first value of each other name. -/
theorem get?_foldl_insertNew (l : List (String × Nat)) (m : NameMap Nat) (category : String) :
    (l.foldl (fun m e => m.insertNew e.1 e.2) m).get? category =
      (m.get? category).or (l.findSome? fun e => if e.1 = category then some e.2 else none) := by
  induction l generalizing m with
  | nil => simp
  | cons e l ih =>
      rw [List.foldl_cons, ih, NameMap.get?_insertNew, Option.or_assoc, List.findSome?_cons]
      cases m.get? category with
      | some n => rfl
      | none =>
          by_cases he : e.1 = category
          · simp [he]
          · simp [he]

theorem get?_antiOf (ks : List Keyword) (category : String) :
    (antiOf ks).get? category = ks.findSome? (antiAt? category) := by
  have hpair (k : Keyword) : ((antiPair? k).bind fun e =>
      if e.1 = category then some e.2 else none) = antiAt? category k := by
    cases k <;> rfl
  rw [antiOf, get?_foldl_insertNew, findSome?_filterMap, funext hpair]
  rfl

theorem recognized_append (tags tags' : List String) :
    recognized (tags ++ tags') = recognized tags ++ recognized tags' :=
  List.filterMap_append

/-- A tag says what another one says: the same rule in whatever spelling, or no rule in the same
normal form. -/
def Restates (r t : String) : Prop :=
  Tag.normal r = Tag.normal t ∨ ∃ k, parse? r = some k ∧ parse? t = some k

theorem Restates.parse?_eq {r t : String} (h : Restates r t) : parse? r = parse? t := by
  rcases h with h | ⟨k, hr, ht⟩
  · rw [parse?, parse?, h]
  · rw [hr, ht]

theorem Restates.normal_eq {r t : String} (h : Restates r t) (hnone : parse? r = none) :
    Tag.normal r = Tag.normal t := by
  rcases h with h | ⟨k, hr, -⟩
  · exact h
  · rw [hnone] at hr
    cases hr

end Keyword

section Rules

/-- Two lists hold the same rules, and of those with a parameter the same ones come first. -/
structure WeaponEffects.SameRules (ks ls : List Keyword) : Prop where
  mem_iff : ∀ k, k ∈ ks ↔ k ∈ ls
  sustainedHits : ks.findSome? Keyword.sustainedHits? = ls.findSome? Keyword.sustainedHits?
  rapidFire : ks.findSome? Keyword.rapidFire? = ls.findSome? Keyword.rapidFire?
  melta : ks.findSome? Keyword.melta? = ls.findSome? Keyword.melta?
  anti : ∀ category,
    ks.findSome? (Keyword.antiAt? category) = ls.findSome? (Keyword.antiAt? category)

/-- Two lists hold the same rules, and the same value of Feel No Pain comes first. -/
structure DefenderEffects.SameRules (ks ls : List Keyword) : Prop where
  mem_iff : ∀ k, k ∈ ks ↔ k ∈ ls
  feelNoPain : ks.findSome? Keyword.feelNoPain? = ls.findSome? Keyword.feelNoPain?

variable {ks ls : List Keyword}

theorem WeaponEffects.ofKeywords_congr (h : SameRules ks ls) : ofKeywords ks = ofKeywords ls := by
  have hanti : Keyword.antiOf ks = Keyword.antiOf ls :=
    NameMap.ext_get? fun category => by
      rw [Keyword.get?_antiOf, Keyword.get?_antiOf, h.anti]
  simp only [ofKeywords, Keyword.contains_congr h.mem_iff, Keyword.net_congr h.mem_iff,
    Keyword.rerollOf_congr h.mem_iff, h.sustainedHits, h.rapidFire, h.melta, hanti]

theorem DefenderEffects.ofKeywords_congr (h : SameRules ks ls) (categories : List String) :
    ofKeywords ks categories = ofKeywords ls categories := by
  simp only [ofKeywords, Keyword.contains_congr h.mem_iff, Keyword.net_congr h.mem_iff,
    Keyword.any_deltaAt?_congr h.mem_iff, h.feelNoPain]

/-- The same effects, but for the order of the categories. -/
def DefenderEffects.Alike (fx gx : DefenderEffects) : Prop :=
  { fx with categories := [] } = { gx with categories := [] } ∧ fx.categories.Perm gx.categories

theorem DefenderEffects.alike_ofTags {tags tags' : List String}
    (h : SameRules (Keyword.recognized tags) (Keyword.recognized tags'))
    (hcategories : ∀ c, c ∈ (Keyword.unrecognized tags).map Tag.normal ↔
      c ∈ (Keyword.unrecognized tags').map Tag.normal) :
    (ofTags tags).Alike (ofTags tags') := by
  constructor
  · exact ofKeywords_congr h []
  · refine eraseDups_perm fun c => ?_
    rw [List.mem_filter, List.mem_filter, hcategories]

variable {before repeats : List String} (h : ∀ r ∈ repeats, ∃ t ∈ before, Keyword.Restates r t)

include h

theorem Keyword.recognized_subset : Keyword.recognized repeats ⊆ Keyword.recognized before := by
  intro k hk
  obtain ⟨r, hr, hparse⟩ := List.mem_filterMap.1 hk
  obtain ⟨t, ht, hrestates⟩ := h r hr
  exact List.mem_filterMap.2 ⟨t, ht, hrestates.parse?_eq ▸ hparse⟩

theorem Keyword.normal_unrecognized_subset :
    (Keyword.unrecognized repeats).map Tag.normal ⊆ (Keyword.unrecognized before).map Tag.normal := by
  intro c hc
  obtain ⟨r, hr, rfl⟩ := List.mem_map.1 hc
  obtain ⟨hmem, hnone⟩ := List.mem_filter.1 hr
  obtain ⟨t, ht, hrestates⟩ := h r hmem
  have hunread : parse? r = none := Option.isNone_iff_eq_none.1 hnone
  have htunread : parse? t = none := hrestates.parse?_eq ▸ hunread
  refine List.mem_map.2 ⟨t, List.mem_filter.2 ⟨ht, ?_⟩, (hrestates.normal_eq hunread).symm⟩
  rw [htunread]
  rfl

theorem Keyword.mem_recognized_repeats (after : List String) (k : Keyword) :
    k ∈ Keyword.recognized (before ++ repeats ++ after) ↔
      k ∈ Keyword.recognized (before ++ after) := by
  have hsubset := Keyword.recognized_subset h
  simp only [Keyword.recognized_append, List.mem_append]
  exact ⟨Or.imp_left fun hk => hk.elim id (@hsubset k), Or.imp_left .inl⟩

theorem Keyword.findSome?_recognized_repeats {β : Type} (after : List String)
    (f : Keyword → Option β) :
    (Keyword.recognized (before ++ repeats ++ after)).findSome? f =
      (Keyword.recognized (before ++ after)).findSome? f := by
  simp only [Keyword.recognized_append]
  exact findSome?_append_of_subset (Keyword.recognized_subset h) f

theorem WeaponEffects.ofTags_repeats (after : List String) :
    ofTags (before ++ repeats ++ after) = ofTags (before ++ after) :=
  have hfirst {β : Type} (f : Keyword → Option β) :=
    Keyword.findSome?_recognized_repeats h after f
  ofKeywords_congr {
    mem_iff := Keyword.mem_recognized_repeats h after
    sustainedHits := hfirst _
    rapidFire := hfirst _
    melta := hfirst _
    anti := fun _ => hfirst _ }

theorem DefenderEffects.categoriesOf_repeats (after : List String) :
    categoriesOf (before ++ repeats ++ after) = categoriesOf (before ++ after) := by
  have hsubset : ((Keyword.unrecognized repeats).map Tag.normal).filter (!·.isEmpty) ⊆
      ((Keyword.unrecognized before).map Tag.normal).filter (!·.isEmpty) :=
    List.filter_subset _ (Keyword.normal_unrecognized_subset h)
  simp only [categoriesOf, Keyword.unrecognized, List.filter_append, List.map_append]
  exact eraseDups_append_of_subset hsubset

theorem DefenderEffects.ofTags_repeats (after : List String) :
    ofTags (before ++ repeats ++ after) = ofTags (before ++ after) := by
  rw [ofTags, categoriesOf_repeats h]
  exact ofKeywords_congr {
    mem_iff := Keyword.mem_recognized_repeats h after
    feelNoPain := Keyword.findSome?_recognized_repeats h after _ } _

end Rules

section Main

def WeaponEffects.netModifiers (fx : WeaponEffects) : List Int :=
  [fx.hitModifier, fx.woundModifier, fx.saveModifier, fx.damageModifier]

def DefenderEffects.netModifiers (fx : DefenderEffects) : List Int :=
  [fx.hitModifier, fx.woundModifier, fx.saveModifier]

theorem Keyword.net_eq (stage : Stage) (tags : List String) :
    net stage (recognized tags) = -1 ∨ net stage (recognized tags) = 0 ∨
      net stage (recognized tags) = 1 := by
  have hbounds := net_mem stage tags
  omega

/-- The effects of tags depend on which rules they are and on the values that come first; those of a
defender also on which tags are no rules, with its categories in their order. Tags that restate earlier
ones can be left out, and net modifiers are one up, one down or nothing. -/
theorem effects_determined :
    (∀ tags tags' : List String,
      WeaponEffects.SameRules (Keyword.recognized tags) (Keyword.recognized tags') →
        WeaponEffects.ofTags tags = WeaponEffects.ofTags tags') ∧
    (∀ tags tags' : List String,
      DefenderEffects.SameRules (Keyword.recognized tags) (Keyword.recognized tags') →
      (∀ c, c ∈ (Keyword.unrecognized tags).map Tag.normal ↔
        c ∈ (Keyword.unrecognized tags').map Tag.normal) →
        (DefenderEffects.ofTags tags).Alike (DefenderEffects.ofTags tags')) ∧
    (∀ before repeats after : List String, (∀ r ∈ repeats, ∃ t ∈ before, Keyword.Restates r t) →
      WeaponEffects.ofTags (before ++ repeats ++ after) = WeaponEffects.ofTags (before ++ after) ∧
      DefenderEffects.ofTags (before ++ repeats ++ after) =
        DefenderEffects.ofTags (before ++ after)) ∧
    ∀ tags : List String,
      (∀ n ∈ (WeaponEffects.ofTags tags).netModifiers, n = -1 ∨ n = 0 ∨ n = 1) ∧
      ∀ n ∈ (DefenderEffects.ofTags tags).netModifiers, n = -1 ∨ n = 0 ∨ n = 1 := by
  refine ⟨fun tags tags' h => ?_, fun tags tags' h hcategories => ?_, fun before repeats after h => ?_,
    fun tags => ⟨?_, ?_⟩⟩
  · exact WeaponEffects.ofKeywords_congr h
  · exact DefenderEffects.alike_ofTags h hcategories
  · exact ⟨WeaponEffects.ofTags_repeats h after, DefenderEffects.ofTags_repeats h after⟩
  · have hnet := fun stage => Keyword.net_eq stage tags
    simpa [WeaponEffects.netModifiers] using ⟨hnet .hit, hnet .wound, hnet .save, hnet .damage⟩
  · have hnet := fun stage => Keyword.net_eq stage tags
    simpa [DefenderEffects.netModifiers] using ⟨hnet .hit, hnet .wound, hnet .save⟩

/-- Tags in two orders and several spellings, some of them twice. -/
theorem effects_determined_spellings :
    WeaponEffects.ofTags ["Lethal Hits", "Anti-Infantry 4+", "anti-infantry 3+", "+1 to hit"] =
        WeaponEffects.ofTags ["+1 hit", "anti infantry 4", "LETHAL  HITS", "anti-infantry 3+",
          "+1 to hits"] ∧
      (DefenderEffects.ofTags ["Infantry", "fnp 5+", "-1 damage", "Stealth"]).Alike
        (DefenderEffects.ofTags ["stealth", "-1 to damage", "INFANTRY", "Feel No Pain 5",
          "infantry"]) ∧
      WeaponEffects.ofTags (["re-roll hits", "Blast"] ++ ["Reroll hit", "BLAST"] ++ ["heavy"]) =
        WeaponEffects.ofTags (["re-roll hits", "Blast"] ++ ["heavy"]) := by
  have hweapon : Keyword.recognized
      ["Lethal Hits", "Anti-Infantry 4+", "anti-infantry 3+", "+1 to hit"] =
      [.lethalHits, .anti "infantry" 4, .anti "infantry" 3, .modifier .hit 1] := by decide +kernel
  have hweapon' : Keyword.recognized
      ["+1 hit", "anti infantry 4", "LETHAL  HITS", "anti-infantry 3+", "+1 to hits"] =
      [.modifier .hit 1, .anti "infantry" 4, .lethalHits, .anti "infantry" 3, .modifier .hit 1] := by
    decide +kernel
  have hdefender : Keyword.recognized ["Infantry", "fnp 5+", "-1 damage", "Stealth"] =
      [.feelNoPain 5, .modifier .damage (-1), .stealth] := by decide +kernel
  have hdefender' : Keyword.recognized
      ["stealth", "-1 to damage", "INFANTRY", "Feel No Pain 5", "infantry"] =
      [.stealth, .modifier .damage (-1), .feelNoPain 5] := by decide +kernel
  refine ⟨effects_determined.1 _ _ ?_, effects_determined.2.1 _ _ ?_ fun c => ?_,
    (effects_determined.2.2.1 _ _ _ ?_).1⟩
  · rw [hweapon, hweapon']
    refine ⟨fun k => ⟨?_, ?_⟩, rfl, rfl, rfl, fun category => ?_⟩
    · revert k
      decide
    · revert k
      decide
    · simp [List.findSome?_cons, Keyword.antiAt?]
  · rw [hdefender, hdefender']
    refine ⟨fun k => ⟨?_, ?_⟩, rfl⟩
    · revert k
      decide
    · revert k
      decide
  · have hnormal : (Keyword.unrecognized ["Infantry", "fnp 5+", "-1 damage", "Stealth"]).map
        Tag.normal = ["infantry"] := by decide +kernel
    have hnormal' : (Keyword.unrecognized
        ["stealth", "-1 to damage", "INFANTRY", "Feel No Pain 5", "infantry"]).map Tag.normal =
        ["infantry", "infantry"] := by decide +kernel
    rw [hnormal, hnormal']
    simp
  · have hreroll : Keyword.Restates "Reroll hit" "re-roll hits" :=
      .inr ⟨.reroll .hit .misses, by decide +kernel, by decide +kernel⟩
    have hblast : Keyword.Restates "BLAST" "Blast" := .inl (by decide +kernel)
    simp only [List.forall_mem_cons]
    exact ⟨⟨_, by simp, hreroll⟩, ⟨_, by simp, hblast⟩, fun _ h => nomatch h⟩

end Main

end Salvo
