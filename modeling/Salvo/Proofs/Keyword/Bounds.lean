import Mathlib.Data.List.Nodup
import Mathlib.Data.Option.Basic
import Salvo.Keyword.Effects
import Salvo.Proofs.Dice.Reading

/-!
# Bounds of keywords

What a tag says about numbers is bounded: modifiers are one up or down, thresholds and bonuses are
counts, and dice expressions can be written. This is read off from where the reader finds parameters
(`Parametrised`). Of equal modifiers only one counts, so at each stage the net modifier is one up or down
as well, or nothing.
-/

namespace Salvo

namespace Keyword

section Readers

variable {cs : List Char} {k : Keyword}

/-- The rules whose parameter is a threshold, by the phrases for them. -/
inductive ThresholdRule : String → (Nat → Keyword) → Prop
  | rapidFire : ThresholdRule "rapid fire" rapidFire
  | melta : ThresholdRule "melta" melta
  | feelNoPain : ThresholdRule "feel no pain" feelNoPain
  | fnp : ThresholdRule "fnp" feelNoPain

/-- What is read from a text that is no fixed phrase: where the parameters come from, and for thresholds
also where they stand. -/
inductive Parametrised : List Char → Keyword → Prop
  | sustained {cs : List Char} {s : String} {e : DiceExpr} :
      DiceExpr.parse s = .ok e → Parametrised cs (sustainedHits e)
  | threshold {phrase : String} {rule : Nat → Keyword} {rest : List Char} {n : Nat} :
      ThresholdRule phrase rule → threshold? rest = some n →
      Parametrised (phrase.toList ++ rest) (rule n)
  | anti {cs rest : List Char} {category : String} {n : Nat} :
      threshold? rest = some n → Parametrised cs (anti category n)
  | reroll {cs : List Char} {stage : Stage} {policy : RerollPolicy} : Parametrised cs (reroll stage policy)
  | modifier {cs : List Char} {stage : Stage} {delta : Int} :
      delta = 1 ∨ delta = -1 → Parametrised cs (modifier stage delta)

theorem parametrised_of_sustained? {rest : List Char} (h : sustained? rest = some k) :
    Parametrised cs k := by
  rw [sustained?] at h
  split at h
  · rename_i hparse
    cases h
    exact .sustained hparse
  · cases h

theorem parametrised_of_threshold? {phrase : String} {rule : Nat → Keyword} {rest : List Char}
    (hrule : ThresholdRule phrase rule) (hstart : Text.after? phrase cs = some rest)
    (h : (threshold? rest).map rule = some k) : Parametrised cs k := by
  obtain ⟨n, hn, rfl⟩ := Option.map_eq_some_iff.1 h
  rw [← List.isPrefixOf?_eq_some_iff_append_eq.1 hstart]
  exact .threshold hrule hn

theorem parametrised_of_anti? {rest : List Char} (h : anti? rest = some k) : Parametrised cs k := by
  simp only [anti?, Option.bind_eq_bind, Option.bind_eq_some_iff, Option.pure_def,
    Option.some.injEq] at h
  obtain ⟨⟨category, rest⟩, -, -, -, n, hn, rfl⟩ := h
  exact .anti hn

theorem parametrised_of_reroll? {rest : List Char} (h : reroll? rest = some k) : Parametrised cs k := by
  obtain ⟨-, -, rfl⟩ := Option.map_eq_some_iff.1 h
  exact .reroll

theorem delta?_eq {word : String} {delta : Int} (h : delta? word = some delta) :
    delta = 1 ∨ delta = -1 := by
  unfold delta? at h
  split at h
  · cases h
    exact .inl rfl
  · cases h
    exact .inr rfl
  · cases h

theorem parametrised_of_build {delta stage : String} (h : modifier?.build delta stage = some k) :
    Parametrised cs k := by
  simp only [modifier?.build, Option.bind_eq_bind, Option.bind_eq_some_iff, Option.pure_def,
    Option.some.injEq] at h
  obtain ⟨-, -, delta, hdelta, rfl⟩ := h
  exact .modifier (delta?_eq hdelta)

theorem parametrised_of_modifier? (h : modifier? cs = some k) : Parametrised cs k := by
  rw [modifier?] at h
  split at h
  · exact parametrised_of_build h
  · exact parametrised_of_build h
  · cases h

/-- The first phrase that the text starts with decides. -/
theorem parametrised_of_parametrised? (h : parametrised? cs = some k) : Parametrised cs k := by
  rw [parametrised?] at h
  split at h
  · exact parametrised_of_sustained? h
  split at h
  · exact parametrised_of_threshold? .rapidFire ‹_› h
  split at h
  · exact parametrised_of_threshold? .melta ‹_› h
  split at h
  · exact parametrised_of_threshold? .feelNoPain ‹_› h
  split at h
  · exact parametrised_of_threshold? .fnp ‹_› h
  split at h
  · exact parametrised_of_anti? h
  split at h
  · exact parametrised_of_anti? h
  split at h
  · exact parametrised_of_reroll? h
  · exact parametrised_of_modifier? h

end Readers

def InBounds : Keyword → Prop
  | sustainedHits e => e.Writable
  | rapidFire n => n ≤ maxCount
  | melta n => n ≤ maxCount
  | anti _ threshold => threshold ≤ maxCount
  | feelNoPain n => n ≤ maxCount
  | modifier _ delta => delta = 1 ∨ delta = -1
  | _ => True

theorem threshold?_le {cs : List Char} {n : Nat} (h : threshold? cs = some n) : n ≤ maxCount := by
  have hbound := (Option.filter_eq_some_iff.1 h).2
  simpa using hbound

theorem inBounds_of_phrase? {tag : String} {k : Keyword} (h : phrase? tag = some k) :
    k.InBounds := by
  unfold phrase? at h
  split at h <;> cases h <;> trivial

theorem Parametrised.inBounds {cs : List Char} {k : Keyword} (h : Parametrised cs k) : k.InBounds := by
  cases h with
  | sustained hparse => exact DiceExpr.parse_writable hparse
  | threshold hrule hn => cases hrule <;> exact threshold?_le hn
  | anti hn => exact threshold?_le hn
  | reroll => trivial
  | modifier hdelta => exact hdelta

theorem inBounds_of_parse? {tag : String} {k : Keyword} (h : parse? tag = some k) : k.InBounds := by
  rw [parse?, parseNormal?] at h
  split at h
  · rename_i hphrase
    cases h
    exact inBounds_of_phrase? hphrase
  · exact (parametrised_of_parametrised? h).inBounds

theorem inBounds_of_mem_recognized {tags : List String} {k : Keyword} (h : k ∈ recognized tags) :
    k.InBounds := by
  obtain ⟨tag, -, hparse⟩ := List.mem_filterMap.1 h
  exact inBounds_of_parse? hparse

end Keyword

section Net

/-- The library has the members of a list without repeats, but not that they do not repeat. -/
theorem nodup_eraseDups {α : Type} [BEq α] [LawfulBEq α] (l : List α) : l.eraseDups.Nodup := by
  match l with
  | [] => simp
  | a :: l =>
      have hrest := nodup_eraseDups (l.filter fun b => !b == a)
      have hnew : a ∉ (l.filter fun b => !b == a).eraseDups := by
        rw [List.mem_eraseDups, List.mem_filter]
        simp
      rw [List.eraseDups_cons]
      exact List.nodup_cons.2 ⟨hnew, hrest⟩
termination_by l.length
decreasing_by exact Nat.lt_succ_of_le (List.length_filter_le ..)

/-- Without repeats, steps of one up or down add up to no more than one step. -/
theorem sum_steps_mem {l : List Int} (hsteps : ∀ n ∈ l, n = 1 ∨ n = -1) (hnodup : l.Nodup) :
    -1 ≤ l.foldl (· + ·) 0 ∧ l.foldl (· + ·) 0 ≤ 1 := by
  match l with
  | [] => simp
  | [a] =>
      have ha := hsteps a (by simp)
      simp only [List.foldl_cons, List.foldl_nil]
      omega
  | [a, b] =>
      have ha := hsteps a (by simp)
      have hb := hsteps b (by simp)
      have hne : a ≠ b := by simpa using hnodup
      simp only [List.foldl_cons, List.foldl_nil]
      omega
  | a :: b :: c :: l =>
      have ha := hsteps a (by simp)
      have hb := hsteps b (by simp)
      have hc := hsteps c (by simp)
      have hne : a ≠ b ∧ a ≠ c ∧ b ≠ c := by
        simp only [List.nodup_cons, List.mem_cons, not_or] at hnodup
        exact ⟨hnodup.1.1, hnodup.1.2.1, hnodup.2.1.1⟩
      omega

theorem Keyword.net_mem (stage : Stage) (tags : List String) :
    -1 ≤ net stage (recognized tags) ∧ net stage (recognized tags) ≤ 1 := by
  refine sum_steps_mem (fun n hn => ?_) (nodup_eraseDups _)
  obtain ⟨k, hk, hdelta⟩ := List.mem_filterMap.1 (List.mem_eraseDups.1 hn)
  have hbounds := inBounds_of_mem_recognized hk
  cases k with
  | modifier s delta =>
      simp only [deltaAt?, Option.ite_none_right_eq_some, Option.some.injEq] at hdelta
      exact hdelta.2 ▸ hbounds
  | _ => cases hdelta

end Net

/-- The numbers that keywords do arithmetic with are in bounds. -/
structure WeaponEffects.InBounds (fx : WeaponEffects) : Prop where
  sustainedHits : ∀ e ∈ fx.sustainedHits, e.Writable
  melta : fx.melta.getD 0 ≤ maxCount
  hitModifier : -1 ≤ fx.hitModifier ∧ fx.hitModifier ≤ 1
  woundModifier : -1 ≤ fx.woundModifier ∧ fx.woundModifier ≤ 1
  saveModifier : -1 ≤ fx.saveModifier ∧ fx.saveModifier ≤ 1
  damageModifier : -1 ≤ fx.damageModifier ∧ fx.damageModifier ≤ 1

theorem WeaponEffects.inBounds_ofTags (tags : List String) : (ofTags tags).InBounds where
  sustainedHits e he := by
    obtain ⟨k, hk, hvalue⟩ := List.exists_of_findSome?_eq_some he
    have hbounds := Keyword.inBounds_of_mem_recognized hk
    cases k with
    | sustainedHits _ =>
        cases hvalue
        exact hbounds
    | _ => cases hvalue
  melta := by
    cases h : (ofTags tags).melta with
    | none => exact Nat.zero_le _
    | some n =>
        obtain ⟨k, hk, hvalue⟩ := List.exists_of_findSome?_eq_some h
        have hbounds := Keyword.inBounds_of_mem_recognized hk
        cases k with
        | melta _ =>
            cases hvalue
            exact hbounds
        | _ => cases hvalue
  hitModifier := Keyword.net_mem .hit tags
  woundModifier := Keyword.net_mem .wound tags
  saveModifier := Keyword.net_mem .save tags
  damageModifier := Keyword.net_mem .damage tags

/-- The modifiers of a defender's keywords are in bounds. -/
structure DefenderEffects.InBounds (fx : DefenderEffects) : Prop where
  hitModifier : -1 ≤ fx.hitModifier ∧ fx.hitModifier ≤ 1
  woundModifier : -1 ≤ fx.woundModifier ∧ fx.woundModifier ≤ 1
  saveModifier : -1 ≤ fx.saveModifier ∧ fx.saveModifier ≤ 1

theorem DefenderEffects.inBounds_ofTags (tags : List String) : (ofTags tags).InBounds where
  hitModifier := Keyword.net_mem .hit tags
  woundModifier := Keyword.net_mem .wound tags
  saveModifier := Keyword.net_mem .save tags

end Salvo
