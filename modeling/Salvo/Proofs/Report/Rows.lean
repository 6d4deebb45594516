import Mathlib.Data.List.Dedup
import Mathlib.Data.List.Induction
import Salvo.Proofs.NameMap
import Salvo.Report.Basic

/-!
# Rows of a report

A report is a map from names to results: it has one row for each attacker, defender and weapon with a
result, and adding a result changes that one look-up. The rows are in the order of their names, so no
names have two rows, and the number of rows is the number of names that have a result. The rows follow
from the look-ups, so of results that were added only the last ones show (`rows_insertAll_congr`).
-/

namespace Salvo

/-- The names that a result is reported under. -/
structure ResultNames where
  attacker : String
  defender : String
  weapon : String
deriving DecidableEq

/-- Attackers come first, then defenders, then weapons. -/
def ResultNames.Before (m n : ResultNames) : Prop :=
  m.attacker < n.attacker ∨ m.attacker = n.attacker ∧
    (m.defender < n.defender ∨ m.defender = n.defender ∧ m.weapon < n.weapon)

def ReportRow.names {α : Type} (row : ReportRow α) : ResultNames :=
  ⟨row.attacker, row.defender, row.weapon⟩

theorem ResultNames.Before.asymm {m n : ResultNames} (h : m.Before n) : ¬ n.Before m := by
  obtain ⟨a, d, w⟩ := m
  obtain ⟨a', d', w'⟩ := n
  simp only [Before] at h ⊢
  grind

theorem ResultNames.Before.ne {m n : ResultNames} (h : m.Before n) : m ≠ n := by
  rintro rfl
  exact h.asymm h

namespace Report

variable {α : Type}

def result? (r : Report α) (names : ResultNames) : Option (WeaponResult α) :=
  (r.get? names.attacker names.defender).bind (·.weapons.get? names.weapon)

@[simp] theorem result?_empty (names : ResultNames) : (empty : Report α).result? names = none := rfl

/-- An added result is found under its names, and what is found under other names stays. -/
theorem result?_insert (r : Report α) (names other : ResultNames) (result : WeaponResult α) :
    (r.insert names.attacker names.defender names.weapon result).result? other =
      if other = names then some result else r.result? other := by
  obtain ⟨a, d, k⟩ := names
  obtain ⟨a', d', k'⟩ := other
  rw [result?, insert]
  dsimp only
  by_cases hpair : a' = a ∧ d' = d
  · obtain ⟨rfl, rfl⟩ := hpair
    rw [get?_update_self, Option.bind_some]
    -- A missing entry counts as one without weapons.
    have hold : ((r.get? a' d').getD .empty).weapons.get? k' = r.result? ⟨a', d', k'⟩ := by
      rw [result?]
      cases r.get? a' d' <;> rfl
    rw [DefenderReport.insert, NameMap.get?_insert, hold]
    by_cases hk : k' = k <;> simp [hk]
  · have hother : a' ≠ a ∨ d' ≠ d := not_and_or.1 hpair
    have hne : (⟨a', d', k'⟩ : ResultNames) ≠ ⟨a, d, k⟩ := by
      intro heq
      cases heq
      exact hpair ⟨rfl, rfl⟩
    rw [get?_update_of_ne r hother, if_neg hne]
    rfl

theorem result?_setKills (r : Report α) (attacker defender : String) (kills : Nat)
    (names : ResultNames) :
    (r.setKills attacker defender kills).result? names = r.result? names := by
  rw [setKills]
  split
  · rename_i e he
    by_cases hpair : names.attacker = attacker ∧ names.defender = defender
    · obtain ⟨ha, hd⟩ := hpair
      rw [result?, result?, ha, hd, get?_update_self, he]
      rfl
    · have hother : names.attacker ≠ attacker ∨ names.defender ≠ defender := not_and_or.1 hpair
      rw [result?, result?, get?_update_of_ne r hother]
  · rfl

def killsOf (r : Report α) (attacker defender : String) : Nat :=
  (r.get? attacker defender).elim 0 DefenderReport.kills

theorem killsOf_insert (r : Report α) (attacker defender weapon : String) (result : WeaponResult α)
    (a d : String) : (r.insert attacker defender weapon result).killsOf a d = r.killsOf a d := by
  by_cases h : a = attacker ∧ d = defender
  · obtain ⟨rfl, rfl⟩ := h
    rw [killsOf, killsOf, insert, get?_update_self]
    cases r.get? a d <;> rfl
  · rw [killsOf, killsOf, insert, get?_update_of_ne r (not_and_or.1 h)]

theorem get?_eq_some_iff {r : Report α} {attacker defender : String} {e : DefenderReport α} :
    r.get? attacker defender = some e ↔
      ∃ defenders, (attacker, defenders) ∈ r.attackers.entries ∧ (defender, e) ∈ defenders.entries := by
  rw [get?, Option.bind_eq_some_iff]
  simp only [NameMap.get?_eq_some_iff]

theorem mem_rows_iff {r : Report α} {row : ReportRow α} :
    row ∈ r.rows ↔ ∃ e, r.get? row.attacker row.defender = some e ∧
      e.weapons.get? row.weapon = some row.result ∧ e.kills = row.kills := by
  simp only [rows, List.mem_flatMap, List.mem_map, get?_eq_some_iff, NameMap.get?_eq_some_iff,
    Prod.exists]
  constructor
  · rintro ⟨attacker, defenders, ha, defender, e, hd, weapon, result, hw, rfl⟩
    exact ⟨e, ⟨defenders, ha, hd⟩, hw, rfl⟩
  · rintro ⟨e, ⟨defenders, ha, hd⟩, hw, hkills⟩
    refine ⟨row.attacker, defenders, ha, row.defender, e, hd, row.weapon, row.result, hw, ?_⟩
    rw [hkills]

theorem mem_rows_iff_result? {r : Report α} {row : ReportRow α} :
    row ∈ r.rows ↔
      r.result? row.names = some row.result ∧ r.killsOf row.attacker row.defender = row.kills := by
  rw [mem_rows_iff, result?, killsOf, ReportRow.names]
  cases r.get? row.attacker row.defender <;> simp

theorem mem_map_names_rows {r : Report α} {names : ResultNames} :
    names ∈ r.rows.map ReportRow.names ↔ (r.result? names).isSome = true := by
  rw [List.mem_map, Option.isSome_iff_exists]
  constructor
  · rintro ⟨row, hrow, rfl⟩
    obtain ⟨e, he, hresult, -⟩ := mem_rows_iff.1 hrow
    refine ⟨row.result, ?_⟩
    rw [result?, ReportRow.names, he]
    exact hresult
  · rintro ⟨result, hresult⟩
    obtain ⟨e, he, hget⟩ := Option.bind_eq_some_iff.1 hresult
    exact ⟨⟨names.attacker, names.defender, names.weapon, result, e.kills⟩,
      mem_rows_iff.2 ⟨e, he, hget, rfl⟩, rfl⟩

theorem pairwise_rows (r : Report α) :
    r.rows.Pairwise fun row next => row.names.Before next.names := by
  rw [rows, List.pairwise_flatMap]
  constructor
  · rintro ⟨attacker, defenders⟩ _
    rw [List.pairwise_flatMap]
    constructor
    · rintro ⟨defender, e⟩ _
      rw [List.pairwise_map]
      exact e.weapons.sorted.imp fun hlt => .inr ⟨rfl, .inr ⟨rfl, hlt⟩⟩
    · refine defenders.sorted.imp fun hlt row hrow next hnext => ?_
      obtain ⟨_, _, rfl⟩ := List.mem_map.1 hrow
      obtain ⟨_, _, rfl⟩ := List.mem_map.1 hnext
      exact .inr ⟨rfl, .inl hlt⟩
  · refine r.attackers.sorted.imp fun hlt row hrow next hnext => ?_
    obtain ⟨_, _, hrow⟩ := List.mem_flatMap.1 hrow
    obtain ⟨_, _, rfl⟩ := List.mem_map.1 hrow
    obtain ⟨_, _, hnext⟩ := List.mem_flatMap.1 hnext
    obtain ⟨_, _, rfl⟩ := List.mem_map.1 hnext
    exact .inl hlt

theorem nodup_map_names_rows (r : Report α) : (r.rows.map ReportRow.names).Nodup :=
  List.pairwise_map.2 (r.pairwise_rows.imp ResultNames.Before.ne)

theorem nodup_rows (r : Report α) : r.rows.Nodup := r.nodup_map_names_rows.of_map _

theorem rows_congr {r other : Report α} (hresult : ∀ names, r.result? names = other.result? names)
    (hkills : ∀ attacker defender, r.killsOf attacker defender = other.killsOf attacker defender) :
    r.rows = other.rows := by
  have hperm : r.rows.Perm other.rows := by
    rw [List.perm_ext_iff_of_nodup r.nodup_rows other.nodup_rows]
    intro row
    rw [mem_rows_iff_result?, mem_rows_iff_result?, hresult, hkills]
  refine hperm.eq_of_pairwise (fun row next _ _ h h' => ?_) r.pairwise_rows other.pairwise_rows
  exact absurd h' h.asymm

theorem size_eq_length_dedup {r : Report α} {l : List ResultNames}
    (h : ∀ names, (r.result? names).isSome = true ↔ names ∈ l) : r.size = l.dedup.length := by
  have hperm : (r.rows.map ReportRow.names).Perm l.dedup := by
    rw [List.perm_ext_iff_of_nodup r.nodup_map_names_rows l.nodup_dedup]
    intro names
    rw [mem_map_names_rows, List.mem_dedup]
    exact h names
  rw [size, ← hperm.length_eq, List.length_map]

section Insertions

def insertAll (r : Report α) (results : List (ResultNames × WeaponResult α)) : Report α :=
  results.foldl (fun r x => r.insert x.1.attacker x.1.defender x.1.weapon x.2) r

def lastResult (names : ResultNames) (results : List (ResultNames × WeaponResult α)) :
    Option (WeaponResult α) :=
  results.reverse.lookup names

variable (r : Report α) (results : List (ResultNames × WeaponResult α))
  (x : ResultNames × WeaponResult α)

theorem insertAll_append_singleton :
    r.insertAll (results ++ [x]) =
      (r.insertAll results).insert x.1.attacker x.1.defender x.1.weapon x.2 := by
  rw [insertAll, List.foldl_append]
  rfl

theorem lastResult_append_singleton (names : ResultNames) :
    lastResult names (results ++ [x]) =
      if names = x.1 then some x.2 else lastResult names results := by
  rw [lastResult, List.reverse_append, List.reverse_singleton, List.singleton_append,
    List.lookup_cons]
  by_cases h : names = x.1
  · simp [h]
  · simp [beq_eq_false_iff_ne.2 h, h, lastResult]

theorem result?_insertAll (names : ResultNames) :
    (r.insertAll results).result? names = (lastResult names results).or (r.result? names) := by
  induction results using List.reverseRecOn with
  | nil => rfl
  | append_singleton results x ih =>
      rw [insertAll_append_singleton, result?_insert, lastResult_append_singleton, ih]
      split <;> rfl

theorem killsOf_insertAll (attacker defender : String) :
    (r.insertAll results).killsOf attacker defender = r.killsOf attacker defender := by
  induction results using List.reverseRecOn with
  | nil => rfl
  | append_singleton results x ih => rw [insertAll_append_singleton, killsOf_insert, ih]

/-- The rows do not show in which order results were added, only which were the last ones. -/
theorem rows_insertAll_congr {results others : List (ResultNames × WeaponResult α)}
    (h : ∀ names, lastResult names results = lastResult names others) :
    (r.insertAll results).rows = (r.insertAll others).rows := by
  refine rows_congr (fun names => ?_) fun attacker defender => ?_
  · rw [result?_insertAll, result?_insertAll, h]
  · rw [killsOf_insertAll, killsOf_insertAll]

end Insertions

end Report

end Salvo
