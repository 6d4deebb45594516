import Salvo.Proofs.Json.Quoted
import Salvo.Proofs.Scenario.Cancellation

/-!
# Keys in the objects of a report

In the JSON value of a report the object of a defender has a field for each weapon of its entry and one
for the estimate. A run only adds results under keys of weapons, so in its report these fields have
different keys (`weaponKeys_safe`).
-/

namespace Salvo

section Objects

/-- The fields of a defender's weapons are called by their names, and that of the estimate comes last. -/
theorem DefenderReport.map_fst_fields (e : DefenderReport Float) :
    e.fields.map Prod.fst = e.weapons.names ++ [killsKey] := by
  rw [fields, List.map_append, List.map_map]
  rfl

theorem DefenderReport.nodup_map_fst_fields {e : DefenderReport Float}
    (h : killsKey ∉ e.weapons.names) : (e.fields.map Prod.fst).Nodup := by
  rw [map_fst_fields, ← List.concat_eq_append, List.nodup_concat]
  exact ⟨h, e.weapons.names_nodup⟩

/-- The JSON value of a report has an object with these fields for a defender of an attacker. -/
def Report.Writes (r : Report Float) (attacker defender : String) (fields : List (String × Json)) :
    Prop :=
  ∃ attackers defenders, r.toJson = .object attackers ∧ (attacker, .object defenders) ∈ attackers ∧
    (defender, .object fields) ∈ defenders

theorem Report.writes_iff {r : Report Float} {attacker defender : String}
    {fields : List (String × Json)} :
    r.Writes attacker defender fields ↔
      ∃ e, r.get? attacker defender = some e ∧ e.fields = fields := by
  simp only [get?_eq_some_iff]
  constructor
  · rintro ⟨_, defenders, hobject, ha, hd⟩
    cases hobject
    obtain ⟨⟨_, entries⟩, hentries, heq⟩ := List.mem_map.1 ha
    cases heq
    obtain ⟨⟨_, e⟩, he, heq⟩ := List.mem_map.1 hd
    cases heq
    exact ⟨e, ⟨entries, hentries, he⟩, rfl⟩
  · rintro ⟨e, ⟨entries, hentries, he⟩, rfl⟩
    exact ⟨_, _, rfl, List.mem_map_of_mem hentries, List.mem_map_of_mem he⟩

end Objects

namespace ResolvedScenario

variable {s : ResolvedScenario} {settings : Settings} {base : UInt64} {schedules : Nat → Schedule}
  {progress : Progress} {attacker defender : String}

theorem exists_key_of_mem_combinations {c : Combination} (h : c ∈ s.combinations) :
    ∃ a ∈ s.attackers, a.name = c.attacker ∧ c.key ∈ a.keys := by
  obtain ⟨a, ha, d, -, w, key, hkeyed, rfl⟩ := mem_combinations_iff.1 h
  refine ⟨a, ha, rfl, ?_⟩
  rw [← a.map_snd_keyed]
  exact List.mem_map_of_mem (f := Prod.snd) hkeyed

theorem exists_key_of_mem_names {α : Type} [Scalar α] {e : DefenderReport α} {key : String}
    (he : (s.run α settings base schedules progress).report.get? attacker defender = some e)
    (hkey : key ∈ e.weapons.names) : ∃ a ∈ s.attackers, a.name = attacker ∧ key ∈ a.keys := by
  have hresult : ((s.run α settings base schedules progress).report.result?
      ⟨attacker, defender, key⟩).isSome = true := by
    rw [Report.result?, he]
    exact NameMap.mem_names_iff.1 hkey
  rw [result?_run_take, Option.isSome_map, isSome_lastNamed] at hresult
  obtain ⟨c, hc, hnames⟩ := List.mem_map.1 hresult
  rw [Combination.names, ResultNames.mk.injEq] at hnames
  obtain ⟨rfl, -, rfl⟩ := hnames
  exact exists_key_of_mem_combinations (List.mem_of_mem_take hc)

theorem killsKey_notMem_names {α : Type} [Scalar α] {e : DefenderReport α}
    (he : (s.run α settings base schedules progress).report.get? attacker defender = some e) :
    killsKey ∉ e.weapons.names := by
  intro hmem
  obtain ⟨a, -, -, hkey⟩ := exists_key_of_mem_names he hmem
  exact killsKey_notMem_weaponKeys _ hkey

section Armed

variable {a : Attacker} {d : DefenderProfile} (hnames : s.NamesApart) (ha : a ∈ s.attackers)
  (hd : d ∈ s.defenders)

include hnames ha hd

/-- The entry of an attacker with weapons has their keys, in the order of names. -/
theorem exists_get?_run_of_armed {α : Type} [Scalar α] (harmed : a.weapons ≠ [])
    (h : (s.run α settings base schedules progress).cancelled = false) :
    ∃ e, (s.run α settings base schedules progress).report.get? a.name d.name = some e ∧
      e.weapons.names.Perm a.keys := by
  obtain ⟨e, he, hkeyed, hother, -⟩ :=
    (exactEntry_entry (α := α) a d (s.config settings) settings base).armed harmed
  refine ⟨e, (get?_run hnames ha hd h).trans he, ?_⟩
  rw [List.perm_ext_iff_of_nodup e.weapons.names_nodup a.keys_nodup]
  intro key
  rw [NameMap.mem_names_iff]
  constructor
  · intro hsome
    by_contra hkey
    rw [hother key hkey] at hsome
    cases hsome
  · intro hkey
    rw [← a.map_snd_keyed, List.mem_map] at hkey
    obtain ⟨⟨w, key⟩, hmem, rfl⟩ := hkey
    rw [hkeyed w key hmem]
    rfl

theorem get?_run_of_unarmed {α : Type} [Scalar α] (hunarmed : a.weapons = [])
    (h : (s.run α settings base schedules progress).cancelled = false) :
    (s.run α settings base schedules progress).report.get? a.name d.name = none :=
  (get?_run hnames ha hd h).trans
    ((exactEntry_entry (α := α) a d (s.config settings) settings base).unarmed hunarmed)

end Armed

/-- The keys of weapons are safe, whatever the weapons are called. So in the JSON value of a report the
object of a defender has one field more than the entry has weapons, and no two of its fields have the
same key, as a text or as it is written. If names tell attackers and defenders apart and the run is not
cancelled, these weapons are those of the attacker. -/
theorem weaponKeys_safe (weapons : List WeaponProfile) (s : ResolvedScenario) (settings : Settings)
    (base : UInt64) (schedules : Nat → Schedule) (progress : Progress) :
    SafeKeys (weapons.map (·.name)) (weaponKeys (weapons.map (·.name))) ∧
      ∀ attacker defender fields,
        (s.run Float settings base schedules progress).report.Writes attacker defender fields →
          (∃ e, (s.run Float settings base schedules progress).report.get? attacker defender = some e ∧
            fields.length = e.weapons.names.length + 1) ∧
          (fields.map Prod.fst).Nodup ∧ (fields.map fun field => Json.quote field.1).Nodup ∧
          (s.NamesApart → (s.run Float settings base schedules progress).cancelled = false →
            ∀ a ∈ s.attackers, a.name = attacker → ∀ d ∈ s.defenders, d.name = defender →
              fields.length = a.weapons.length + 1 ∧
                (fields.map Prod.fst).Perm (killsKey :: a.keys)) := by
  refine ⟨safeKeys_weaponKeys _, fun attacker defender fields hwrites => ?_⟩
  obtain ⟨e, he, rfl⟩ := Report.writes_iff.1 hwrites
  have hnodup := DefenderReport.nodup_map_fst_fields (killsKey_notMem_names he)
  refine ⟨⟨e, he, ?_⟩, hnodup, ?_, ?_⟩
  · rw [← List.length_map Prod.fst, e.map_fst_fields, List.length_append, List.length_singleton]
  · have hquoted := hnodup.map Json.quote_injective
    rwa [List.map_map] at hquoted
  · rintro hnames hrun a ha rfl d hd rfl
    have harmed : a.weapons ≠ [] := by
      intro hunarmed
      rw [get?_run_of_unarmed hnames ha hd hunarmed hrun] at he
      cases he
    obtain ⟨e', he', hkeys⟩ := exists_get?_run_of_armed hnames ha hd harmed hrun
    obtain rfl : e = e' := Option.some.inj (he.symm.trans he')
    have hperm : (e.fields.map Prod.fst).Perm (killsKey :: a.keys) := by
      rw [e.map_fst_fields]
      exact List.perm_append_comm.trans (hkeys.cons killsKey)
    have hlength := hperm.length_eq
    rw [List.length_map, List.length_cons, a.length_keys] at hlength
    exact ⟨hlength, hperm⟩

/-- Weapons of one name, and a weapon that is named like the estimate. -/
theorem weaponKeys_safe_red_squad :
    ∃ fields, ((squads [("Red", ["gun", "gun", "Kills"])]).run Float {} 1 (fun _ => .whole)
        {}).report.Writes "Red" "Boyz" fields ∧
      (fields.map Prod.fst).Nodup ∧
      (fields.map Prod.fst).Perm ["Kills", "gun", "gun#2", "Kills#2"] := by
  have hnames : (squads [("Red", ["gun", "gun", "Kills"])]).NamesApart := ⟨by decide, by decide⟩
  have hrun := (squads [("Red", ["gun", "gun", "Kills"])]).cancelled_run_whole (α := Float) {} 1 {}
  obtain ⟨e, he, -⟩ := exists_get?_run_of_armed hnames List.mem_cons_self List.mem_cons_self
    (List.cons_ne_nil _ _) hrun
  have hwrites := Report.writes_iff.2 ⟨e, he, rfl⟩
  obtain ⟨-, hnodup, -, hall⟩ := (weaponKeys_safe [] _ _ _ _ _).2 _ _ _ hwrites
  obtain ⟨-, hperm⟩ := hall hnames hrun _ List.mem_cons_self rfl _ List.mem_cons_self rfl
  have hkeys : weaponKeys ["gun", "gun", "Kills"] = ["gun", "gun#2", "Kills#2"] := by decide
  exact ⟨e.fields, hwrites, hnodup, hkeys ▸ hperm⟩

end ResolvedScenario

end Salvo
