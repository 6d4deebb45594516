import Mathlib.Algebra.GroupWithZero.Nat
import Salvo.Proofs.Report.Keys
import Salvo.Proofs.Report.Rows
import Salvo.Scenario.Run

/-!
# Combinations and their names

A scenario has a combination for each attacker, defender and weapon. The names under which they are
reported tell them apart if no two defenders have the same name and attackers with the same name have
no weapon key in common; `DistinctNames` says so, and nothing less is enough.
-/

namespace Salvo

namespace Attacker

def keys (a : Attacker) : List String := weaponKeys (a.weapons.map (·.name))

theorem length_keys (a : Attacker) : a.keys.length = a.weapons.length := by
  rw [keys, length_weaponKeys, List.length_map]

theorem map_snd_keyed (a : Attacker) : a.keyed.map Prod.snd = a.keys :=
  List.map_snd_zip (Nat.le_of_eq a.length_keys)

theorem exists_mem_keyed {a : Attacker} {w : WeaponProfile} (h : w ∈ a.weapons) :
    ∃ key, (w, key) ∈ a.keyed := by
  have hfst : a.keyed.map Prod.fst = a.weapons := List.map_fst_zip (Nat.le_of_eq a.length_keys.symm)
  rw [← hfst, List.mem_map] at h
  obtain ⟨⟨w, key⟩, hmem, rfl⟩ := h
  exact ⟨key, hmem⟩

theorem length_against (a : Attacker) (d : DefenderProfile) :
    (a.against d).length = a.weapons.length := by
  rw [against, List.length_map, ← a.length_keys, ← map_snd_keyed, List.length_map]

theorem keys_nodup (a : Attacker) : a.keys.Nodup := weaponKeys_nodup _

end Attacker

def Combination.names (c : Combination) : ResultNames := ⟨c.attacker, c.defender.name, c.key⟩

theorem Attacker.map_names_against (a : Attacker) (d : DefenderProfile) :
    (a.against d).map Combination.names = a.keys.map fun key => ⟨a.name, d.name, key⟩ := by
  rw [← a.map_snd_keyed, Attacker.against, List.map_map, List.map_map]
  rfl

namespace ResolvedScenario

variable {s : ResolvedScenario}

theorem combinations_eq (s : ResolvedScenario) :
    s.combinations = s.attackers.flatMap fun a => s.defenders.flatMap fun d => a.against d := by
  rw [combinations, pairs, List.flatMap_assoc]
  simp only [List.flatMap_map]

theorem mem_combinations_iff {c : Combination} :
    c ∈ s.combinations ↔ ∃ a ∈ s.attackers, ∃ d ∈ s.defenders, ∃ w key, (w, key) ∈ a.keyed ∧
      c = ⟨a.name, d, w, key⟩ := by
  simp only [combinations_eq, List.mem_flatMap, Attacker.against, List.mem_map, Prod.exists, eq_comm]

theorem length_combinations (s : ResolvedScenario) :
    s.combinations.length = (s.attackers.map (·.weapons.length)).sum * s.defenders.length := by
  rw [combinations_eq]
  induction s.attackers with
  | nil => simp
  | cons a attackers ih =>
      have hone : (s.defenders.flatMap fun d => a.against d).length =
          a.weapons.length * s.defenders.length := by
        rw [List.length_flatMap]
        simp only [a.length_against, List.map_const', List.sum_replicate_nat]
        exact Nat.mul_comm _ _
      rw [List.flatMap_cons, List.length_append, ih, hone, List.map_cons, List.sum_cons,
        Nat.add_mul]

theorem map_names_combinations (s : ResolvedScenario) :
    s.combinations.map Combination.names = s.attackers.flatMap fun a =>
      s.defenders.flatMap fun d => a.keys.map fun key => ⟨a.name, d.name, key⟩ := by
  rw [combinations_eq, List.map_flatMap]
  simp only [List.map_flatMap, Attacker.map_names_against]

/-- The names of attackers and defenders and the keys of weapons tell the combinations apart. -/
structure DistinctNames (s : ResolvedScenario) : Prop where
  defenders : (s.defenders.map DefenderProfile.name).Nodup
  attackers : s.attackers.Pairwise fun a b => a.name = b.name → a.keys.Disjoint b.keys

theorem distinctNames_of_nodup (ha : (s.attackers.map Attacker.name).Nodup)
    (hd : (s.defenders.map DefenderProfile.name).Nodup) : s.DistinctNames where
  defenders := hd
  attackers := (List.pairwise_map.1 ha).imp fun hne heq => absurd heq hne

theorem DistinctNames.nodup_map_names (h : s.DistinctNames) :
    (s.combinations.map Combination.names).Nodup := by
  rw [map_names_combinations, List.Nodup, List.pairwise_flatMap]
  constructor
  · intro a _
    rw [List.pairwise_flatMap]
    constructor
    · intro d _
      refine List.pairwise_map.2 (a.keys_nodup.imp fun hne heq => hne ?_)
      cases heq
      rfl
    · refine (List.pairwise_map.1 h.defenders).imp fun hne m hm n hn heq => hne ?_
      obtain ⟨_, _, rfl⟩ := List.mem_map.1 hm
      obtain ⟨_, _, rfl⟩ := List.mem_map.1 hn
      exact congrArg ResultNames.defender heq
  · refine h.attackers.imp fun hdisjoint m hm n hn heq => ?_
    obtain ⟨_, _, hm⟩ := List.mem_flatMap.1 hm
    obtain ⟨key, hkey, rfl⟩ := List.mem_map.1 hm
    obtain ⟨_, _, hn⟩ := List.mem_flatMap.1 hn
    obtain ⟨key', hkey', rfl⟩ := List.mem_map.1 hn
    have hname := congrArg ResultNames.attacker heq
    have hkeys : key = key' := congrArg ResultNames.weapon heq
    exact hdisjoint hname hkey (hkeys ▸ hkey')

/-- The converse, given that someone is attacked and someone has a weapon: without combinations there
would be nothing to tell apart. -/
theorem DistinctNames.of_nodup_map_names (hdefenders : s.defenders ≠ [])
    (hweapons : ∃ a ∈ s.attackers, a.weapons ≠ [])
    (h : (s.combinations.map Combination.names).Nodup) : s.DistinctNames := by
  rw [map_names_combinations, List.Nodup, List.pairwise_flatMap] at h
  obtain ⟨hone, htwo⟩ := h
  constructor
  · obtain ⟨a, ha, hweapon⟩ := hweapons
    have hkeys : 0 < a.keys.length := by
      rw [a.length_keys]
      exact List.length_pos_of_ne_nil hweapon
    obtain ⟨key, hkey⟩ := List.exists_mem_of_length_pos hkeys
    refine List.pairwise_map.2 ((List.pairwise_flatMap.1 (hone a ha)).2.imp fun hne hname => ?_)
    refine hne _ (List.mem_map_of_mem hkey) _ (List.mem_map_of_mem hkey) ?_
    rw [hname]
  · obtain ⟨d, hd⟩ := List.exists_mem_of_ne_nil _ hdefenders
    refine htwo.imp fun hne hname key hkey hkey' => ?_
    refine hne _ (List.mem_flatMap.2 ⟨d, hd, List.mem_map_of_mem hkey⟩) _
      (List.mem_flatMap.2 ⟨d, hd, List.mem_map_of_mem hkey'⟩) ?_
    rw [hname]

end ResolvedScenario

section Squads

/-- What is said about squads with guns that attack the same boyz. -/
def squadsRecord (squads : List (String × List String)) : Scenario where
  attackers := squads.map fun (name, guns) => ⟨some name, guns.map fun gun => {
    name := some gun
    attacks := some (.int 2)
    toHit := some (.int 3)
    strength := some (.int 4)
    damage := some (.int 1) }⟩
  defenders := [{
    name := some "Boyz"
    toughness := some (.int 5)
    wounds := some (.int 1)
    models := some (.int 10)
    save := some (.int 5) }]

def squads (names : List (String × List String)) : ResolvedScenario where
  engagement := {}
  attackers := names.map fun (name, guns) =>
    ⟨name, guns.map fun gun => .ofStats gun (.constant 2) 3 4 0 (.constant 1)⟩
  defenders := [.ofStats "Boyz" 5 1 10 5]

end Squads

end Salvo
