import Mathlib.Data.List.Nodup
import Mathlib.Data.List.Perm.Subperm
import Mathlib.Order.Bounds.Defs
import Salvo.Report.Keys

/-!
# Freedom of weapon keys

Numbered keys of one name differ in their numbers. More of them are tried than keys are in use, so the
search for a free one succeeds, and every key that is given out is new. `ChosenBeside` says which key a
name gets beside keys in use, and `SafeKeys` what the keys of a list of names are like.
-/

namespace Salvo

theorem numberedKey_injective {name : String} {m n : Nat}
    (h : numberedKey name m = numberedKey name n) : m = n := by
  have hrepr : m.repr = n.repr := (String.append_right_inj (name ++ "#")).1 h
  rw [Nat.repr_eq_ofList_toDigits, Nat.repr_eq_ofList_toDigits, String.ofList_inj] at hrepr
  rw [← Nat.ofDigitChars_ten_toDigits (n := m), hrepr, Nat.ofDigitChars_ten_toDigits]

/-- The search ends at the first number whose key is free, or where the fuel does. -/
theorem exists_freeKey_eq (used : List String) (name : String) (fuel n : Nat) :
    ∃ m, n ≤ m ∧ m ≤ n + fuel ∧ freeKey used name fuel n = numberedKey name m ∧
      (∀ i, n ≤ i → i < m → numberedKey name i ∈ used) ∧
      (m < n + fuel → numberedKey name m ∉ used) := by
  induction fuel generalizing n with
  | zero => exact ⟨n, Nat.le_refl n, Nat.le_refl n, rfl, by omega, by omega⟩
  | succ fuel ih =>
      rw [freeKey]
      split
      · rename_i hused
        obtain ⟨m, hlo, hhi, heq, hbelow, hfree⟩ := ih (n + 1)
        refine ⟨m, by omega, by omega, heq, ?_, fun hm => hfree (by omega)⟩
        intro i hi him
        cases Nat.eq_or_lt_of_le hi with
        | inl h => exact h ▸ List.contains_iff_mem.1 hused
        | inr h => exact hbelow i h him
      · rename_i hfree
        refine ⟨n, Nat.le_refl n, by omega, rfl, by omega, fun _ hmem => ?_⟩
        exact hfree (List.contains_iff_mem.2 hmem)

theorem numberedKey_ne (name : String) (n : Nat) : numberedKey name n ≠ name := by
  intro h
  have hlength := congrArg String.length h
  simp only [numberedKey, String.length_append] at hlength
  have hmark : "#".length = 1 := rfl
  omega

theorem nodup_numberedKeys (name : String) (n k : Nat) :
    (name :: (List.range' n k).map (numberedKey name)).Nodup := by
  refine List.nodup_cons.2 ⟨fun hmem => ?_, ?_⟩
  · obtain ⟨i, -, hi⟩ := List.mem_map.1 hmem
    exact numberedKey_ne name i hi
  · exact List.Nodup.map (fun _ _ => numberedKey_injective) List.nodup_range'

section Taken

variable {used : List String} {name : String} {n k : Nat}

theorem map_numberedKey_subset (h : ∀ i, n ≤ i → i < n + k → numberedKey name i ∈ used) :
    (List.range' n k).map (numberedKey name) ⊆ used := by
  intro key hkey
  obtain ⟨i, hi, rfl⟩ := List.mem_map.1 hkey
  obtain ⟨hlo, hhi⟩ := List.mem_range'_1.1 hi
  exact h i hlo hhi

/-- Of one more number than there are keys in use, not all can be taken. -/
theorem le_length_of_numberedKey_mem (h : ∀ i, n ≤ i → i < n + k → numberedKey name i ∈ used) :
    k ≤ used.length := by
  have hnodup := (nodup_numberedKeys name n k).of_cons
  have hle := (List.subperm_of_subset hnodup (map_numberedKey_subset h)).length_le
  rwa [List.length_map, List.length_range'] at hle

/-- If the name itself is taken as well, there is one number less for the others. -/
theorem lt_length_of_numberedKey_mem (hname : name ∈ used)
    (h : ∀ i, n ≤ i → i < n + k → numberedKey name i ∈ used) : k < used.length := by
  have hsubset := List.cons_subset.2 ⟨hname, map_numberedKey_subset h⟩
  have hle := (List.subperm_of_subset (nodup_numberedKeys name n k) hsubset).length_le
  rwa [List.length_cons, List.length_map, List.length_range'] at hle

end Taken

theorem exists_freeKey_length_eq (used : List String) (name : String) (n : Nat) :
    ∃ m, n ≤ m ∧ freeKey used name used.length n = numberedKey name m ∧
      numberedKey name m ∉ used ∧ ∀ i, n ≤ i → i < m → numberedKey name i ∈ used := by
  obtain ⟨m, hlo, hhi, heq, hbelow, hfree⟩ := exists_freeKey_eq used name used.length n
  refine ⟨m, hlo, heq, fun hmem => ?_, hbelow⟩
  -- The fuel has run out, so each number up to this one is taken, which is one too many.
  have hend : m = n + used.length := by
    by_contra hne
    exact hfree (by omega) hmem
  have hall : ∀ i, n ≤ i → i < n + (used.length + 1) → numberedKey name i ∈ used := by
    intro i hi him
    by_cases h : i < m
    · exact hbelow i hi h
    · obtain rfl : i = m := by omega
      exact hmem
  have hle := le_length_of_numberedKey_mem hall
  omega

theorem keyFor_of_notMem {used : List String} {name : String} (h : name ∉ used) :
    keyFor used name = name := by
  rw [keyFor, if_neg (mt List.contains_iff_mem.1 h)]

/-- A name in use gets the least number from two on that makes it free. -/
theorem exists_keyFor_eq_of_mem {used : List String} {name : String} (h : name ∈ used) :
    ∃ m, 2 ≤ m ∧ keyFor used name = numberedKey name m ∧ numberedKey name m ∉ used ∧
      ∀ i, 2 ≤ i → i < m → numberedKey name i ∈ used := by
  rw [keyFor, if_pos (List.contains_iff_mem.2 h)]
  exact exists_freeKey_length_eq used name 2

theorem keyFor_notMem (used : List String) (name : String) : keyFor used name ∉ used := by
  by_cases h : name ∈ used
  · obtain ⟨m, -, heq, hfree, -⟩ := exists_keyFor_eq_of_mem h
    rwa [heq]
  · rwa [keyFor_of_notMem h]

theorem keysBeside_getElem? (used : List String) {names : List String} {i : Nat} {name : String}
    (h : names[i]? = some name) :
    (keysBeside used names)[i]? =
      some (keyFor (((keysBeside used names).take i).reverse ++ used) name) := by
  induction names generalizing used i with
  | nil => cases h
  | cons name' names ih =>
      rw [keysBeside]
      cases i with
      | zero =>
          cases h
          rfl
      | succ i =>
          rw [List.getElem?_cons_succ, ih (keyFor used name' :: used) h, List.take_succ_cons,
            List.reverse_cons, List.append_assoc, List.singleton_append]

section Renamed

variable {used names : List String} {i : Nat} {name key : String}

end Renamed

theorem keysBeside_nodup (used names : List String) :
    (keysBeside used names).Nodup ∧ ∀ key ∈ keysBeside used names, key ∉ used := by
  induction names generalizing used with
  | nil => exact ⟨List.nodup_nil, fun key h => nomatch h⟩
  | cons name names ih =>
      obtain ⟨hnodup, hnew⟩ := ih (keyFor used name :: used)
      rw [keysBeside]
      refine ⟨List.nodup_cons.2 ⟨fun hmem => ?_, hnodup⟩, ?_⟩
      · exact hnew _ hmem List.mem_cons_self
      · intro key hkey hused
        cases List.mem_cons.1 hkey with
        | inl h => exact keyFor_notMem used name (h ▸ hused)
        | inr h => exact hnew key h (List.mem_cons_of_mem _ hused)

theorem weaponKeys_nodup (names : List String) : (weaponKeys names).Nodup :=
  (keysBeside_nodup [killsKey] names).1

theorem killsKey_notMem_weaponKeys (names : List String) : killsKey ∉ weaponKeys names := by
  intro hmem
  exact (keysBeside_nodup [killsKey] names).2 _ hmem List.mem_cons_self

section Chosen

/-- How a key is chosen beside keys in use: a name that is free stays, and another one gets the least
number from two on that makes it free, which is found after no more numbers than there are keys. -/
structure ChosenBeside (used : List String) (name key : String) : Prop where
  kept : name ∉ used → key = name
  numbered : name ∈ used → ∃ n, IsLeast {m | 2 ≤ m ∧ numberedKey name m ∉ used} n ∧
    n ≤ used.length + 1 ∧ key = numberedKey name n

theorem chosenBeside_keyFor (used : List String) (name : String) :
    ChosenBeside used name (keyFor used name) where
  kept := keyFor_of_notMem
  numbered hused := by
    obtain ⟨n, hn, heq, hfree, hbelow⟩ := exists_keyFor_eq_of_mem hused
    refine ⟨n, ⟨⟨hn, hfree⟩, fun m hm => ?_⟩, ?_, heq⟩
    · by_contra hlt
      exact hm.2 (hbelow m hm.1 (Nat.lt_of_not_le hlt))
    · have htaken : n - 2 < used.length :=
        lt_length_of_numberedKey_mem hused fun i hlo hhi => hbelow i hlo (by omega)
      omega

theorem ChosenBeside.perm {used other : List String} {name key : String}
    (h : ChosenBeside used name key) (hperm : used.Perm other) : ChosenBeside other name key where
  kept hfree := h.kept (mt hperm.mem_iff.1 hfree)
  numbered hused := by
    have hnumbered := h.numbered (hperm.mem_iff.2 hused)
    simpa only [hperm.mem_iff, hperm.length_eq] using hnumbered

/-- The keys of a list of names: one for each, all different, none that of the estimate, and each
chosen beside that of the estimate and the keys before it. -/
structure SafeKeys (names keys : List String) : Prop where
  length_eq : keys.length = names.length
  nodup : keys.Nodup
  killsKey_notMem : killsKey ∉ keys
  chosen : ∀ i name, names[i]? = some name →
    ∃ key, keys[i]? = some key ∧ ChosenBeside (killsKey :: keys.take i) name key

theorem safeKeys_weaponKeys (names : List String) : SafeKeys names (weaponKeys names) where
  length_eq := length_weaponKeys names
  nodup := weaponKeys_nodup names
  killsKey_notMem := killsKey_notMem_weaponKeys names
  chosen i name hname := by
    refine ⟨_, keysBeside_getElem? [killsKey] hname, (chosenBeside_keyFor _ name).perm ?_⟩
    exact List.perm_append_comm.trans ((List.reverse_perm _).cons killsKey)

end Chosen

end Salvo
