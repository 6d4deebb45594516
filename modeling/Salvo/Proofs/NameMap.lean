import Mathlib.Data.List.Nodup
import Salvo.NameMap

/-!
# Look-ups in maps from names

A map is known by its look-ups: the entries are the names with their values, and two maps with the same
look-ups are equal (`NameMap.ext_get?`). A name that is given a value keeps it against later ones if they
are only put in where there is none.
-/

namespace Salvo

namespace NameMap

variable {α : Type}

theorem find?_eq_some_iff {l : List (String × α)} (h : l.Pairwise fun a b => a.1 < b.1)
    {name : String} {a : α} : find? name l = some a ↔ (name, a) ∈ l := by
  induction l with
  | nil => simp [find?]
  | cons hd tl ih =>
      obtain ⟨n, b⟩ := hd
      obtain ⟨hlt, htl⟩ := List.pairwise_cons.1 h
      rw [find?, List.mem_cons]
      split
      · rename_i heq
        subst heq
        constructor
        · intro hsome
          cases hsome
          exact .inl rfl
        · rintro (heq | hmem)
          · cases heq
            rfl
          · exact absurd (hlt _ hmem) (String.lt_irrefl _)
      · rename_i hne
        rw [ih htl]
        constructor
        · exact .inr
        · rintro (heq | hmem)
          · cases heq
            exact absurd rfl hne
          · exact hmem

theorem get?_eq_some_iff {m : NameMap α} {name : String} {a : α} :
    m.get? name = some a ↔ (name, a) ∈ m.entries :=
  find?_eq_some_iff m.sorted

theorem mem_names_iff {m : NameMap α} {name : String} :
    name ∈ m.names ↔ (m.get? name).isSome = true := by
  rw [names, List.mem_map, Option.isSome_iff_exists]
  constructor
  · rintro ⟨⟨name, a⟩, hmem, rfl⟩
    exact ⟨a, get?_eq_some_iff.2 hmem⟩
  · rintro ⟨a, ha⟩
    exact ⟨(name, a), get?_eq_some_iff.1 ha, rfl⟩

theorem names_nodup (m : NameMap α) : m.names.Nodup := by
  refine List.pairwise_map.2 (m.sorted.imp fun hlt heq => ?_)
  exact String.lt_irrefl _ (heq ▸ hlt)

theorem get?_insert (m : NameMap α) (name other : String) (a : α) :
    (m.insert name a).get? other = if other = name then some a else m.get? other := by
  split
  · rename_i heq
    rw [heq, get?_insert_self]
  · rename_i hne
    exact m.get?_insert_of_ne hne a

theorem updateEntries_perm {name : String} {l : List (String × α)} (h : find? name l = none)
    (f : Option α → α) : (updateEntries name f l).Perm ((name, f none) :: l) := by
  induction l with
  | nil => exact .refl _
  | cons hd tl ih =>
      obtain ⟨n, b⟩ := hd
      rw [find?] at h
      split at h
      · cases h
      · rename_i hne
        rw [updateEntries, if_neg hne]
        split
        · exact .refl _
        · exact ((ih h).cons (n, b)).trans (.swap ..)

theorem entries_insert_perm {m : NameMap α} {name : String} (h : m.get? name = none) (a : α) :
    (m.insert name a).entries.Perm ((name, a) :: m.entries) :=
  updateEntries_perm h _

theorem ext_get? {m n : NameMap α} (h : ∀ name, m.get? name = n.get? name) : m = n := by
  have hmem : ∀ e : String × α, e ∈ m.entries ↔ e ∈ n.entries := fun e => by
    rw [← get?_eq_some_iff, ← get?_eq_some_iff, h]
  have hnodup (m : NameMap α) : m.entries.Nodup := by
    refine m.sorted.imp ?_
    rintro a b hlt rfl
    exact String.lt_irrefl _ hlt
  have hperm : m.entries.Perm n.entries :=
    (List.perm_ext_iff_of_nodup (hnodup m) (hnodup n)).2 hmem
  refine ext_entries (hperm.eq_of_pairwise (fun a b _ _ hab hba => ?_) m.sorted n.sorted)
  exact absurd (String.lt_trans hab hba) (String.lt_irrefl _)

theorem get?_insertNew (m : NameMap α) (name other : String) (a : α) :
    (m.insertNew name a).get? other =
      (m.get? other).or (if name = other then some a else none) := by
  rw [insertNew]
  split
  · rename_i heq
    rw [heq, get?_update_self]
    cases m.get? other <;> rfl
  · rename_i hne
    rw [get?_update_of_ne m (Ne.symm hne), Option.or_none]

end NameMap

end Salvo
