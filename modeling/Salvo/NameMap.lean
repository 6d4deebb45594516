/-!
# Maps from names

`NameMap α` holds one value for each of finitely many names, in the order of the names. Two maps with
the same look-ups are equal, whatever the order in which they were filled.
-/

namespace Salvo

/-- Values by name: a list of entries in strictly increasing order of their names. -/
structure NameMap (α : Type) where
  entries : List (String × α)
  sorted : entries.Pairwise fun a b => a.1 < b.1
deriving DecidableEq

namespace NameMap

variable {α : Type}

/-- Puts `f` of the value that a name has so far in its place. -/
def updateEntries (name : String) (f : Option α → α) : List (String × α) → List (String × α)
  | [] => [(name, f none)]
  | (n, a) :: rest =>
    if name < n then (name, f none) :: (n, a) :: rest
    else if name = n then (n, f (some a)) :: rest
    else (n, a) :: updateEntries name f rest

def find? (name : String) : List (String × α) → Option α
  | [] => none
  | (n, a) :: rest => if name = n then some a else find? name rest

theorem mem_updateEntries {name : String} {f : Option α → α} {e : String × α}
    {l : List (String × α)} (h : e ∈ updateEntries name f l) : e.1 = name ∨ e ∈ l := by
  induction l with
  | nil => simp [updateEntries] at h; simp [h]
  | cons hd tl ih =>
    obtain ⟨n, a⟩ := hd
    rw [updateEntries] at h
    split at h
    · rcases List.mem_cons.1 h with rfl | h
      · exact .inl rfl
      · exact .inr h
    · split at h
      · rename_i hn
        rcases List.mem_cons.1 h with rfl | h
        · exact .inl hn.symm
        · exact .inr (List.mem_cons_of_mem _ h)
      · rcases List.mem_cons.1 h with rfl | h
        · exact .inr List.mem_cons_self
        · exact (ih h).imp_right (List.mem_cons_of_mem _)

theorem pairwise_updateEntries (name : String) (f : Option α → α) {l : List (String × α)}
    (h : l.Pairwise fun a b => a.1 < b.1) :
    (updateEntries name f l).Pairwise fun a b => a.1 < b.1 := by
  induction l with
  | nil => simp [updateEntries]
  | cons hd tl ih =>
    obtain ⟨n, a⟩ := hd
    have hlt := (List.pairwise_cons.1 h).1
    rw [updateEntries]
    split
    · rename_i hn
      refine List.pairwise_cons.2 ⟨fun b hb => ?_, h⟩
      rcases List.mem_cons.1 hb with rfl | hb
      · exact hn
      · exact String.lt_trans hn (hlt b hb)
    · split
      · exact List.pairwise_cons.2 ⟨hlt, (List.pairwise_cons.1 h).2⟩
      · rename_i hn hne
        have hgt : n < name := by
          refine Classical.byContradiction fun hle => hne ?_
          exact String.le_antisymm (String.not_lt.1 hle) (String.not_lt.1 hn)
        refine List.pairwise_cons.2 ⟨fun b hb => ?_, ih (List.pairwise_cons.1 h).2⟩
        rcases mem_updateEntries hb with hb | hb
        · exact hb ▸ hgt
        · exact hlt b hb

theorem find?_updateEntries_self (name : String) (f : Option α → α) {l : List (String × α)}
    (h : l.Pairwise fun a b => a.1 < b.1) :
    find? name (updateEntries name f l) = some (f (find? name l)) := by
  have absent {l : List (String × α)} (h : ∀ e ∈ l, name < e.1) : find? name l = none := by
    induction l with
    | nil => rfl
    | cons hd tl ih =>
      have hn : name ≠ hd.1 := fun e => String.lt_irrefl _ (e ▸ h hd List.mem_cons_self)
      rw [find?, if_neg hn]
      exact ih fun e he => h e (List.mem_cons_of_mem _ he)
  induction l with
  | nil => simp [updateEntries, find?]
  | cons hd tl ih =>
    obtain ⟨n, a⟩ := hd
    have hlt := (List.pairwise_cons.1 h).1
    rw [updateEntries]
    split
    · rename_i hn
      have hnone : find? name ((n, a) :: tl) = none := by
        refine absent fun e he => ?_
        rcases List.mem_cons.1 he with rfl | he
        · exact hn
        · exact String.lt_trans hn (hlt e he)
      rw [hnone]; simp [find?]
    · split
      · rename_i hn
        simp [find?, hn]
      · rename_i hn
        simp [find?, hn, ih (List.pairwise_cons.1 h).2]

theorem find?_updateEntries_of_ne {name other : String} (hne : other ≠ name) (f : Option α → α)
    (l : List (String × α)) : find? other (updateEntries name f l) = find? other l := by
  induction l with
  | nil => simp [updateEntries, find?, hne]
  | cons hd tl ih =>
    obtain ⟨n, a⟩ := hd
    rw [updateEntries]
    split
    · simp [find?, hne]
    · split
      · rename_i hn; simp [find?, ← hn, hne]
      · simp [find?, ih]

def empty : NameMap α := ⟨[], .nil⟩

instance : EmptyCollection (NameMap α) := ⟨empty⟩

instance : Inhabited (NameMap α) := ⟨empty⟩

/-- Puts `f` of the value that a name has so far in its place. -/
def update (m : NameMap α) (name : String) (f : Option α → α) : NameMap α :=
  ⟨updateEntries name f m.entries, pairwise_updateEntries name f m.sorted⟩

def insert (m : NameMap α) (name : String) (a : α) : NameMap α := m.update name fun _ => a

def insertNew (m : NameMap α) (name : String) (a : α) : NameMap α := m.update name (·.getD a)

def get? (m : NameMap α) (name : String) : Option α := find? name m.entries

def names (m : NameMap α) : List String := m.entries.map (·.1)

@[simp] theorem get?_empty (name : String) : (empty : NameMap α).get? name = none := rfl

@[simp] theorem get?_update_self (m : NameMap α) (name : String) (f : Option α → α) :
    (m.update name f).get? name = some (f (m.get? name)) :=
  find?_updateEntries_self name f m.sorted

theorem get?_update_of_ne (m : NameMap α) {name other : String} (h : other ≠ name)
    (f : Option α → α) : (m.update name f).get? other = m.get? other :=
  find?_updateEntries_of_ne h f m.entries

@[simp] theorem get?_insert_self (m : NameMap α) (name : String) (a : α) :
    (m.insert name a).get? name = some a :=
  get?_update_self ..

theorem get?_insert_of_ne (m : NameMap α) {name other : String} (h : other ≠ name) (a : α) :
    (m.insert name a).get? other = m.get? other :=
  get?_update_of_ne m h _

theorem ext_entries {m n : NameMap α} (h : m.entries = n.entries) : m = n := by
  cases m; cases n; cases h; rfl

end NameMap

end Salvo
