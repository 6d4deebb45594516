/-!
# Lines and cells

A text falls into lines at its newlines, and a line into cells at its tabs. Cells that hold neither are
found again when they are written with tabs between them and a newline behind each line
(`lines_flatMap`, `cells_intercalate`); no others are, since lines and cells never hold what divides
them.
-/

namespace Salvo.Text

/-- The lines of a text. What stands behind the last newline is a line unless it is empty. -/
def lines (cs : List Char) : List (List Char) :=
  if (cs.splitOn '\n').getLast? = some [] then (cs.splitOn '\n').dropLast else cs.splitOn '\n'

def cells (cs : List Char) : List (List Char) := cs.splitOn '\t'

section Parts

variable {x : Char} {part cs : List Char}

/-- A character divides the parts behind it from an empty one, or goes in front of the first of them. -/
theorem of_mem_splitOn_cons {c : Char} (h : part ∈ (c :: cs).splitOn x) :
    part = [] ∨ part ∈ cs.splitOn x ∨ c ≠ x ∧ ∃ rest ∈ cs.splitOn x, part = c :: rest := by
  rw [List.splitOn_cons_eq_if_modifyHead] at h
  split at h
  · exact (List.mem_cons.1 h).imp_right .inl
  · rename_i hc
    have hne : c ≠ x := fun heq => hc (beq_iff_eq.2 heq)
    cases hparts : cs.splitOn x with
    | nil => exact absurd hparts (List.splitOn_ne_nil x cs)
    | cons first others =>
        rw [hparts, List.modifyHead_cons] at h
        rcases List.mem_cons.1 h with rfl | hothers
        · exact .inr (.inr ⟨hne, first, List.mem_cons_self, rfl⟩)
        · exact .inr (.inl (List.mem_cons_of_mem _ hothers))

theorem notMem_of_mem_splitOn (h : part ∈ cs.splitOn x) : x ∉ part := by
  induction cs generalizing part with
  | nil =>
      rw [List.splitOn_nil, List.mem_singleton] at h
      exact h ▸ List.not_mem_nil
  | cons c cs ih =>
      rcases of_mem_splitOn_cons h with rfl | hmem | ⟨hc, rest, hrest, rfl⟩
      · exact List.not_mem_nil
      · exact ih hmem
      · exact List.not_mem_cons_of_ne_of_not_mem hc.symm (ih hrest)

theorem subset_of_mem_splitOn (h : part ∈ cs.splitOn x) : part ⊆ cs := by
  induction cs generalizing part with
  | nil =>
      rw [List.splitOn_nil, List.mem_singleton] at h
      exact h ▸ List.Subset.refl _
  | cons c cs ih =>
      rcases of_mem_splitOn_cons h with rfl | hmem | ⟨-, rest, hrest, rfl⟩
      · exact List.nil_subset _
      · exact List.Subset.trans (ih hmem) (List.subset_cons_self c cs)
      · exact List.cons_subset_cons c (ih hrest)

theorem notMem_intercalate {sep : Char} {parts : List (List Char)} (hsep : x ≠ sep)
    (h : ∀ part ∈ parts, x ∉ part) : x ∉ [sep].intercalate parts := by
  induction parts with
  | nil => exact List.not_mem_nil
  | cons part parts ih =>
      obtain ⟨hpart, hparts⟩ := List.forall_mem_cons.1 h
      cases parts with
      | nil => rwa [List.intercalate_singleton]
      | cons next parts =>
          rw [List.intercalate_cons_of_ne_nil (List.cons_ne_nil next parts), List.mem_append,
            List.mem_append, List.mem_singleton]
          rintro ((hmem | heq) | hmem)
          · exact hpart hmem
          · exact hsep heq
          · exact ih hparts hmem

end Parts

section Lines

variable {cs line : List Char} {ls : List (List Char)}

theorem lines_subset (cs : List Char) : lines cs ⊆ cs.splitOn '\n' := by
  rw [lines]
  split
  · exact List.dropLast_subset _
  · exact List.Subset.refl _

theorem newline_notMem_of_mem_lines (h : line ∈ lines cs) : '\n' ∉ line :=
  notMem_of_mem_splitOn (lines_subset cs h)

theorem splitOn_flatMap (h : ∀ line ∈ ls, '\n' ∉ line) :
    (ls.flatMap (· ++ ['\n'])).splitOn '\n' = ls ++ [[]] := by
  induction ls with
  | nil => rfl
  | cons line ls ih =>
      obtain ⟨hline, hls⟩ := List.forall_mem_cons.1 h
      rw [List.flatMap_cons, List.append_assoc, List.singleton_append,
        List.splitOn_append_cons_self_of_not_mem hline, ih hls, List.cons_append]

theorem lines_flatMap (h : ∀ line ∈ ls, '\n' ∉ line) : lines (ls.flatMap (· ++ ['\n'])) = ls := by
  rw [lines, splitOn_flatMap h, if_pos List.getLast?_concat, List.dropLast_concat]

end Lines

section Cells

theorem tab_notMem_of_mem_cells {cell line : List Char} (h : cell ∈ cells line) : '\t' ∉ cell :=
  notMem_of_mem_splitOn h

theorem subset_of_mem_cells {cell line : List Char} (h : cell ∈ cells line) : cell ⊆ line :=
  subset_of_mem_splitOn h

theorem cells_intercalate {cs : List (List Char)} (hne : cs ≠ []) (h : ∀ cell ∈ cs, '\t' ∉ cell) :
    cells (['\t'].intercalate cs) = cs := List.splitOn_intercalate '\t' h hne

end Cells

end Salvo.Text
