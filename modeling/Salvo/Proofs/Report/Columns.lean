import Salvo.Proofs.Decimal.Blankless
import Salvo.Proofs.Report.Rows
import Salvo.Proofs.Text.Lines
import Salvo.Report.Table

/-!
# Columns of the table

The table writes names as they are. It has a line for each row and a cell for each column if no name has a
tab or a newline in it, and only then: a cell that is found in a table never holds one of them
(`Report.tabular_iff`). Numbers hold no blanks at all.
-/

namespace Salvo

theorem exists_mem_of_forall₂ {α β : Type} {R : α → β → Prop} {l : List α} {r : List β}
    (h : List.Forall₂ R l r) : ∀ b ∈ r, ∃ a ∈ l, R a b := by
  induction h with
  | nil => exact fun b hb => nomatch hb
  | cons hab _ ih =>
      intro b hb
      rcases List.mem_cons.1 hb with rfl | hb
      · exact ⟨_, List.mem_cons_self, hab⟩
      · obtain ⟨a, ha, hrelated⟩ := ih b hb
        exact ⟨a, List.mem_cons_of_mem _ ha, hrelated⟩

@[mk_iff]
structure FitsCell (s : String) : Prop where
  tab_notMem : '\t' ∉ s.toList
  newline_notMem : '\n' ∉ s.toList

instance (s : String) : Decidable (FitsCell s) := decidable_of_iff _ (fitsCell_iff s).symm

theorem FitsCell.of_blankless {s : String} (h : Text.Blankless s.toList) : FitsCell s where
  tab_notMem hmem := absurd (h '\t' hmem) (by decide)
  newline_notMem hmem := absurd (h '\n' hmem) (by decide)

theorem FitsCell.of_mem_cells {text line : List Char} {s : String} (hline : line ∈ Text.lines text)
    (hcell : s.toList ∈ Text.cells line) : FitsCell s where
  tab_notMem := Text.tab_notMem_of_mem_cells hcell
  newline_notMem hmem :=
    Text.newline_notMem_of_mem_lines hline (Text.subset_of_mem_cells hcell hmem)

/-- Each of the names takes up one cell. -/
structure ResultNames.FitCells (names : ResultNames) : Prop where
  attacker : FitsCell names.attacker
  defender : FitsCell names.defender
  weapon : FitsCell names.weapon

/-- The line shows the row: it has eleven cells, and the names of the row are the first three. -/
structure ReportRow.ShownBy {α : Type} (row : ReportRow α) (line : List Char) : Prop where
  length_cells : (Text.cells line).length = 11
  names : (Text.cells line).take 3 =
    [row.attacker.toList, row.defender.toList, row.weapon.toList]

/-- The table of the report has eleven columns: a line with their names, and then a line for each row. -/
def Report.Tabular (r : Report Float) : Prop :=
  ∃ header body, Text.lines r.table.toList = header :: body ∧
    Text.cells header = tableHeader.map String.toList ∧ (Text.cells header).length = 11 ∧
    List.Forall₂ (fun line row => row.ShownBy line) body r.rows

section Written

variable {row : ReportRow Float}

theorem fitsCell_toString (n : Nat) : FitsCell (toString n) :=
  .of_blankless fun _ hc => Text.isBlank_of_mem_toString hc

theorem Decimal.fitsCell_fixedText (places : Nat) (x : Float) : FitsCell (fixedText places x) :=
  .of_blankless (blankless_fixedText places x)

theorem Decimal.Style.fitsCell_text (s : Style) (x : Float) : FitsCell (s.text x) :=
  .of_blankless (s.blankless_text x)

namespace ReportRow

theorem fitsCell_of_mem_tableCells (h : row.names.FitCells) : ∀ cell ∈ row.tableCells, FitsCell cell := by
  have hfixed := Decimal.fitsCell_fixedText
  have hplain := Decimal.plainStyle.fitsCell_text
  simp only [tableCells, List.forall_mem_cons]
  exact ⟨h.attacker, h.defender, h.weapon, hfixed .., hfixed .., hfixed .., hfixed .., hplain _,
    hplain _, hfixed .., fitsCell_toString _, nofun⟩

theorem shownBy_of_cells_eq {line : List Char}
    (h : Text.cells line = row.tableCells.map String.toList) : row.ShownBy line where
  length_cells := by rw [h, List.length_map]; rfl
  names := by rw [h, ← List.map_take]; rfl

end ReportRow

def lineOf (cells : List String) : List Char := ['\t'].intercalate (cells.map String.toList)

theorem toList_tableLine (cells : List String) : (tableLine cells).toList = lineOf cells ++ ['\n'] := by
  rw [tableLine, String.toList_append, String.toList_intercalate]
  rfl

theorem Report.toList_table (r : Report Float) :
    r.table.toList =
      ((tableHeader :: r.rows.map ReportRow.tableCells).map lineOf).flatMap (· ++ ['\n']) := by
  rw [table, String.toList_join, List.flatMap_map, List.flatMap_map]
  exact congrArg (List.flatMap · _) (funext toList_tableLine)

theorem fitsCell_of_mem_tableHeader : ∀ cell ∈ tableHeader, FitsCell cell := by decide

variable {cells : List String}

theorem cells_lineOf (hne : cells ≠ []) (h : ∀ cell ∈ cells, FitsCell cell) :
    Text.cells (lineOf cells) = cells.map String.toList := by
  refine Text.cells_intercalate (mt List.map_eq_nil_iff.1 hne) fun cell hcell => ?_
  obtain ⟨s, hs, rfl⟩ := List.mem_map.1 hcell
  exact (h s hs).tab_notMem

theorem newline_notMem_lineOf (h : ∀ cell ∈ cells, FitsCell cell) : '\n' ∉ lineOf cells := by
  refine Text.notMem_intercalate (by decide) fun cell hcell => ?_
  obtain ⟨s, hs, rfl⟩ := List.mem_map.1 hcell
  exact (h s hs).newline_notMem

end Written

namespace Report

variable {r : Report Float}

theorem tabular_of_fitCells (h : ∀ row ∈ r.rows, row.names.FitCells) : r.Tabular := by
  have hrows : ∀ row ∈ r.rows, ∀ cell ∈ row.tableCells, FitsCell cell := fun row hrow =>
    ReportRow.fitsCell_of_mem_tableCells (h row hrow)
  have hheader : Text.cells (lineOf tableHeader) = tableHeader.map String.toList :=
    cells_lineOf (List.cons_ne_nil _ _) fitsCell_of_mem_tableHeader
  refine ⟨lineOf tableHeader, r.rows.map fun row => lineOf row.tableCells, ?_, hheader, ?_, ?_⟩
  · have hlines : ∀ line ∈ (tableHeader :: r.rows.map ReportRow.tableCells).map lineOf,
        '\n' ∉ line := by
      rw [List.map_cons, List.map_map, List.forall_mem_cons, List.forall_mem_map]
      exact ⟨newline_notMem_lineOf fitsCell_of_mem_tableHeader,
        fun row hrow => newline_notMem_lineOf (hrows row hrow)⟩
    rw [toList_table, Text.lines_flatMap hlines, List.map_cons, List.map_map]
    rfl
  · rw [hheader]
    rfl
  · rw [List.forall₂_map_left_iff, List.forall₂_same]
    exact fun row hrow =>
      ReportRow.shownBy_of_cells_eq (cells_lineOf (List.cons_ne_nil _ _) (hrows row hrow))

theorem Tabular.fitCells (h : r.Tabular) : ∀ row ∈ r.rows, row.names.FitCells := by
  obtain ⟨header, body, hlines, -, -, hbody⟩ := h
  intro row hrow
  obtain ⟨line, hline, hshown⟩ := exists_mem_of_forall₂ hbody row hrow
  have hmem : line ∈ Text.lines r.table.toList := hlines ▸ List.mem_cons_of_mem header hline
  have hfits : ∀ cell ∈ [row.attacker, row.defender, row.weapon], FitsCell cell := by
    intro cell hcell
    refine .of_mem_cells hmem (List.mem_of_mem_take (i := 3) ?_)
    rw [hshown.names]
    exact List.mem_map_of_mem hcell
  simp only [List.forall_mem_cons] at hfits
  exact ⟨hfits.1, hfits.2.1, hfits.2.2.1⟩

/-- The table has a line for each row and a cell for each column exactly if the names fit into cells. -/
theorem tabular_iff : r.Tabular ↔ ∀ row ∈ r.rows, row.names.FitCells :=
  ⟨Tabular.fitCells, tabular_of_fitCells⟩

end Report

end Salvo
