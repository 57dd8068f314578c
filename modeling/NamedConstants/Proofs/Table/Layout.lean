import Mathlib.Data.List.Forall2
import NamedConstants.Proofs.Console
import NamedConstants.Proofs.Text.Wrap
import NamedConstants.Table.Ruled

/-!
# The layout of ruled tables

A column is as wide as each of its cells (`forall₂_columnWidths`), so a row whose cells are lines
stays one line, between the lines of other rows (`rowLines_of_fits`).  If all cells are lines, the
table has a line for each row (`ruledLines_of_isOneLine`).
-/

namespace NamedConstants.Table

/-! ## Widths of columns -/

theorem le_foldl_max {α : Type} (size : α → Nat) (items : List α) (least : Nat) :
    least ≤ items.foldl (fun w a => max w (size a)) least ∧
      ∀ a ∈ items, size a ≤ items.foldl (fun w a => max w (size a)) least := by
  induction items generalizing least with
  | nil => simp
  | cons b items ih =>
      obtain ⟨hleast, hitems⟩ := ih (max least (size b))
      rw [List.foldl_cons]
      refine ⟨Nat.le_trans (Nat.le_max_left ..) hleast, ?_⟩
      intro a ha
      rcases List.mem_cons.mp ha with rfl | ha
      · exact Nat.le_trans (Nat.le_max_right ..) hleast
      · exact hitems a ha

theorem naturalWidth_of_isOneLine {s : List Char} (h : Text.IsOneLine s) :
    naturalWidth s = Text.width s := by
  by_cases hs : s = []
  · subst hs
    rfl
  · rw [naturalWidth, Text.splitLines_of_isOneLine h hs]
    exact Nat.max_eq_right (Nat.zero_le _)

theorem naturalWidth_le_columnWidth {c : Column} {cells : List (List Char)} {cell : List Char}
    (h : cell ∈ cells) : naturalWidth cell ≤ columnWidth c cells :=
  (le_foldl_max naturalWidth cells _).2 cell h

theorem naturalWidth_header_le (c : Column) (cells : List (List Char)) :
    naturalWidth c.header.toList ≤ columnWidth c cells :=
  Nat.le_trans (Nat.le_max_right ..) (le_foldl_max naturalWidth cells _).1

/-! ## Rows and columns -/

/-- The cells of a table column by column, given row by row. -/
def byColumn : List Column → List (List (List Char)) → List (List (List Char))
  | [], _ => []
  | _ :: columns, rows =>
      rows.map (fun row => row.headD []) :: byColumn columns (rows.map List.tail)

/-- The widths of the columns of a table with the given rows. -/
def columnWidths (columns : List Column) (rows : List (List (List Char))) : List Nat :=
  (columns.zip (byColumn columns rows)).map fun p => columnWidth p.1 p.2

theorem map_getD_byColumn {columns : List Column} {rows : List (List (List Char))} {i : Nat}
    {row : List (List Char)} (hi : rows[i]? = some row) (hrow : row.length = columns.length) :
    (byColumn columns rows).map (fun column => column.getD i []) = row := by
  induction columns generalizing rows row with
  | nil => rw [byColumn, List.map_nil, List.length_eq_zero_iff.mp hrow]
  | cons c columns ih =>
      cases row with
      | nil => cases hrow
      | cons cell row =>
          have htail : (rows.map List.tail)[i]? = some row := by simp [hi]
          rw [byColumn, List.map_cons, ih htail (Nat.succ.inj hrow)]
          simp [hi]

/-- Rows that are as long as the table is broad are read back from its columns. -/
theorem byRow_byColumn {columns : List Column} {rows : List (List (List Char))}
    (h : ∀ row ∈ rows, row.length = columns.length) :
    byRow (byColumn columns rows) rows.length = rows := by
  apply List.ext_getElem
  · simp [byRow]
  · intro i _ hi
    have hget : rows[i]? = some rows[i] := List.getElem?_eq_getElem hi
    simp only [byRow, List.getElem_map, List.getElem_range]
    exact map_getD_byColumn hget (h _ (List.getElem_mem hi))

theorem length_columnWidths (columns : List Column) (rows : List (List (List Char))) :
    (columnWidths columns rows).length = columns.length := by
  induction columns generalizing rows with
  | nil => rfl
  | cons c columns ih => exact congrArg Nat.succ (ih (rows.map List.tail))

/-- Each cell of a row has room in its column. -/
theorem forall₂_columnWidths {columns : List Column} {rows : List (List (List Char))}
    {row : List (List Char)} (h : row ∈ rows) (hrow : row.length = columns.length) :
    List.Forall₂ (fun w cell => naturalWidth cell ≤ w) (columnWidths columns rows) row := by
  induction columns generalizing rows row with
  | nil =>
      obtain rfl := List.length_eq_zero_iff.mp hrow
      exact .nil
  | cons c columns ih =>
      cases row with
      | nil => cases hrow
      | cons cell row =>
          refine .cons ?_ (ih (List.mem_map.mpr ⟨_, h, rfl⟩) (Nat.succ.inj hrow))
          exact naturalWidth_le_columnWidth (List.mem_map.mpr ⟨_, h, rfl⟩)

/-- Each header has room in its column. -/
theorem forall₂_columnWidths_headers (columns : List Column) (rows : List (List (List Char))) :
    List.Forall₂ (fun w cell => naturalWidth cell ≤ w) (columnWidths columns rows)
      (columns.map fun c => c.header.toList) := by
  induction columns generalizing rows with
  | nil => exact .nil
  | cons c columns ih => exact .cons (naturalWidth_header_le c _) (ih (rows.map List.tail))

/-! ## Rows of lines -/

theorem cellLines_of_fits {w : Nat} {cell : List Char} (hcell : Text.IsOneLine cell)
    (hw : naturalWidth cell ≤ w) : cellLines w cell = [Text.trimExcess w cell] := by
  rw [naturalWidth_of_isOneLine hcell] at hw
  rw [cellLines, Console.displayLines_of_isOneLine hcell, List.flatMap_singleton,
    Text.wrap_of_width_le hw]

/-- A row whose cells are lines with room in their columns is one line. -/
theorem rowLines_of_fits (edge : Char) {columns : List Column} (hne : columns ≠ [])
    {widths : List Nat} {row : List (List Char)} (hlen : widths.length = columns.length)
    (hrow : ∀ cell ∈ row, Text.IsOneLine cell)
    (hfits : List.Forall₂ (fun w cell => naturalWidth cell ≤ w) widths row) :
    rowLines edge (columns.zip widths) row =
      [rowLine edge (columns.zip widths) (List.zipWith Text.trimExcess widths row)] := by
  have hblocks : ((columns.zip widths).zip row).map (fun slot => cellLines slot.1.2 slot.2) =
      (List.zipWith Text.trimExcess widths row).map fun line => [line] := by
    clear hne
    induction hfits generalizing columns with
    | nil => simp
    | @cons w cell widths row hw hfits ih =>
        cases columns with
        | nil => cases hlen
        | cons c columns =>
            have hcell := List.forall_mem_cons.mp hrow
            rw [List.zip_cons_cons, List.zip_cons_cons, List.map_cons, List.zipWith_cons_cons,
              List.map_cons, ih (Nat.succ.inj hlen) hcell.2]
            dsimp only
            rw [cellLines_of_fits hcell.1 hw]
  have hheight : ((List.zipWith Text.trimExcess widths row).map fun line => [line]).foldl
      (fun h block => max h block.length) 0 = 1 := by
    have hpos : 0 < (List.zipWith Text.trimExcess widths row).length := by
      have hc := List.length_pos_iff.mpr hne
      have hr := hfits.length_eq
      rw [List.length_zipWith]
      omega
    obtain ⟨line, lines, hlines⟩ := List.exists_cons_of_length_pos hpos
    rw [hlines]
    clear hlines hpos hblocks
    induction lines with
    | nil => rfl
    | cons line lines ih => exact ih
  have hfirst : ((List.zipWith Text.trimExcess widths row).map fun line => [line]).map
      (fun block => block.getD 0 []) = List.zipWith Text.trimExcess widths row := by
    simp
  unfold rowLines
  dsimp only
  rw [hblocks, hheight]
  exact congrArg (fun lines => [rowLine edge (columns.zip widths) lines]) hfirst

/-- The lines of a table whose rows are as long as it is broad. -/
theorem ruledLines_byColumn (title : String) {columns : List Column}
    {rows : List (List (List Char))} (h : ∀ row ∈ rows, row.length = columns.length) :
    ruledLines title columns (byColumn columns rows) rows.length =
      titleLine title (columnWidths columns rows) :: topRule.draw (columnWidths columns rows) ::
        rowLines '┃' (columns.zip (columnWidths columns rows))
          (columns.map fun c => c.header.toList) ++
        headRule.draw (columnWidths columns rows) ::
          rows.flatMap (rowLines '│' (columns.zip (columnWidths columns rows))) ++
        [bottomRule.draw (columnWidths columns rows)] := by
  have hheaders : (columns.zip (columnWidths columns rows)).map (fun c => c.1.header.toList) =
      columns.map fun c => c.header.toList := by
    have hfst : (columns.zip (columnWidths columns rows)).map Prod.fst = columns :=
      List.map_fst_zip (Nat.le_of_eq (length_columnWidths columns rows).symm)
    conv_rhs => rw [← hfst]
    rw [List.map_map]
    rfl
  unfold ruledLines
  dsimp only
  rw [byRow_byColumn h]
  rw [← columnWidths, hheaders]

/-- All lines of a table whose cells are lines: each row is one of them. -/
theorem ruledLines_of_isOneLine (title : String) {columns : List Column} (hne : columns ≠ [])
    (hheaders : ∀ c ∈ columns, Text.IsOneLine c.header.toList) {rows : List (List (List Char))}
    (hlen : ∀ row ∈ rows, row.length = columns.length)
    (hcells : ∀ row ∈ rows, ∀ cell ∈ row, Text.IsOneLine cell) :
    ruledLines title columns (byColumn columns rows) rows.length =
      titleLine title (columnWidths columns rows) :: topRule.draw (columnWidths columns rows) ::
        rowLine '┃' (columns.zip (columnWidths columns rows))
          (List.zipWith Text.trimExcess (columnWidths columns rows)
            (columns.map fun c => c.header.toList)) ::
        headRule.draw (columnWidths columns rows) ::
        rows.map (fun row => rowLine '│' (columns.zip (columnWidths columns rows))
          (List.zipWith Text.trimExcess (columnWidths columns rows) row)) ++
        [bottomRule.draw (columnWidths columns rows)] := by
  have hwidths := length_columnWidths columns rows
  have htop := rowLines_of_fits '┃' hne hwidths (List.forall_mem_map.mpr hheaders)
    (forall₂_columnWidths_headers columns rows)
  have hrows : rows.flatMap (rowLines '│' (columns.zip (columnWidths columns rows))) =
      rows.flatMap fun row => [rowLine '│' (columns.zip (columnWidths columns rows))
        (List.zipWith Text.trimExcess (columnWidths columns rows) row)] := by
    apply List.flatMap_congr
    intro row hrow
    exact rowLines_of_fits '│' hne hwidths (hcells row hrow)
      (forall₂_columnWidths hrow (hlen row hrow))
  rw [ruledLines_byColumn title hlen, htop, hrows, ← List.map_eq_flatMap]
  rfl

/-- A row whose cells are lines is one of the lines of its table. -/
theorem rowLine_mem_ruledLines (title : String) {columns : List Column} (hne : columns ≠ [])
    {rows : List (List (List Char))} (hlen : ∀ row ∈ rows, row.length = columns.length)
    {row : List (List Char)} (hrow : row ∈ rows) (hcells : ∀ cell ∈ row, Text.IsOneLine cell) :
    rowLine '│' (columns.zip (columnWidths columns rows))
        (List.zipWith Text.trimExcess (columnWidths columns rows) row) ∈
      ruledLines title columns (byColumn columns rows) rows.length := by
  have hlines := rowLines_of_fits '│' hne (length_columnWidths columns rows) hcells
    (forall₂_columnWidths hrow (hlen row hrow))
  rw [ruledLines_byColumn title hlen]
  apply List.mem_append_left
  apply List.mem_append_right
  apply List.mem_cons_of_mem
  rw [List.mem_flatMap]
  exact ⟨row, hrow, by rw [hlines]; exact List.mem_singleton_self _⟩

end NamedConstants.Table
