import Mathlib.Algebra.Order.BigOperators.Group.List
import Mathlib.Algebra.Order.Group.Nat
import NamedConstants.Proofs.Table.Shown

/-!
# The alignment of ruled tables

A column is as wide as the widest of what stands in it and as what is asked for
(`forall₂_isGreatestOf`).  The title, the rules and all rows are as wide as the table, apart
from rows with a cell that fills its column and takes in the space behind it
(`width_rowLine_add`).  A cell holds its text in front of spaces, without the blank characters at
its end for which there is no room by the number of characters (`holds_placeLine`).
-/

namespace NamedConstants.Table

/-! ## Widths of columns -/

/-- A size is the greatest of several. -/
def IsGreatestOf (w : Nat) (sizes : List Nat) : Prop :=
  w ∈ sizes ∧ ∀ v ∈ sizes, v ≤ w

theorem isGreatestOf_foldl_max {α : Type} (size : α → Nat) (items : List α) (least : Nat) :
    IsGreatestOf (items.foldl (fun w a => max w (size a)) least) (least :: items.map size) := by
  obtain ⟨hleast, hitems⟩ := le_foldl_max size items least
  refine ⟨?_, List.forall_mem_cons.mpr ⟨hleast, List.forall_mem_map.mpr hitems⟩⟩
  clear hleast hitems
  induction items generalizing least with
  | nil => exact List.mem_singleton_self _
  | cons a items ih =>
      rw [List.foldl_cons, List.map_cons]
      obtain hmax | hitem := List.mem_cons.mp (ih (max least (size a)))
      · rw [hmax]
        obtain h | h := Nat.le_total (size a) least
        · rw [Nat.max_eq_left h]
          exact List.mem_cons_self ..
        · rw [Nat.max_eq_right h]
          simp
      · exact List.mem_cons_of_mem _ (List.mem_cons_of_mem _ hitem)

/-- What the width of a column goes by: the least width, and the widths of the header and the
    cells. -/
def columnSizes (columns : List Column) (rows : List (List (List Char))) : List (List Nat) :=
  (columns.zip (byColumn columns rows)).map fun p =>
    p.1.least :: Text.width p.1.header.toList :: p.2.map Text.width

/-- Every column is exactly as wide as the widest of what it goes by. -/
theorem forall₂_isGreatestOf {columns : List Column}
    (hheaders : ∀ c ∈ columns, Text.IsOneLine c.header.toList) {rows : List (List (List Char))}
    (hcells : ∀ row ∈ rows, ∀ cell ∈ row, Text.IsOneLine cell) :
    List.Forall₂ IsGreatestOf (columnWidths columns rows) (columnSizes columns rows) := by
  induction columns generalizing rows with
  | nil => exact .nil
  | cons c columns ih =>
      obtain ⟨hheader, hheaders⟩ := List.forall_mem_cons.mp hheaders
      have hlines : ∀ cell ∈ c.header.toList :: rows.map (fun row => row.headD []),
          naturalWidth cell = Text.width cell := by
        refine List.forall_mem_cons.mpr ⟨naturalWidth_of_isOneLine hheader, ?_⟩
        rw [List.forall_mem_map]
        intro row hrow
        cases row with
        | nil => rfl
        | cons cell row =>
            exact naturalWidth_of_isOneLine (hcells _ hrow cell (List.mem_cons_self ..))
      have hwidest := isGreatestOf_foldl_max naturalWidth
        (c.header.toList :: rows.map fun row => row.headD []) c.least
      rw [List.map_congr_left hlines] at hwidest
      refine .cons hwidest (ih hheaders ?_)
      rw [List.forall_mem_map]
      exact fun row hrow cell hcell => hcells row hrow cell (List.mem_of_mem_tail hcell)

/-! ## Lines put together -/

theorem joinWith_append (edge : Char) {parts : List (List Char)} (h : parts ≠ []) :
    Text.joinWith [edge] parts ++ [edge] = parts.flatMap (· ++ [edge]) := by
  induction parts with
  | nil => exact absurd rfl h
  | cons part parts ih =>
      cases parts with
      | nil => simp [Text.joinWith]
      | cons other parts =>
          have hmore := ih (List.cons_ne_nil other parts)
          rw [Text.joinWith, List.append_assoc, hmore]
          · rfl
          · exact List.cons_ne_nil other parts

theorem tableWidth_eq (widths : List Nat) :
    tableWidth widths = 1 + (widths.map (· + 3)).sum := by
  have key : ∀ total, widths.foldl (fun total w => total + w + 3) total =
      total + (widths.map (· + 3)).sum := by
    induction widths with
    | nil => exact fun total => rfl
    | cons w widths ih =>
        intro total
        rw [List.foldl_cons, ih, List.map_cons, List.sum_cons]
        omega
  exact key 1

/-! ## Rules and titles -/

open Text (standsAlone width_eq_length)

theorem width_draw {r : Rule} (h : ∀ c ∈ [r.left, r.line, r.cross, r.right], standsAlone c = true)
    {widths : List Nat} (hne : widths ≠ []) : Text.width (r.draw widths) = tableWidth widths := by
  have hparts : (widths.map fun w => List.replicate (w + 2) r.line) ≠ [] := by
    simpa using hne
  have hjoin := joinWith_append r.cross hparts
  have halone : ∀ c ∈ r.draw widths, standsAlone c = true := by
    have hlines : ∀ c ∈ Text.joinWith [r.cross] (widths.map fun w => List.replicate (w + 2) r.line),
        standsAlone c = true := by
      intro c hc
      have hmem := List.mem_append_left [r.cross] hc
      rw [hjoin, List.mem_flatMap] at hmem
      obtain ⟨part, hpart, hmem⟩ := hmem
      obtain ⟨w, -, rfl⟩ := List.mem_map.mp hpart
      obtain hmem | hmem := List.mem_append.mp hmem
      · rw [List.eq_of_mem_replicate hmem]
        exact h _ (by simp)
      · rw [List.mem_singleton.mp hmem]
        exact h _ (by simp)
    rw [Rule.draw, List.forall_mem_append, List.forall_mem_cons, List.forall_mem_singleton]
    exact ⟨⟨h _ (by simp), hlines⟩, h _ (by simp)⟩
  have hlength := congrArg List.length hjoin
  simp only [List.length_append, List.length_singleton, List.length_flatMap, List.map_map,
    Function.comp_def, List.length_replicate, Nat.add_assoc, Nat.reduceAdd] at hlength
  rw [width_eq_length halone, tableWidth_eq, Rule.draw, List.length_append, List.length_cons,
    List.length_singleton, ← hlength]
  omega

/-- A title of plain characters that is shorter than the table is made as wide. -/
theorem width_titleLine {title : String} (h : ∀ c ∈ title.toList, standsAlone c = true)
    {widths : List Nat} (hfits : title.toList.length ≤ tableWidth widths) :
    Text.width (titleLine title widths) = tableWidth widths := by
  have htrim : ∀ c ∈ Text.trimEnd title.toList, standsAlone c = true :=
    fun c hc => h c ((Text.trimEnd_isPrefix _).subset hc)
  have hshort := (Text.trimEnd_isPrefix title.toList).length_le
  have hwidth := width_eq_length htrim
  have hplaced : ∀ c ∈ Text.place .centre ' ' (Text.width (Text.trimEnd title.toList))
      (tableWidth widths) (Text.trimEnd title.toList), standsAlone c = true := by
    intro c hc
    obtain rfl | hc := mem_place hc
    · exact Text.standsAlone_space
    · exact htrim c hc
  have hlength : (Text.place .centre ' ' (Text.width (Text.trimEnd title.toList))
      (tableWidth widths) (Text.trimEnd title.toList)).length = tableWidth widths := by
    rw [hwidth]
    simp only [Text.place, Text.Alignment.share, List.length_append, List.length_replicate]
    omega
  have hfull := (width_eq_length hplaced).trans hlength
  unfold titleLine placeLine
  dsimp only
  rw [hfull, Nat.sub_self, List.replicate_zero, List.append_nil, hfull]

/-! ## Cells -/

section Cells

variable {w : Nat} {line : List Char}

/-- A line that has room is made as wide as its column. -/
theorem width_placeLine_left (h : Text.width line ≤ w) :
    Text.width (placeLine .left w line) = w := by
  rw [placeLine_left, Text.width_append_spaces, room]
  cases Text.joinsNext line with
  | false =>
      simp only [Bool.false_and, Bool.false_eq_true, if_false]
      omega
  | true =>
      simp only [Bool.true_and, decide_eq_true_eq, if_true]
      split <;> omega

/-- It takes in the space behind its cell only if it fills the column. -/
theorem joinsNext_placeLine_left (h : Text.width line ≤ w) :
    Text.joinsNext (placeLine .left w line) =
      (Text.joinsNext line && Text.width line == w) := by
  rw [placeLine_left, Text.joinsNext_append_spaces, room]
  cases Text.joinsNext line with
  | false => rfl
  | true =>
      simp only [Bool.true_and, decide_eq_true_eq]
      rw [Bool.eq_iff_iff, beq_iff_eq, beq_iff_eq]
      split <;> omega

end Cells

/-- A text fills its column and takes in the space behind its cell. -/
def overlaps (w : Nat) (text : List Char) : Bool :=
  Text.joinsNext (Text.trimExcess w text) && Text.width (Text.trimExcess w text) == w

/-- What stands in a cell between its edges, and the edge behind it. -/
theorem width_cell {edge : Char} (h : standsAlone edge = true) (placed rest : List Char) :
    Text.width (' ' :: placed ++ [' '] ++ [edge] ++ rest) + (Text.joinsNext placed).toNat =
      Text.width placed + 3 + Text.width rest := by
  obtain ⟨l, hl⟩ := Text.exists_widthAfter_append none placed
  have hshape : ' ' :: placed ++ [' '] ++ [edge] ++ rest = ' ' :: (placed ++ ' ' :: edge :: rest) := by
    simp
  have hedge : Text.width (edge :: rest) = 1 + Text.width rest :=
    Text.widthAfter_of_standsAlone h none rest
  have hinner : Text.width (placed ++ ' ' :: edge :: rest) + (Text.joinsNext placed).toNat =
      Text.width placed + 2 + Text.width rest := by
    have hboth : Text.width (placed ++ ' ' :: edge :: rest) =
        Text.width placed + Text.widthAfter l (Text.leftBehind placed (' ' :: edge :: rest)) := hl _
    rw [Text.leftBehind] at hboth
    cases hjoins : Text.joinsNext placed with
    | false =>
        rw [hjoins, if_neg Bool.false_ne_true,
          Text.widthAfter_of_standsAlone Text.standsAlone_space, hedge] at hboth
        simp only [Bool.toNat_false]
        omega
    | true =>
        rw [hjoins, if_pos rfl, List.tail_cons, Text.widthAfter_of_standsAlone h] at hboth
        simp only [Bool.toNat_true]
        omega
  rw [hshape, Text.width, Text.widthAfter_of_standsAlone Text.standsAlone_space]
  omega

/-! ## Rows -/

/-- The cells of a line of a row, with a space on both sides. -/
def rowCells (columns : List (Column × Nat)) (lines : List (List Char)) : List (List Char) :=
  (columns.zip lines).map fun slot =>
    ' ' :: placeLine slot.1.1.alignment slot.1.2 slot.2 ++ [' ']

theorem rowCells_cons (c : Column) (w : Nat) (columns : List (Column × Nat)) (line : List Char)
    (lines : List (List Char)) :
    rowCells ((c, w) :: columns) (line :: lines) =
      (' ' :: placeLine c.alignment w line ++ [' ']) :: rowCells columns lines :=
  rfl

theorem rowLine_eq (edge : Char) {columns : List (Column × Nat)} {lines : List (List Char)}
    (hne : rowCells columns lines ≠ []) :
    rowLine edge columns lines = edge :: (rowCells columns lines).flatMap (· ++ [edge]) := by
  rw [← joinWith_append edge hne]
  rfl

section Rows

variable {columns : List Column} {widths : List Nat} {row : List (List Char)}

/-- Each cell takes its column, a space on both sides and an edge, but for a cell less if its text
    overlaps the edge. -/
theorem width_rowCells_add {edge : Char} (hedge : standsAlone edge = true)
    (hleft : ∀ c ∈ columns, c.alignment = .left) (hlen : widths.length = columns.length)
    (hrow : ∀ cell ∈ row, Text.IsOneLine cell)
    (hfits : List.Forall₂ (fun w cell => naturalWidth cell ≤ w) widths row) :
    Text.width ((rowCells (columns.zip widths) (List.zipWith Text.trimExcess widths row)).flatMap
        (· ++ [edge])) + (List.zipWith overlaps widths row).count true =
      (widths.map (· + 3)).sum := by
  induction hfits generalizing columns with
  | nil => simp [rowCells, Text.width, Text.widthAfter]
  | @cons w cell widths row hw hfits ih =>
      cases columns with
      | nil => cases hlen
      | cons c columns =>
          obtain ⟨hcell, hcells⟩ := List.forall_mem_cons.mp hrow
          obtain ⟨hc, hleft⟩ := List.forall_mem_cons.mp hleft
          have hrest := ih hleft (Nat.succ.inj hlen) hcells
          have hkept : Text.width (Text.trimExcess w cell) ≤ w := by
            rw [naturalWidth_of_isOneLine hcell] at hw
            exact Nat.le_trans (Text.width_trimExcess_le w cell) hw
          have hfirst := width_cell hedge (placeLine .left w (Text.trimExcess w cell))
            ((rowCells (columns.zip widths) (List.zipWith Text.trimExcess widths row)).flatMap
              (· ++ [edge]))
          rw [width_placeLine_left hkept, joinsNext_placeLine_left hkept, ← overlaps] at hfirst
          rw [List.zip_cons_cons, List.zipWith_cons_cons, rowCells_cons, hc, List.flatMap_cons,
            List.zipWith_cons_cons, List.map_cons, List.sum_cons]
          cases hover : overlaps w cell with
          | false =>
              rw [hover, Bool.toNat_false] at hfirst
              rw [List.count_cons_of_ne Bool.false_ne_true]
              omega
          | true =>
              rw [hover, Bool.toNat_true] at hfirst
              rw [List.count_cons_self]
              omega

/-- A row is as wide as the table, but for a cell for each text that overlaps the edge. -/
theorem width_rowLine_add {edge : Char} (hedge : standsAlone edge = true) (hne : columns ≠ [])
    (hleft : ∀ c ∈ columns, c.alignment = .left) (hlen : widths.length = columns.length)
    (hrow : ∀ cell ∈ row, Text.IsOneLine cell)
    (hfits : List.Forall₂ (fun w cell => naturalWidth cell ≤ w) widths row) :
    Text.width (rowLine edge (columns.zip widths) (List.zipWith Text.trimExcess widths row)) +
      (List.zipWith overlaps widths row).count true = tableWidth widths := by
  have hcells : rowCells (columns.zip widths) (List.zipWith Text.trimExcess widths row) ≠ [] := by
    have hcolumns := List.length_pos_iff.mpr hne
    have hrow := hfits.length_eq
    rw [← List.length_pos_iff, rowCells]
    simp only [List.length_map, List.length_zip, List.length_zipWith]
    omega
  rw [rowLine_eq edge hcells, Text.width, Text.widthAfter_of_standsAlone hedge, tableWidth_eq,
    Nat.add_assoc, width_rowCells_add hedge hleft hlen hrow hfits]

end Rows

/-! ## What a cell holds -/

/-- The blank characters at the end of a text that its cell does not show: as many as the text
    has characters too many. -/
def lost (w : Nat) (text : List Char) : List Char :=
  text.drop (Text.trimExcess w text).length

theorem trimExcess_append_lost (w : Nat) (text : List Char) :
    Text.trimExcess w text ++ lost w text = text := by
  obtain ⟨blanks, hblanks, -⟩ := Text.trimExcess_append w text
  exact List.prefix_iff_eq_append.mp ⟨blanks, hblanks.symm⟩

/-- Only blank characters at the end of a text are lost, and only as many as the text has more
    characters than its column has cells. -/
theorem lost_spec (w : Nat) (text : List Char) :
    (∀ c ∈ lost w text, Text.isBlank c = true) ∧ (lost w text).length =
      min (text.length - (Text.trimEnd text).length) (text.length - w) := by
  obtain ⟨blanks, hblanks, hblank⟩ := Text.trimExcess_append w text
  have hlost : lost w text = blanks :=
    List.append_cancel_left ((trimExcess_append_lost w text).trans hblanks)
  refine ⟨hlost ▸ hblank, ?_⟩
  rw [lost, List.length_drop, Text.trimExcess, List.length_take]
  omega

/-- A cell holds a text in a column of a given width. -/
structure Holds (w : Nat) (text cell : List Char) : Prop where
  /-- The text stands in front of spaces, without the characters that it loses. -/
  shape : ∃ kept n, text = kept ++ lost w text ∧ cell = ' ' :: kept ++ List.replicate (n + 1) ' '
  /-- These are blank characters at its end, as many as it has too many for the column. -/
  lost_blank : (∀ c ∈ lost w text, Text.isBlank c = true) ∧ (lost w text).length =
    min (text.length - (Text.trimEnd text).length) (text.length - w)
  /-- It is unchanged if and only if it loses nothing but spaces, which stand in for them. -/
  unchanged_iff : (∃ n, cell = ' ' :: text ++ List.replicate n ' ') ↔ ∀ c ∈ lost w text, c = ' '

/-- Spaces are what comes before other spaces if and only if it is spaces, given that there is no
    more of it. -/
theorem replicate_eq_append_iff {blanks : List Char} {n : Nat}
    (h : (∀ c ∈ blanks, c = ' ') → blanks.length ≤ n) :
    (∃ m, List.replicate n ' ' = blanks ++ List.replicate m ' ') ↔ ∀ c ∈ blanks, c = ' ' := by
  constructor
  · rintro ⟨m, hm⟩ c hc
    have hmem := List.mem_append_left (List.replicate m ' ') hc
    rw [← hm] at hmem
    exact List.eq_of_mem_replicate hmem
  · intro hspaces
    have hblanks := List.eq_replicate_of_mem hspaces
    refine ⟨n - blanks.length, ?_⟩
    conv_rhs => rw [hblanks, List.length_replicate]
    rw [← List.replicate_add, Nat.add_sub_cancel' (h hspaces)]

/-- If a text loses only spaces, there are no fewer behind what is kept of it. -/
theorem length_lost_le {w : Nat} {text : List Char} (h : Text.width text ≤ w)
    (hspaces : ∀ c ∈ lost w text, c = ' ') :
    (lost w text).length ≤ room w (Text.trimExcess w text) + 1 := by
  rw [← trimExcess_append_lost w text, List.eq_replicate_of_mem hspaces,
    Text.width_append_spaces] at h
  rw [room]
  cases hjoins : Text.joinsNext (Text.trimExcess w text) with
  | false =>
      rw [hjoins, if_neg Bool.false_ne_true] at h
      omega
  | true =>
      rw [hjoins, if_pos rfl] at h
      omega

theorem holds_placeLine {w : Nat} {text : List Char} (h : Text.width text ≤ w) :
    Holds w text (' ' :: placeLine .left w (Text.trimExcess w text) ++ [' ']) := by
  have hsplit := trimExcess_append_lost w text
  have hcell : ' ' :: placeLine .left w (Text.trimExcess w text) ++ [' '] =
      ' ' :: Text.trimExcess w text ++
        List.replicate (room w (Text.trimExcess w text) + 1) ' ' := by
    rw [placeLine_left, List.replicate_succ']
    simp
  refine ⟨⟨_, _, hsplit.symm, hcell⟩, lost_spec w text, ?_⟩
  have hsame : ∀ m, (' ' :: placeLine .left w (Text.trimExcess w text) ++ [' '] =
      ' ' :: text ++ List.replicate m ' ') ↔
      List.replicate (room w (Text.trimExcess w text) + 1) ' ' =
        lost w text ++ List.replicate m ' ' := by
    intro m
    have htext : ' ' :: text ++ List.replicate m ' ' =
        ' ' :: Text.trimExcess w text ++ (lost w text ++ List.replicate m ' ') := by
      conv_lhs => rw [← hsplit]
      simp only [List.cons_append, List.append_assoc]
    rw [hcell, htext, List.append_cancel_left_eq]
  rw [exists_congr hsame]
  exact replicate_eq_append_iff (length_lost_le h)

/-- A line holds texts in cells between vertical lines, in columns of given widths. -/
def RowHolds (edge : Char) (widths : List Nat) (texts : List (List Char)) (line : List Char) :
    Prop :=
  ∃ cells, List.Forall₂ (fun slot cell => Holds slot.1 slot.2 cell) (widths.zip texts) cells ∧
    line = edge :: Text.joinWith [edge] cells ++ [edge]

theorem rowHolds_rowLine (edge : Char) {columns : List Column}
    (hleft : ∀ c ∈ columns, c.alignment = .left) {widths : List Nat} {row : List (List Char)}
    (hlen : widths.length = columns.length) (hrow : ∀ cell ∈ row, Text.IsOneLine cell)
    (hfits : List.Forall₂ (fun w cell => naturalWidth cell ≤ w) widths row) :
    RowHolds edge widths row
      (rowLine edge (columns.zip widths) (List.zipWith Text.trimExcess widths row)) := by
  refine ⟨rowCells (columns.zip widths) (List.zipWith Text.trimExcess widths row), ?_, rfl⟩
  induction hfits generalizing columns with
  | nil => simp [rowCells]
  | @cons w cell widths row hw hfits ih =>
      cases columns with
      | nil => cases hlen
      | cons c columns =>
          obtain ⟨hcell, hcells⟩ := List.forall_mem_cons.mp hrow
          obtain ⟨hc, hleft⟩ := List.forall_mem_cons.mp hleft
          rw [naturalWidth_of_isOneLine hcell] at hw
          rw [List.zip_cons_cons, List.zipWith_cons_cons, List.zip_cons_cons, rowCells_cons, hc]
          exact .cons (holds_placeLine hw) (ih hleft (Nat.succ.inj hlen) hcells)

/-! ## Whole tables -/

/-- The columns of a table are as wide as what stands in them, and its lines as wide as the table.
    `headers` is the line of the headers, and `lines` are the lines of the rows. -/
structure Aligned (title : String) (columns : List Column) (rows : List (List (List Char)))
    (widths : List Nat) (headers : List Char) (lines : List (List Char)) : Prop where
  /-- Every column is as wide as the widest of its cells and its header, and as it is asked for. -/
  widest : List.Forall₂ IsGreatestOf widths (columnSizes columns rows)
  heads : RowHolds '┃' widths (columns.map fun c => c.header.toList) headers
  /-- There is one line for each row, in order, which holds its texts. -/
  holds : List.Forall₂ (RowHolds '│' widths) rows lines
  /-- The title, the rules and the headers are as wide as the table. -/
  frame : ∀ line ∈ [titleLine title widths, topRule.draw widths, headers, headRule.draw widths,
    bottomRule.draw widths], Text.width line = tableWidth widths
  /-- So is the line of a row, but for a cell for each text that overlaps an edge. -/
  body : List.Forall₂ (fun row line => Text.width line +
    (List.zipWith overlaps widths row).count true = tableWidth widths) rows lines

theorem le_tableWidth {widths : List Nat} {w : Nat} (h : w ∈ widths) : w ≤ tableWidth widths := by
  have hsum := List.le_sum_of_mem (List.mem_map_of_mem (f := (· + 3)) h)
  rw [tableWidth_eq]
  omega

theorem exists_width_ge {columns : List Column} {c : Column} (h : c ∈ columns)
    (rows : List (List (List Char))) : ∃ w ∈ columnWidths columns rows, c.least ≤ w := by
  induction columns generalizing rows with
  | nil => cases h
  | cons c' columns ih =>
      obtain rfl | h := List.mem_cons.mp h
      · refine ⟨_, List.mem_cons_self .., ?_⟩
        exact Nat.le_trans (Nat.le_max_left ..) (le_foldl_max naturalWidth _ _).1
      · obtain ⟨w, hw, hleast⟩ := ih h (rows.map List.tail)
        exact ⟨w, List.mem_cons_of_mem _ hw, hleast⟩

/-- A text without joiners does not overlap. -/
theorem overlaps_of_not_mem {text : List Char} (h : Text.joiner ∉ text) (w : Nat) :
    overlaps w text = false := by
  have hkept : Text.joiner ∉ Text.trimExcess w text := fun hmem => h ((List.take_subset _ _) hmem)
  rw [overlaps, Text.joinsNext_of_not_mem hkept, Bool.false_and]

theorem count_overlaps_of_not_mem {texts : List (List Char)} (h : ∀ text ∈ texts, Text.joiner ∉ text)
    (widths : List Nat) : (List.zipWith overlaps widths texts).count true = 0 := by
  induction texts generalizing widths with
  | nil => simp
  | cons text texts ih =>
      obtain ⟨htext, htexts⟩ := List.forall_mem_cons.mp h
      cases widths with
      | nil => rfl
      | cons w widths =>
          rw [List.zipWith_cons_cons, overlaps_of_not_mem htext,
            List.count_cons_of_ne Bool.false_ne_true, ih htexts]

theorem standsAlone_vertical : standsAlone '┃' = true ∧ standsAlone '│' = true := by
  decide +kernel

theorem standsAlone_rules : ∀ r ∈ [topRule, headRule, bottomRule],
    ∀ c ∈ [r.left, r.line, r.cross, r.right], standsAlone c = true := by
  have hrules : [topRule, headRule, bottomRule].all (fun r =>
      [r.left, r.line, r.cross, r.right].all standsAlone) = true := by decide +kernel
  simpa only [List.all_eq_true] using hrules

/-- The lines of a table whose cells are lines. -/
theorem aligned_ruledLines {title : String} (htitle : ∀ c ∈ title.toList, standsAlone c = true)
    {columns : List Column} (hleft : ∀ c ∈ columns, c.alignment = .left)
    (hroom : ∃ c ∈ columns, title.toList.length ≤ c.least)
    (hheaders : ∀ c ∈ columns, Text.IsOneLine c.header.toList ∧ Text.joiner ∉ c.header.toList)
    {rows : List (List (List Char))} (hlen : ∀ row ∈ rows, row.length = columns.length)
    (hcells : ∀ row ∈ rows, ∀ cell ∈ row, Text.IsOneLine cell) :
    ∃ widths headers lines, Aligned title columns rows widths headers lines ∧
      ruledLines title columns (byColumn columns rows) rows.length =
        titleLine title widths :: topRule.draw widths :: headers :: headRule.draw widths :: lines ++
          [bottomRule.draw widths] := by
  obtain ⟨c, hc, htitleRoom⟩ := hroom
  have hne : columns ≠ [] := List.ne_nil_of_mem hc
  have honeLine : ∀ c ∈ columns, Text.IsOneLine c.header.toList := fun c hc => (hheaders c hc).1
  have hlenWidths := length_columnWidths columns rows
  have hnone : columnWidths columns rows ≠ [] := by
    rw [← List.length_pos_iff, hlenWidths]
    exact List.length_pos_iff.mpr hne
  have hfits : title.toList.length ≤ tableWidth (columnWidths columns rows) := by
    obtain ⟨w, hw, hleast⟩ := exists_width_ge hc rows
    exact Nat.le_trans htitleRoom (Nat.le_trans hleast (le_tableWidth hw))
  have hheads := forall₂_columnWidths_headers columns rows
  have hheadLines : ∀ text ∈ columns.map (fun c => c.header.toList), Text.IsOneLine text :=
    List.forall_mem_map.mpr honeLine
  have hclear := count_overlaps_of_not_mem
    (List.forall_mem_map.mpr fun c hc => (hheaders c hc).2) (columnWidths columns rows)
  refine ⟨columnWidths columns rows, _, _, ⟨?_, ?_, ?_, ?_, ?_⟩,
    ruledLines_of_isOneLine title hne honeLine hlen hcells⟩
  · exact forall₂_isGreatestOf honeLine hcells
  · exact rowHolds_rowLine '┃' hleft hlenWidths hheadLines hheads
  · rw [List.forall₂_map_right_iff, List.forall₂_same]
    intro row hrow
    exact rowHolds_rowLine '│' hleft hlenWidths (hcells row hrow)
      (forall₂_columnWidths hrow (hlen row hrow))
  · have hheadLine := width_rowLine_add standsAlone_vertical.1 hne hleft hlenWidths hheadLines
      hheads
    rw [hclear, Nat.add_zero] at hheadLine
    have hrules : ∀ r ∈ [topRule, headRule, bottomRule],
        Text.width (r.draw (columnWidths columns rows)) = tableWidth (columnWidths columns rows) :=
      fun r hr => width_draw (standsAlone_rules r hr) hnone
    simp only [List.forall_mem_cons, List.not_mem_nil, false_imp_iff, implies_true, and_true]
      at hrules ⊢
    exact ⟨width_titleLine htitle hfits, hrules.1, hheadLine, hrules.2⟩
  · rw [List.forall₂_map_right_iff, List.forall₂_same]
    intro row hrow
    exact width_rowLine_add standsAlone_vertical.2 hne hleft hlenWidths (hcells row hrow)
      (forall₂_columnWidths hrow (hlen row hrow))

end NamedConstants.Table
