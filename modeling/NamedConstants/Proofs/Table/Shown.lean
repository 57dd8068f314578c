import NamedConstants.Proofs.Table.Layout
import NamedConstants.Proofs.Text.Joiners

/-!
# What ruled tables show

A table of left-aligned lines shows the texts of its cells (`tableShows_ruledLines`).  The marks
of a table, its opening brackets, backslashes and colons, are those of the texts that it shows
(`filter_isMark_of_tableShows`), so texts that are shown with fewer of them than they have are
not shown as they are.  A row of any alignment is read as its texts if each character of them takes
a cell of its own (`rowReads_rowLine`).
-/

namespace NamedConstants.Table

/-! ## What a row shows -/

/-- A cell shows a text behind one space and in front of spaces.  Blank characters at the end
    of the text may be missing if a character of it takes no cell of its own. -/
def CellShows (cell text : List Char) : Prop :=
  ∃ kept blanks n, text = kept ++ blanks ∧ cell = ' ' :: kept ++ List.replicate (n + 1) ' ' ∧
    (blanks = [] ∨ (∀ c ∈ blanks, Text.isBlank c = true) ∧ ∃ c ∈ text, Text.takesNoCell c = true)

/-- A line shows texts in cells between vertical lines. -/
def RowShows (edge : Char) (line : List Char) (texts : List (List Char)) : Prop :=
  ∃ cells, List.Forall₂ CellShows cells texts ∧
    line = edge :: Text.joinWith [edge] cells ++ [edge]

/-- The spaces behind a left-aligned line: as many as it has room for, and one more if it takes in
    the first of them. -/
def room (w : Nat) (line : List Char) : Nat :=
  w - Text.width line + (if Text.joinsNext line && decide (Text.width line < w) then 1 else 0)

theorem placeLine_left (w : Nat) (line : List Char) :
    placeLine .left w line = line ++ List.replicate (room w line) ' ' := by
  have hplaced : placeLine .left w line = line ++ List.replicate (w - Text.width line) ' ' ++
      List.replicate (w - Text.width (line ++ List.replicate (w - Text.width line) ' ')) ' ' := rfl
  have hmore : w - (Text.width line +
      (if Text.joinsNext line then w - Text.width line - 1 else w - Text.width line)) =
      if Text.joinsNext line && decide (Text.width line < w) then 1 else 0 := by
    cases Text.joinsNext line with
    | false =>
        simp only [Bool.false_eq_true, if_false, Bool.false_and]
        omega
    | true =>
        simp only [if_true, Bool.true_and, decide_eq_true_eq]
        split <;> omega
  rw [hplaced, Text.width_append_spaces, hmore, List.append_assoc, ← List.replicate_add, room]

theorem cellShows_placeLine {w : Nat} {text : List Char} (h : Text.width text ≤ w) :
    CellShows (' ' :: placeLine .left w (Text.trimExcess w text) ++ [' ']) text := by
  obtain ⟨n, hn⟩ : ∃ n, placeLine .left w (Text.trimExcess w text) =
      Text.trimExcess w text ++ List.replicate n ' ' := ⟨_, placeLine_left w _⟩
  have hshape : ' ' :: placeLine .left w (Text.trimExcess w text) ++ [' '] =
      ' ' :: Text.trimExcess w text ++ List.replicate (n + 1) ' ' := by
    rw [hn, List.replicate_succ']
    simp
  obtain ⟨blanks, hblanks, hblank⟩ := Text.trimExcess_append w text
  by_cases hcells : ∀ c ∈ text, Text.takesNoCell c = false
  · rw [Text.trimExcess_eq_self h hcells] at hshape ⊢
    exact ⟨text, [], n, (List.append_nil text).symm, hshape, Or.inl rfl⟩
  · push Not at hcells
    obtain ⟨c, hc, hnocell⟩ := hcells
    refine ⟨_, blanks, n, hblanks, hshape, Or.inr ⟨hblank, c, hc, ?_⟩⟩
    simpa using hnocell

/-- A row of lines in left-aligned columns shows its texts. -/
theorem rowShows_rowLine (edge : Char) {columns : List Column}
    (hleft : ∀ c ∈ columns, c.alignment = .left) {widths : List Nat} {row : List (List Char)}
    (hlen : widths.length = columns.length) (hrow : ∀ cell ∈ row, Text.IsOneLine cell)
    (hfits : List.Forall₂ (fun w cell => naturalWidth cell ≤ w) widths row) :
    RowShows edge
      (rowLine edge (columns.zip widths) (List.zipWith Text.trimExcess widths row)) row := by
  refine ⟨_, ?_, rfl⟩
  induction hfits generalizing columns with
  | nil => simp
  | @cons w cell widths row hw hfits ih =>
      cases columns with
      | nil => cases hlen
      | cons c columns =>
          obtain ⟨hcell, hcells⟩ := List.forall_mem_cons.mp hrow
          obtain ⟨hc, hleft⟩ := List.forall_mem_cons.mp hleft
          refine .cons ?_ (ih hleft (Nat.succ.inj hlen) hcells)
          rw [naturalWidth_of_isOneLine hcell] at hw
          dsimp only
          rw [hc]
          exact cellShows_placeLine hw

/-- A text is a ruled table between two empty lines whose rows show the given texts, a line for
    each. -/
def TableShows (title : String) (columns : List Column) (text : List Char)
    (rows : List (List (List Char))) : Prop :=
  ∃ widths headers lines,
    text = '\n' :: Text.unlines (titleLine title widths :: topRule.draw widths :: headers ::
      headRule.draw widths :: lines ++ [bottomRule.draw widths]) ++ ['\n'] ∧
    RowShows '┃' headers (columns.map fun c => c.header.toList) ∧
    List.Forall₂ (RowShows '│') lines rows

/-- A table of left-aligned lines shows the texts of its cells. -/
theorem tableShows_ruledLines (title : String) {columns : List Column} (hne : columns ≠ [])
    (hleft : ∀ c ∈ columns, c.alignment = .left)
    (hheaders : ∀ c ∈ columns, Text.IsOneLine c.header.toList) {rows : List (List (List Char))}
    (hlen : ∀ row ∈ rows, row.length = columns.length)
    (hcells : ∀ row ∈ rows, ∀ cell ∈ row, Text.IsOneLine cell) :
    TableShows title columns
      ('\n' :: Text.unlines (ruledLines title columns (byColumn columns rows) rows.length) ++
        ['\n']) rows := by
  have hwidths := length_columnWidths columns rows
  have htop := rowShows_rowLine '┃' hleft hwidths (List.forall_mem_map.mpr hheaders)
    (forall₂_columnWidths_headers columns rows)
  have hrows : List.Forall₂ (RowShows '│')
      (rows.map fun row => rowLine '│' (columns.zip (columnWidths columns rows))
        (List.zipWith Text.trimExcess (columnWidths columns rows) row)) rows := by
    rw [List.forall₂_map_left_iff, List.forall₂_same]
    intro row hrow
    exact rowShows_rowLine '│' hleft hwidths (hcells row hrow)
      (forall₂_columnWidths hrow (hlen row hrow))
  refine ⟨columnWidths columns rows, _, _, ?_, htop, hrows⟩
  rw [ruledLines_of_isOneLine title hne hheaders hlen hcells]

/-! ## What a row reads -/

/-- A cell holds a text between spaces. -/
def CellReads (cell text : List Char) : Prop :=
  ∃ m n, cell = List.replicate (m + 1) ' ' ++ text ++ List.replicate (n + 1) ' '

/-- A line holds texts in cells between vertical lines. -/
def RowReads (line : List Char) (texts : List (List Char)) : Prop :=
  ∃ cells, List.Forall₂ CellReads cells texts ∧
    line = '│' :: Text.joinWith ['│'] cells ++ ['│']

theorem placeLine_of_trimmed {line : List Char} (h : Text.trimEnd line = line)
    (alignment : Text.Alignment) (w : Nat) :
    ∃ m n, placeLine alignment w line =
      List.replicate m ' ' ++ line ++ List.replicate n ' ' := by
  have hplaced : placeLine alignment w line =
      Text.place alignment ' ' (Text.width line) w line ++
        List.replicate (w - Text.width (Text.place alignment ' ' (Text.width line) w line))
          ' ' := by
    cases alignment with
    | left => rfl
    | right => simp only [placeLine, h]
    | centre => simp only [placeLine, h]
  have hjoin : ∀ m n k : Nat,
      List.replicate m ' ' ++ line ++ List.replicate n ' ' ++ List.replicate k ' ' =
        List.replicate m ' ' ++ line ++ List.replicate (n + k) ' ' := by
    intro m n k
    rw [List.replicate_add, ← List.append_assoc]
  exact ⟨_, _, hplaced.trans (hjoin _ _ _)⟩

/-- A text is shown in a table as it is. -/
structure IsCell (text : List Char) : Prop where
  oneLine : Text.IsOneLine text
  cells : ∀ c ∈ text, Text.takesNoCell c = false
  trimmed : Text.trimEnd text = text

theorem cellReads_placeLine {w : Nat} {text : List Char} (ht : IsCell text)
    (hw : naturalWidth text ≤ w) (alignment : Text.Alignment) :
    CellReads (' ' :: placeLine alignment w (Text.trimExcess w text) ++ [' ']) text := by
  rw [naturalWidth_of_isOneLine ht.oneLine] at hw
  rw [Text.trimExcess_eq_self hw ht.cells]
  obtain ⟨m, n, hplaced⟩ := placeLine_of_trimmed ht.trimmed alignment w
  refine ⟨m, n, ?_⟩
  rw [hplaced, List.replicate_succ, List.replicate_succ']
  simp

theorem rowReads_rowLine {columns : List Column} {widths : List Nat} {row : List (List Char)}
    (hlen : widths.length = columns.length) (hrow : ∀ cell ∈ row, IsCell cell)
    (hfits : List.Forall₂ (fun w cell => naturalWidth cell ≤ w) widths row) :
    RowReads (rowLine '│' (columns.zip widths) (List.zipWith Text.trimExcess widths row)) row := by
  refine ⟨_, ?_, rfl⟩
  induction hfits generalizing columns with
  | nil => simp
  | @cons w cell widths row hw hfits ih =>
      cases columns with
      | nil => cases hlen
      | cons c columns =>
          obtain ⟨hcell, hcells⟩ := List.forall_mem_cons.mp hrow
          exact .cons (cellReads_placeLine hcell hw c.alignment) (ih (Nat.succ.inj hlen) hcells)

/-! ## Marks in a table -/

section Marks

open Markup (isMark)

theorem filter_joinWith {p : Char → Bool} {edge : Char} (h : p edge = false)
    (parts : List (List Char)) :
    (Text.joinWith [edge] parts).filter p = parts.flatten.filter p := by
  induction parts with
  | nil => rfl
  | cons part parts ih =>
      cases parts with
      | nil => simp [Text.joinWith]
      | cons other parts =>
          rw [Text.joinWith, List.filter_append, List.filter_append, ih, List.flatten_cons,
            List.filter_append]
          · simp [h]
          · exact List.cons_ne_nil other parts

theorem isMark_of_isBlank {c : Char} (h : Text.isBlank c = true) : isMark c = false := by
  cases hm : isMark c with
  | false => rfl
  | true =>
      have hc : c = '[' ∨ c = '\\' ∨ c = ':' := by simpa [isMark, or_assoc] using hm
      rcases hc with rfl | rfl | rfl <;> exact absurd h (by decide)

theorem filter_isMark_replicate {c : Char} (h : isMark c = false) (n : Nat) :
    (List.replicate n c).filter isMark = [] := by
  rw [List.filter_replicate, if_neg (by simp [h])]

theorem filter_isMark_of_cellShows {cell text : List Char} (h : CellShows cell text) :
    cell.filter isMark = text.filter isMark := by
  obtain ⟨kept, blanks, n, rfl, rfl, hblanks⟩ := h
  have hnone : blanks.filter isMark = [] := by
    rcases hblanks with rfl | ⟨hblank, -⟩
    · rfl
    · rw [List.filter_eq_nil_iff]
      intro c hc
      simp [isMark_of_isBlank (hblank c hc)]
  have hspace : isMark ' ' = false := by decide
  rw [List.filter_append, List.filter_append, filter_isMark_replicate hspace, hnone,
    List.filter_cons_of_neg (by decide)]

theorem filter_isMark_of_rowShows {edge : Char} (hedge : isMark edge = false) {line : List Char}
    {texts : List (List Char)} (h : RowShows edge line texts) :
    line.filter isMark = texts.flatten.filter isMark := by
  obtain ⟨cells, hcells, rfl⟩ := h
  have hflat : cells.flatten.filter isMark = texts.flatten.filter isMark := by
    induction hcells with
    | nil => rfl
    | cons hcell hrest ih =>
        rw [List.flatten_cons, List.flatten_cons, List.filter_append, List.filter_append, ih,
          filter_isMark_of_cellShows hcell]
  have hend : [edge].filter isMark = [] := filter_isMark_replicate hedge 1
  rw [List.filter_append, List.filter_cons_of_neg (by simp [hedge]), hend, filter_joinWith hedge,
    hflat, List.append_nil]

theorem mem_place {alignment : Text.Alignment} {fill : Char} {size least : Nat} {s : List Char}
    {c : Char} (h : c ∈ Text.place alignment fill size least s) : c = fill ∨ c ∈ s := by
  simp only [Text.place, List.mem_append, List.mem_replicate] at h
  rcases h with (⟨-, rfl⟩ | hs) | ⟨-, rfl⟩
  · exact Or.inl rfl
  · exact Or.inr hs
  · exact Or.inl rfl

theorem mem_titleLine {title : String} {widths : List Nat} {c : Char}
    (h : c ∈ titleLine title widths) : c = ' ' ∨ c ∈ title.toList := by
  simp only [titleLine, placeLine, List.mem_append, List.mem_replicate] at h
  rcases h with hplaced | ⟨-, rfl⟩
  · rcases mem_place hplaced with rfl | hc
    · exact Or.inl rfl
    · exact Or.inr ((Text.trimEnd_isPrefix _).subset hc)
  · exact Or.inl rfl

theorem filter_isMark_draw {r : Rule}
    (h : ∀ c ∈ [r.left, r.line, r.cross, r.right], isMark c = false) (widths : List Nat) :
    (r.draw widths).filter isMark = [] := by
  have hlines : (widths.map fun w => List.replicate (w + 2) r.line).flatten.filter isMark = [] := by
    rw [List.filter_eq_nil_iff]
    intro c hc
    obtain ⟨line, hline, hmem⟩ := List.mem_flatten.mp hc
    obtain ⟨w, -, rfl⟩ := List.mem_map.mp hline
    rw [List.eq_of_mem_replicate hmem, h r.line (by simp)]
    exact Bool.false_ne_true
  have hright : [r.right].filter isMark = [] := filter_isMark_replicate (h r.right (by simp)) 1
  rw [Rule.draw, List.filter_append, List.filter_cons_of_neg (by simp [h r.left]), hright,
    filter_joinWith (h r.cross (by simp)), hlines, List.append_nil]

theorem filter_isMark_unlines (lines : List (List Char)) :
    (Text.unlines lines).filter isMark = lines.flatten.filter isMark := by
  induction lines with
  | nil => rfl
  | cons line lines ih =>
      rw [Text.unlines, List.flatMap_cons, ← Text.unlines, List.filter_append, ih,
        List.flatten_cons, List.filter_append, List.filter_append]
      exact congrArg (· ++ _) (List.append_nil _)

/-- The rules of a table, and a title and headers without marks, add none to those of the cells. -/
theorem filter_isMark_of_tableShows {title : String} {columns : List Column} {text : List Char}
    {rows : List (List (List Char))} (h : TableShows title columns text rows)
    (htitle : title.toList.filter isMark = [])
    (hheaders : (columns.map fun c => c.header.toList).flatten.filter isMark = []) :
    text.filter isMark = rows.flatten.flatten.filter isMark := by
  obtain ⟨widths, headers, lines, rfl, hhead, hlines⟩ := h
  have htitle : (titleLine title widths).filter isMark = [] := by
    rw [List.filter_eq_nil_iff] at htitle ⊢
    intro c hc
    rcases mem_titleLine hc with rfl | hc
    · decide
    · exact htitle c hc
  have hhead : headers.filter isMark = [] :=
    (filter_isMark_of_rowShows (by decide) hhead).trans hheaders
  have hrows : lines.flatten.filter isMark = rows.flatten.flatten.filter isMark := by
    induction hlines with
    | nil => rfl
    | cons hline hrest ih =>
        rw [List.flatten_cons, List.flatten_cons, List.flatten_append, List.filter_append,
          List.filter_append, ih, filter_isMark_of_rowShows (by decide) hline]
  have htop := filter_isMark_draw (r := topRule) (by simp [topRule, isMark]) widths
  have hunder := filter_isMark_draw (r := headRule) (by simp [headRule, isMark]) widths
  have hbottom := filter_isMark_draw (r := bottomRule) (by simp [bottomRule, isMark]) widths
  have hfeed : ∀ s : List Char, ('\n' :: s ++ ['\n']).filter isMark = s.filter isMark := by
    intro s
    rw [List.filter_append, List.filter_cons_of_neg (by decide)]
    exact List.append_nil _
  rw [hfeed, filter_isMark_unlines]
  simp only [List.cons_append, List.flatten_cons, List.flatten_append, List.flatten_nil,
    List.filter_append, htitle, htop, hhead, hunder, hrows, hbottom, List.nil_append,
    List.append_nil]

end Marks

end NamedConstants.Table
