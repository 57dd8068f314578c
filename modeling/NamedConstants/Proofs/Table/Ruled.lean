import NamedConstants.Proofs.Related
import NamedConstants.Proofs.Table.Shown

/-!
# Writing ruled tables

A ruled table is written whole if all its cells render (`printRuled_of_ok`), and not at all if one
does not (`printRuled_of_fault`).
-/

namespace NamedConstants.Table

variable {d : Markup.Dialect}

theorem rowSources_texts (row : List String) : rowSources (row.map Value.text) = .ok row := by
  induction row with
  | nil => rfl
  | cons s row ih =>
      rw [List.map_cons, rowSources, ih]
      rfl

theorem tableSources_texts (rows : List (List String)) :
    tableSources (rows.map fun row => row.map Value.text) = .ok rows := by
  induction rows with
  | nil => rfl
  | cons row rows ih =>
      rw [List.map_cons, tableSources, rowSources_texts, ih]
      rfl

theorem renderCells_of_forall₂ {sources : List String} {cells : List (List Char)}
    (h : List.Forall₂ (fun s cell => Console.renderMarkup d s = .ok cell) sources cells) :
    renderCells d sources = .ok cells := by
  induction h with
  | nil => rfl
  | cons hs hrest ih =>
      rw [renderCells, hs, ih]
      rfl

/-- Rows of cells that render are rendered column by column. -/
theorem renderColumns_of_forall₂ {columns : List Column} {sources : List (List String)}
    {rows : List (List (List Char))}
    (h : List.Forall₂ (List.Forall₂ fun s cell => Console.renderMarkup d s = .ok cell)
      sources rows) :
    renderColumns d columns sources = .ok (byColumn columns rows) := by
  induction columns generalizing sources rows with
  | nil => rfl
  | cons c columns ih =>
      have hempty : Console.renderMarkup d "" = .ok [] :=
        Console.renderMarkup_of_not_mem d List.not_mem_nil
      have hheads : List.Forall₂ (fun s cell => Console.renderMarkup d s = .ok cell)
          (sources.map fun row => row.headD "") (rows.map fun row => row.headD []) := by
        rw [List.forall₂_map_left_iff, List.forall₂_map_right_iff]
        apply h.imp
        intro sources row hrow
        cases hrow with
        | nil => exact hempty
        | cons hs _ => exact hs
      have htails : List.Forall₂ (List.Forall₂ fun s cell => Console.renderMarkup d s = .ok cell)
          (sources.map List.tail) (rows.map List.tail) := by
        rw [List.forall₂_map_left_iff, List.forall₂_map_right_iff]
        apply h.imp
        intro sources row hrow
        cases hrow with
        | nil => exact .nil
        | cons _ hrest => exact hrest
      rw [renderColumns, renderCells_of_forall₂ hheads, ih htails, byColumn]
      rfl

/-- Cells are rendered one by one, up to the first that does not render. -/
theorem renderCells_cases (d : Markup.Dialect) (sources : List String) :
    (∃ cells, renderCells d sources = .ok cells) ∨
      ∃ fault, renderCells d sources = .error (.markup fault) := by
  induction sources with
  | nil => exact Or.inl ⟨[], rfl⟩
  | cons s sources ih =>
      rw [renderCells]
      cases hr : Markup.render d s.toList with
      | error fault =>
          rw [Console.renderMarkup_of_fault hr]
          exact Or.inr ⟨fault, rfl⟩
      | ok text =>
          rw [Console.renderMarkup_of_render hr]
          rcases ih with ⟨cells, hcells⟩ | ⟨fault, hfault⟩
          · rw [hcells]
            exact Or.inl ⟨_, rfl⟩
          · rw [hfault]
            exact Or.inr ⟨fault, rfl⟩

/-- If the columns of a table do not render, then because of the markup in a cell. -/
theorem renderColumns_cases (d : Markup.Dialect) (columns : List Column)
    (sources : List (List String)) :
    (∃ cells, renderColumns d columns sources = .ok cells) ∨
      ∃ fault, renderColumns d columns sources = .error (.markup fault) := by
  induction columns generalizing sources with
  | nil => exact Or.inl ⟨[], rfl⟩
  | cons c columns ih =>
      rw [renderColumns]
      rcases renderCells_cases d (sources.map fun row => row.headD "") with
        ⟨cells, hcells⟩ | ⟨fault, hfault⟩
      · rw [hcells]
        rcases ih (sources.map List.tail) with ⟨others, hothers⟩ | ⟨fault, hfault⟩
        · rw [hothers]
          exact Or.inl ⟨_, rfl⟩
        · rw [hfault]
          exact Or.inr ⟨fault, rfl⟩
      · rw [hfault]
        exact Or.inr ⟨fault, rfl⟩

theorem render_of_renderCells {sources : List String} {cells : List (List Char)}
    (h : renderCells d sources = .ok cells) {s : String} (hs : s ∈ sources) :
    ∃ text, Console.renderMarkup d s = .ok text := by
  induction sources generalizing cells with
  | nil => cases hs
  | cons first sources ih =>
      rw [renderCells] at h
      obtain ⟨text, hfirst, h⟩ := exists_of_bind_ok h
      obtain ⟨others, hothers, -⟩ := exists_of_bind_ok h
      rcases List.mem_cons.mp hs with rfl | hs
      · exact ⟨text, hfirst⟩
      · exact ih hothers hs

/-- If the columns of a table render, then so do all cells of its rows. -/
theorem render_of_renderColumns {columns : List Column} {sources : List (List String)}
    {cells : List (List (List Char))} (h : renderColumns d columns sources = .ok cells)
    {row : List String} (hrow : row ∈ sources) (hlen : row.length ≤ columns.length) {s : String}
    (hs : s ∈ row) : ∃ text, Console.renderMarkup d s = .ok text := by
  induction columns generalizing sources row cells with
  | nil =>
      rw [List.length_eq_zero_iff.mp (Nat.le_zero.mp hlen)] at hs
      cases hs
  | cons c columns ih =>
      rw [renderColumns] at h
      obtain ⟨heads, hheads, h⟩ := exists_of_bind_ok h
      obtain ⟨others, hothers, -⟩ := exists_of_bind_ok h
      cases row with
      | nil => cases hs
      | cons head row =>
          rcases List.mem_cons.mp hs with rfl | hs
          · exact render_of_renderCells hheads (List.mem_map.mpr ⟨_, hrow, rfl⟩)
          · exact ih hothers (List.mem_map.mpr ⟨_, hrow, rfl⟩) (Nat.le_of_succ_le_succ hlen) hs

/-- A table whose cells render is written between two empty lines. -/
theorem printRuled_of_ok (host : Host) (title : String) {columns : List Column}
    {rows : List (List Value)} {sources : List (List String)} {cells : List (List (List Char))}
    (hsources : tableSources rows = .ok sources)
    (hcells : renderColumns host.dialect columns sources = .ok cells) :
    printRuled host title columns rows =
      Run.err (String.ofList
        ('\n' :: Text.unlines (ruledLines title columns cells rows.length) ++ ['\n'])) := by
  have hlines : Run.each (fun line => Run.errLine (String.ofList line))
      (ruledLines title columns cells rows.length) =
      Run.err (String.ofList (Text.unlines (ruledLines title columns cells rows.length))) :=
    Run.each_err fun line _ => Run.errLine_ofList line
  unfold printRuled
  simp only [hsources, Run.bind_eq, Run.ofExcept_ok, Run.pure_bind, hcells, hlines,
    Console.print_nil, Run.err_bind_err]
  congr 1
  apply String.toList_inj.mp
  simp

/-- If a cell does not render, nothing but an empty line is written of a table. -/
theorem printRuled_of_fault (host : Host) (title : String) {columns : List Column}
    {rows : List (List Value)} {sources : List (List String)} {fault : Markup.Fault}
    (hsources : tableSources rows = .ok sources)
    (hfault : renderColumns host.dialect columns sources = .error (.markup fault)) :
    printRuled host title columns rows = ⟨"", "\n", .failed (.markup fault)⟩ := by
  unfold printRuled
  simp only [hsources, Run.bind_eq, Run.ofExcept_ok, Run.pure_bind, hfault, Console.print_nil,
    Run.ofExcept_error, Run.fail_bind, Run.err_bind]
  rfl

theorem render_of_renderMarkup {s : String} {cell : List Char}
    (h : Console.renderMarkup d s = .ok cell) : ∃ text, Markup.render d s.toList = .ok text := by
  cases hr : Markup.render d s.toList with
  | ok text => exact ⟨text, rfl⟩
  | error fault =>
      rw [Console.renderMarkup_of_fault hr] at h
      cases h

/-- A table of left-aligned lines shows what its cells render to.  If one of them does not
    render, then nothing but an empty line is written. -/
theorem printRuled_cases (host : Host) (title : String) {columns : List Column}
    (hne : columns ≠ []) (hleft : ∀ c ∈ columns, c.alignment = .left)
    (hheaders : ∀ c ∈ columns, Text.IsOneLine c.header.toList) {sources : List (List String)}
    (hlen : ∀ row ∈ sources, row.length = columns.length)
    (hlines : ∀ row ∈ sources, ∀ s ∈ row, Text.IsOneLine s.toList) :
    (∃ shown text,
      List.Forall₂ (List.Forall₂ fun s t => Markup.render host.dialect s.toList = .ok t)
          sources shown ∧
        printRuled host title columns (sources.map fun row => row.map Value.text) =
          Run.err (String.ofList text) ∧
        TableShows title columns text shown) ∨
      ∃ fault, printRuled host title columns (sources.map fun row => row.map Value.text) =
          ⟨"", "\n", .failed (.markup fault)⟩ ∧
        ∃ row ∈ sources, ∃ s ∈ row, ∀ t, Markup.render host.dialect s.toList ≠ .ok t := by
  have hsources := tableSources_texts sources
  by_cases hall : ∀ row ∈ sources, ∀ s ∈ row, ∃ t, Markup.render host.dialect s.toList = .ok t
  · left
    obtain ⟨shown, hshown⟩ := exists_forall₂ fun row hrow => exists_forall₂ (hall row hrow)
    have hcells : List.Forall₂
        (List.Forall₂ fun s t => Console.renderMarkup host.dialect s = .ok t) sources shown := by
      apply ((List.forall₂_and_left _ _).mpr ⟨hlines, hshown⟩).imp
      rintro row texts ⟨hrow, htexts⟩
      apply ((List.forall₂_and_left _ _).mpr ⟨hrow, htexts⟩).imp
      rintro s t ⟨hs, ht⟩
      exact Console.renderMarkup_of_isOneLine hs ht
    have hbroad : ∀ texts ∈ shown, texts.length = columns.length := by
      refine forall_mem_of_forall₂ hshown ?_
      intro row hrow texts htexts
      rw [← htexts.length_eq, hlen row hrow]
    have hthin : ∀ texts ∈ shown, ∀ t ∈ texts, Text.IsOneLine t := by
      refine forall_mem_of_forall₂ hshown ?_
      intro row hrow texts htexts
      refine forall_mem_of_forall₂ htexts ?_
      intro s hs t ht
      exact Console.isOneLine_of_render (hlines row hrow s hs) ht
    refine ⟨shown, _, hshown, ?_, tableShows_ruledLines title hne hleft hheaders hbroad hthin⟩
    rw [printRuled_of_ok host title hsources (renderColumns_of_forall₂ hcells), List.length_map,
      hshown.length_eq]
  · right
    push Not at hall
    obtain ⟨row, hrow, s, hs, hfault⟩ := hall
    rcases renderColumns_cases host.dialect columns sources with ⟨cells, hcells⟩ | ⟨fault, hcolumns⟩
    · obtain ⟨t, ht⟩ := render_of_renderColumns hcells hrow (Nat.le_of_eq (hlen row hrow)) hs
      obtain ⟨text, htext⟩ := render_of_renderMarkup ht
      exact absurd htext (hfault text)
    · exact ⟨fault, printRuled_of_fault host title hsources hcolumns, row, hrow, s, hs, hfault⟩

end NamedConstants.Table
