import NamedConstants.Proofs.Table.Alignment
import NamedConstants.Proofs.TableListing

/-!
# The alignment of ruled listings

A ruled listing of texts without brackets is a table with a line for each entry of its selection,
whose columns are as wide as what stands in them (`aligned_listing`).  In place of a text with codes
it shows the pictographs that they name.  It is not quite aligned, nor complete: a text loses blank
characters at its end if it has more characters than its column has cells, and a joiner at the end
of a text that fills its column takes in the space behind it (`ruled_listing_not_aligned`).
-/

namespace NamedConstants

/-- All fields of an entry are lines of text without opening brackets. -/
inductive Entry.IsPlain : Entry → Prop where
  | texts {group name value : String} (hgroup : Text.IsOneLine group.toList ∧ '[' ∉ group.toList)
      (hname : Text.IsOneLine name.toList ∧ '[' ∉ name.toList)
      (hvalue : Text.IsOneLine value.toList ∧ '[' ∉ value.toList) :
      IsPlain ⟨.text group, .text name, .text value⟩

namespace Listing

section Plain

variable {e : Entry}

theorem cells_of_isPlain (h : e.IsPlain) : cells e = (texts e).map Value.text := by
  obtain ⟨-, -, -⟩ := h
  rfl

theorem isOneLine_of_isPlain (h : e.IsPlain) :
    ∀ s ∈ texts e, Text.IsOneLine s.toList ∧ '[' ∉ s.toList := by
  obtain ⟨hgroup, hname, hvalue⟩ := h
  simp only [texts, cells, List.map_cons, List.map_nil, Value.display, List.forall_mem_cons]
  exact ⟨hgroup, hname, hvalue, List.forall_mem_nil _⟩

end Plain

/-- The rows of a listing of texts without brackets as a table holds them. -/
def shownRows (p : Markup.Pictographs) (rows : List (List String)) : List (List (List Char)) :=
  rows.map fun row => row.map fun s => p.replace s.toList

/-- Rows are shown as they are if and only if no code in them names a pictograph. -/
theorem shownRows_eq_self_iff (p : Markup.Pictographs) (rows : List (List String)) :
    shownRows p rows = rows.map (fun row => row.map String.toList) ↔
      ∀ row ∈ rows, ∀ s ∈ row, p.KnowsNone (Markup.codes s.toList) := by
  rw [shownRows, List.map_inj_left]
  refine forall₂_congr fun row _ => ?_
  rw [List.map_inj_left]
  exact forall₂_congr fun s _ => p.replace_eq_self_iff s.toList

section ShownRows

variable {host : Host} {groups : List Group}

/-- Texts without brackets render to what they are shown as. -/
theorem forall₂_shownRows (d : Markup.Dialect)
    (hplain : ∀ e ∈ groups.flatMap Group.entries, e.IsPlain) :
    List.Forall₂ (List.Forall₂ fun s cell => Console.renderMarkup d s = .ok cell ∧
      Text.IsOneLine cell) (rows groups) (shownRows d.pictographs (rows groups)) := by
  rw [shownRows, List.forall₂_map_right_iff, List.forall₂_same]
  intro row hrow
  obtain ⟨e, he, rfl⟩ := List.mem_map.mp hrow
  rw [List.forall₂_map_right_iff, List.forall₂_same]
  intro s hs
  obtain ⟨hline, hbracket⟩ := isOneLine_of_isPlain (hplain e he) s hs
  have hrender := Markup.render_of_isVerbatim d (Markup.isVerbatim_of_not_mem hbracket)
  exact ⟨Console.renderMarkup_of_isOneLine hline hrender, Console.isOneLine_of_render hline hrender⟩

/-- A ruled listing of texts without brackets writes the lines of a table of them. -/
theorem list_ruledLines (hhost : host.renderer = true) {r : Registry} {selection : Option Value}
    (hsel : r.select selection = .ok groups)
    (hplain : ∀ e ∈ groups.flatMap Group.entries, e.IsPlain) :
    list host r selection false =
      ⟨"", String.ofList ('\n' :: Text.unlines (Table.ruledLines title columns
        (Table.byColumn columns (shownRows host.dialect.pictographs (rows groups)))
          (rows groups).length) ++ ['\n']),
        .done 0⟩ := by
  have hcells : (groups.flatMap Group.entries).map cells =
      (rows groups).map fun row => row.map Value.text := by
    rw [rows, List.map_map]
    exact List.map_congr_left fun e he => cells_of_isPlain (hplain e he)
  have hsources := Table.tableSources_texts (rows groups)
  have hcolumns : Table.renderColumns host.dialect columns (rows groups) =
      .ok (Table.byColumn columns (shownRows host.dialect.pictographs (rows groups))) := by
    apply Table.renderColumns_of_forall₂
    apply (forall₂_shownRows host.dialect hplain).imp
    intro row shown hrow
    exact hrow.imp fun s cell hs => hs.1
  have hrun := Table.printRuled_of_ok host title hsources hcolumns
  rw [list_table host hsel, printTable, if_pos hhost, printRuled, hcells, hrun, Run.err_bind,
    List.length_map]
  simp [Run.pure]

end ShownRows

/-- A run returns after it has written one ruled table of the given rows between two empty lines,
    and nothing else. -/
def WritesAligned (run : Run Int) (rows : List (List (List Char))) : Prop :=
  ∃ widths headers lines, run = ⟨"", String.ofList ('\n' :: Text.unlines
      (Table.titleLine title widths :: Table.topRule.draw widths :: headers ::
        Table.headRule.draw widths :: lines ++ [Table.bottomRule.draw widths]) ++ ['\n']),
      .done 0⟩ ∧
    Table.Aligned title columns rows widths headers lines

/-- A ruled listing of texts without brackets, of all groups or of a group that is registered,
    returns with the table of their entries.  Their texts stand in it as they are if and only if no
    code in them names a pictograph. -/
theorem aligned_listing {classes : List GroupClass} {r : Registry}
    (h : Registry.ofClasses classes = .ok r) {selection : Option Value}
    (hregistered : ∀ name, selection = some name → ∃ g ∈ r.groups, g.name.same name = true)
    (hplain : ∀ g ∈ r.groups, g.IsSelected selection → ∀ e ∈ g.entries, e.IsPlain) {host : Host}
    (hhost : host.renderer = true) :
    ∃ entries, r.entries selection = .ok entries ∧
      WritesAligned (list host r selection false)
        (shownRows host.dialect.pictographs (entries.map texts)) ∧
      (shownRows host.dialect.pictographs (entries.map texts) =
          (entries.map texts).map (fun row => row.map String.toList) ↔
        ∀ row ∈ entries.map texts, ∀ s ∈ row,
          host.dialect.pictographs.KnowsNone (Markup.codes s.toList)) := by
  obtain ⟨groups, hsel⟩ := Registry.exists_select h hregistered
  have hentries := Registry.forall_entries_of_select h hplain hsel
  have hshown := forall₂_shownRows host.dialect hentries
  have hlen : ∀ row ∈ shownRows host.dialect.pictographs (rows groups),
      row.length = columns.length := by
    refine List.forall_mem_map.mpr fun row hrow => ?_
    rw [List.length_map]
    exact length_of_mem_rows hrow
  have hlines : ∀ row ∈ shownRows host.dialect.pictographs (rows groups),
      ∀ cell ∈ row, Text.IsOneLine cell := by
    refine forall_mem_of_forall₂ hshown fun row _ cells hcells => ?_
    exact forall_mem_of_forall₂ hcells fun s _ cell hcell => hcell.2
  have htitle : ∀ c ∈ title.toList, Text.standsAlone c = true :=
    List.all_eq_true.mp (by decide +kernel)
  have hroom : ∃ c ∈ columns, title.toList.length ≤ c.least := by decide
  obtain ⟨widths, headers, lines, haligned, htable⟩ :=
    Table.aligned_ruledLines htitle (by decide) hroom (by decide) hlen hlines
  refine ⟨_, Registry.entries_of_select hsel, ⟨widths, headers, lines, ?_, haligned⟩,
    shownRows_eq_self_iff _ _⟩
  rw [← htable, shownRows, List.length_map]
  exact list_ruledLines hhost hsel hentries

/-- A class with wide characters, with characters of no width and with a joiner. -/
def mixedWidths : GroupClass where
  name := "日本"
  base := .text
  doc := none
  declared := [("x", .text "e\u0301\u0301\u0301\u0301 "), ("名", .text "ABCDE\u200d"),
    ("code", .text ":Smile:")]
  assigned := []
  distinct := by decide

/-- Its table holds a text that loses nothing but a space, one that overlaps an edge, and a
    pictograph. -/
theorem aligned_listing_mixedWidths :
    ∃ r, Registry.ofClasses [mixedWidths] = .ok r ∧
      (∃ g ∈ r.groups, g.name.same (.text "日本") = true) ∧
      (∀ g ∈ r.groups, ∀ e ∈ g.entries, e.IsPlain) ∧
      WritesAligned (list .standard r (some (.text "日本")) false)
        [["日本".toList, "x".toList, "e\u0301\u0301\u0301\u0301 ".toList],
          ["日本".toList, "名".toList, "ABCDE\u200d".toList],
          ["日本".toList, "code".toList, "😄".toList]] := by
  obtain ⟨r, hr⟩ : ∃ r, Registry.ofClasses [mixedWidths] = .ok r :=
    ⟨⟨[Group.ofClass mixedWidths], List.pairwise_singleton ..⟩, rfl⟩
  have hgroups : r.groups = [Group.ofClass mixedWidths] := Registry.groups_of_ofClasses hr
  have hmem : Group.ofClass mixedWidths ∈ r.groups := by
    rw [hgroups]
    exact List.mem_singleton_self _
  have hname : (Group.ofClass mixedWidths).name.same (.text "日本") = true := by decide
  have hplain : ∀ g ∈ r.groups, ∀ e ∈ g.entries, e.IsPlain := by
    rw [hgroups]
    intro g hg e he
    rw [List.mem_singleton.mp hg] at he
    have hentries : (Group.ofClass mixedWidths).entries =
        [⟨.text "日本", .text "x", .text "e\u0301\u0301\u0301\u0301 "⟩,
          ⟨.text "日本", .text "名", .text "ABCDE\u200d"⟩,
          ⟨.text "日本", .text "code", .text ":Smile:"⟩] := rfl
    rw [hentries] at he
    simp only [List.mem_cons, List.not_mem_nil, or_false] at he
    rcases he with rfl | rfl | rfl
    · exact .texts (by decide) (by decide) (by decide)
    · exact .texts (by decide) (by decide) (by decide)
    · exact .texts (by decide) (by decide) (by decide)
  have hregistered : ∀ name, some (Value.text "日本") = some name →
      ∃ g ∈ r.groups, g.name.same name = true := by
    rintro _ ⟨⟩
    exact ⟨_, hmem, hname⟩
  have hhost : Host.standard.renderer = true := rfl
  obtain ⟨entries, hentries, hwritten, -⟩ :=
    aligned_listing hr hregistered (fun g hg _ => hplain g hg) hhost
  have hfound := Registry.select_of_find? (Registry.find?_of_same hr hmem hname)
  rw [Registry.entries_of_select hfound] at hentries
  rw [← Except.ok.inj hentries] at hwritten
  have hshown : shownRows Host.standard.dialect.pictographs
      (([Group.ofClass mixedWidths].flatMap Group.entries).map texts) =
      [["日本".toList, "x".toList, "e\u0301\u0301\u0301\u0301 ".toList],
        ["日本".toList, "名".toList, "ABCDE\u200d".toList],
        ["日本".toList, "code".toList, "😄".toList]] := by
    decide +kernel
  rw [hshown] at hwritten
  exact ⟨r, hr, ⟨_, hmem, hname⟩, hplain, hwritten⟩

/-- The text that a ruled listing of one value writes. -/
def singleTable (s : String) : List Char :=
  '\n' :: Text.unlines (Table.ruledLines title columns
    (Table.byColumn columns (shownRows Host.somePictographs [["G", "x", s]])) 1) ++ ['\n']

theorem list_single {s : String} (hline : Text.IsOneLine s.toList) (hbracket : '[' ∉ s.toList) :
    ∃ r, Registry.ofClasses [single s] = .ok r ∧ (∀ g ∈ r.groups, ∀ e ∈ g.entries, e.IsPlain) ∧
      list .standard r none false = ⟨"", String.ofList (singleTable s), .done 0⟩ := by
  have hname : ∀ t ∈ ["G", "x"], Text.IsOneLine t.toList ∧ '[' ∉ t.toList := by decide
  have hplain : ∀ e ∈ (ofSingle s).groups.flatMap Group.entries, e.IsPlain := by
    intro e he
    rw [List.mem_singleton.mp he]
    exact .texts (hname "G" (by simp)) (hname "x" (by simp)) ⟨hline, hbracket⟩
  have hhost : Host.standard.renderer = true := rfl
  have hsel : (ofSingle s).select none = .ok (ofSingle s).groups := rfl
  have hrun := list_ruledLines hhost hsel hplain
  exact ⟨ofSingle s, rfl, fun g hg e he => hplain e (List.mem_flatMap.mpr ⟨g, hg, he⟩), hrun⟩

/-- A ruled listing loses a no-break space behind a text with more characters than its column
    has cells.  The line of a text that fills its column up to a joiner is too short. -/
theorem ruled_listing_not_aligned :
    (∃ r, Registry.ofClasses [single "e\u0301\u0301\u0301\u0301\u00a0"] = .ok r ∧
      (∀ g ∈ r.groups, ∀ e ∈ g.entries, e.IsPlain) ∧
      ∃ text, list .standard r none false = ⟨"", String.ofList text, .done 0⟩ ∧
        ¬"e\u0301\u0301\u0301\u0301\u00a0".toList <:+: text) ∧
    ∃ r, Registry.ofClasses [single "ABCDE\u200d"] = .ok r ∧
      (∀ g ∈ r.groups, ∀ e ∈ g.entries, e.IsPlain) ∧
      ∃ text, list .standard r none false = ⟨"", String.ofList text, .done 0⟩ ∧
        (Text.splitAtChar '\n' text).map Text.width = [0, 47, 47, 47, 47, 46, 47, 0, 0] := by
  constructor
  · obtain ⟨r, hr, hplain, hrun⟩ :=
      list_single (s := "e\u0301\u0301\u0301\u0301\u00a0") (by decide) (by decide)
    refine ⟨r, hr, hplain, _, hrun, ?_⟩
    have hlost : '\u00a0' ∉ singleTable "e\u0301\u0301\u0301\u0301\u00a0" := by decide +kernel
    exact fun hstands => hlost (hstands.subset (by decide))
  · obtain ⟨r, hr, hplain, hrun⟩ := list_single (s := "ABCDE\u200d") (by decide) (by decide)
    exact ⟨r, hr, hplain, _, hrun, by decide +kernel⟩

end Listing

end NamedConstants
