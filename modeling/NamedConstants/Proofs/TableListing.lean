import NamedConstants.Proofs.Listing
import NamedConstants.Proofs.Registry.Selection
import NamedConstants.Proofs.Table.Plain
import NamedConstants.Proofs.Table.Ruled
import NamedConstants.Registry.Validation

/-!
# Listings as tables

A table has a row for each entry of the selection, in order.  A plain listing shows the texts of
its entries as they are.  A ruled listing takes them for markup: it shows them if and only if they
hold neither tags nor codes of pictographs and no backslash in front of an opening bracket, and it
fails if one of them does not render (`table_listing`).
-/

namespace NamedConstants

namespace Listing

/-- The texts of the fields of an entry. -/
def texts (e : Entry) : List String :=
  (cells e).map Value.display

/-- The rows of a listing of groups. -/
def rows (groups : List Group) : List (List String) :=
  (groups.flatMap Group.entries).map texts

theorem length_of_mem_rows {groups : List Group} {row : List String} (h : row ∈ rows groups) :
    row.length = columns.length := by
  obtain ⟨e, -, rfl⟩ := List.mem_map.mp h
  rfl

theorem list_table (host : Host) {r : Registry} {selection : Option Value} {groups : List Group}
    (hsel : r.select selection = .ok groups) :
    list host r selection false =
      (printTable host (groups.flatMap Group.entries)).bind fun _ => Run.pure 0 := by
  simp [list, hsel]

/-- A plain listing shows its entries as they are. -/
theorem list_plain {host : Host} (hhost : host.renderer = false) {r : Registry}
    {selection : Option Value} {groups : List Group} (hsel : r.select selection = .ok groups)
    (htexts : ∀ e ∈ groups.flatMap Group.entries, ∀ v ∈ cells e, v.isText = true) :
    list host r selection false =
      ⟨"", String.ofList (Text.unlines
        (Table.plainLines title plainWidths (columns.map (·.header)) (rows groups))), .done 0⟩ := by
  have hrow : ∀ e ∈ groups.flatMap Group.entries,
      printPlainRow e = Run.errLine (Table.plainRow plainWidths (texts e)) := by
    intro e he
    rw [printPlainRow, Table.fieldTexts_of_isText (htexts e he)]
    simp [texts]
  have hplain := Table.plainTable_eq title plainWidths (columns.map (·.header)) hrow
  rw [list_table host hsel, printTable, if_neg (by simp [hhost]), printPlain, hplain, Run.err_bind]
  simp [Run.pure, rows]

/-- A run writes one ruled table to the standard error, which shows the given rows. -/
def ShowsRows (run : Run Int) (rows : List (List String)) : Prop :=
  ∃ text, run = ⟨"", String.ofList text, .done 0⟩ ∧
    Table.TableShows title columns text (rows.map fun row => row.map String.toList)

/-- A selection means groups whose entries are lines of text. -/
structure SelectsLines (r : Registry) (selection : Option Value) (groups : List Group) : Prop where
  select : r.select selection = .ok groups
  cells : (groups.flatMap Group.entries).map cells =
    (rows groups).map fun row => row.map Value.text
  lines : ∀ row ∈ rows groups, ∀ s ∈ row, Text.IsOneLine s.toList

section Ruled

variable {host : Host} {r : Registry} {selection : Option Value} {groups : List Group}

/-- A ruled listing shows what its texts render to, or fails because one does not render. -/
theorem list_ruled_cases (hhost : host.renderer = true) (h : SelectsLines r selection groups) :
    (∃ shown text,
      List.Forall₂ (List.Forall₂ fun s t => Markup.render host.dialect s.toList = .ok t)
          (rows groups) shown ∧
        list host r selection false = ⟨"", String.ofList text, .done 0⟩ ∧
        Table.TableShows title columns text shown) ∨
      ∃ fault, list host r selection false = ⟨"", "\n", .failed (.markup fault)⟩ ∧
        ∃ row ∈ rows groups, ∃ s ∈ row, ∀ t, Markup.render host.dialect s.toList ≠ .ok t := by
  have hne : columns ≠ [] := List.cons_ne_nil _ _
  have hcases := Table.printRuled_cases host title hne (by decide) (by decide)
    (fun row hrow => length_of_mem_rows hrow) h.lines
  rw [list_table host h.select, printTable, if_pos hhost, printRuled, h.cells]
  rcases hcases with ⟨shown, text, hshown, hrun, htable⟩ | ⟨fault, hrun, hnone⟩
  · left
    refine ⟨shown, text, hshown, ?_, htable⟩
    rw [hrun, Run.err_bind]
    simp [Run.pure]
  · right
    refine ⟨fault, ?_, hnone⟩
    rw [hrun]
    rfl

/-- What the texts of a ruled table render to holds all their marks only if markup shows each of
    them as it is. -/
theorem render_self_of_tableShows {d : Markup.Dialect} {sources : List (List String)}
    {shown : List (List (List Char))} {text : List Char}
    (hshown : List.Forall₂ (List.Forall₂ fun s t => Markup.render d s.toList = .ok t) sources shown)
    (htable : Table.TableShows title columns text shown)
    (hsources : Table.TableShows title columns text
      (sources.map fun row => row.map String.toList)) :
    ∀ row ∈ sources, ∀ s ∈ row, Markup.render d s.toList = .ok s.toList := by
  have hmarks :
      (sources.map fun row => row.map String.toList).flatten.flatten.filter Markup.isMark =
      shown.flatten.flatten.filter Markup.isMark := by
    rw [← Table.filter_isMark_of_tableShows htable (by decide) (by decide),
      ← Table.filter_isMark_of_tableShows hsources (by decide) (by decide)]
  have hflat : List.Forall₂ (fun s t => Markup.render d s = .ok t)
      (sources.map fun row => row.map String.toList).flatten shown.flatten := by
    apply List.rel_flatten
    rw [List.forall₂_map_left_iff]
    apply hshown.imp
    intro row texts htexts
    rwa [List.forall₂_map_left_iff]
  have hself := Markup.render_self_of_forall₂ hflat <| by
    rw [List.countP_eq_length_filter, List.countP_eq_length_filter, hmarks]
  intro row hrow s hs
  apply hself
  exact List.mem_flatten.mpr ⟨_, List.mem_map.mpr ⟨row, hrow, rfl⟩, List.mem_map.mpr ⟨s, hs, rfl⟩⟩

/-- If all its texts render, a ruled listing shows what they render to. -/
theorem showsRows_of_render (hhost : host.renderer = true) (h : SelectsLines r selection groups)
    {shown : List (List String)}
    (hshown : List.Forall₂
      (List.Forall₂ fun s t => Markup.render host.dialect s.toList = .ok t.toList)
      (rows groups) shown) :
    ShowsRows (list host r selection false) shown := by
  rcases list_ruled_cases hhost h with
    ⟨texts, text, htexts, hrun, htable⟩ | ⟨fault, -, row, hrow, s, hs, hnone⟩
  · have hunique : Relator.RightUnique fun (s : String) t =>
        Markup.render host.dialect s.toList = .ok t := by
      intro s t t' ht ht'
      exact Except.ok.inj (ht.symm.trans ht')
    have hself : List.Forall₂ (List.Forall₂ fun s t => Markup.render host.dialect s.toList = .ok t)
        (rows groups) (shown.map fun row => row.map String.toList) := by
      rw [List.forall₂_map_right_iff]
      apply hshown.imp
      intro row texts hrow
      rwa [List.forall₂_map_right_iff]
    rw [List.right_unique_forall₂' hunique.forall₂ htexts hself] at htable
    exact ⟨text, hrun, htable⟩
  · -- A text that does not render cannot stand in one of the rows.
    obtain ⟨texts, -, hrendered⟩ := exists_mem_of_forall₂ hshown hrow
    obtain ⟨t, -, ht⟩ := exists_mem_of_forall₂ hrendered hs
    exact absurd ht (hnone t.toList)

/-- A ruled listing shows its texts if and only if markup shows each of them as it is. -/
theorem showsRows_iff (hhost : host.renderer = true) (h : SelectsLines r selection groups) :
    ShowsRows (list host r selection false) (rows groups) ↔
      ∀ row ∈ rows groups, ∀ s ∈ row, Markup.render host.dialect s.toList = .ok s.toList := by
  constructor
  · rintro ⟨text, htext, hrows⟩
    rcases list_ruled_cases hhost h with
      ⟨shown, text', hshown, hrun, htable⟩ | ⟨fault, hrun, -⟩
    · rw [hrun] at htext
      obtain rfl : text' = text := String.ofList_inj.mp (congrArg Run.stderr htext)
      exact render_self_of_tableShows hshown htable hrows
    · have hending := congrArg Run.ending htext
      rw [hrun] at hending
      cases hending
  · intro hself
    apply showsRows_of_render hhost h
    rw [List.forall₂_same]
    intro row hrow
    rw [List.forall₂_same]
    exact hself row hrow

/-- A ruled listing returns if and only if all its texts render. -/
theorem list_ruled_returns_iff (hhost : host.renderer = true)
    (h : SelectsLines r selection groups) :
    (list host r selection false).ending = .done 0 ↔
      ∀ row ∈ rows groups, ∀ s ∈ row, ∃ t, Markup.render host.dialect s.toList = .ok t := by
  rcases list_ruled_cases hhost h with
    ⟨shown, text, hshown, hrun, -⟩ | ⟨fault, hrun, row, hrow, s, hs, hnone⟩
  · rw [hrun]
    refine iff_of_true rfl ?_
    intro row hrow s hs
    obtain ⟨texts, -, htexts⟩ := exists_mem_of_forall₂ hshown hrow
    obtain ⟨t, -, ht⟩ := exists_mem_of_forall₂ htexts hs
    exact ⟨t, ht⟩
  · rw [hrun]
    refine iff_of_false (fun h => by cases h) ?_
    intro hall
    obtain ⟨t, ht⟩ := hall row hrow s hs
    exact hnone t ht

end Ruled

/-- How the selection of some groups is listed. -/
structure TableListing (host : Host) (r : Registry) (selection : Option Value)
    (groups : List Group) : Prop where
  /-- With the renderer the texts are shown if and only if each is verbatim and no code in it
      names a pictograph. -/
  shown_iff : ShowsRows (list { host with renderer := true } r selection false) (rows groups) ↔
    ∀ row ∈ rows groups, ∀ s ∈ row, Markup.IsVerbatim s.toList ∧
      host.dialect.pictographs.KnowsNone (Markup.codes s.toList)
  /-- With the renderer the listing returns if and only if every text renders. -/
  returns_iff : (list { host with renderer := true } r selection false).ending = .done 0 ↔
    ∀ row ∈ rows groups, ∀ s ∈ row, ∃ t, Markup.render host.dialect s.toList = .ok t
  /-- Otherwise it fails because of the markup, having written an empty line. -/
  fails : (list { host with renderer := true } r selection false).ending ≠ .done 0 →
    ∃ fault, list { host with renderer := true } r selection false =
      ⟨"", "\n", .failed (.markup fault)⟩
  /-- Without the renderer the texts are always shown. -/
  plain : list { host with renderer := false } r selection false =
    ⟨"", String.ofList (Text.unlines
      (Table.plainLines title plainWidths (columns.map (·.header)) (rows groups))), .done 0⟩
  /-- The document always holds the texts. -/
  document : WritesDocument (list host r selection true) (payload groups)

/-- In a registry of classes whose values are texts, all fields of an entry are texts. -/
theorem cells_of_holdsTexts {classes : List GroupClass} {r : Registry}
    (h : Registry.ofClasses classes = .ok r) (htexts : ∀ g ∈ r.groups, g.HoldsTexts)
    {groups : List Group} (hsub : ∀ g ∈ groups, g ∈ r.groups) :
    ∀ e ∈ groups.flatMap Group.entries, cells e = (texts e).map Value.text := by
  intro e he
  obtain ⟨g, hg, he⟩ := List.mem_flatMap.mp he
  obtain ⟨c, -, rfl⟩ := Registry.exists_class_of_mem h (hsub g hg)
  obtain ⟨p, hp, rfl⟩ := List.mem_map.mp he
  obtain ⟨s, hs⟩ := htexts _ (hsub _ hg) p hp
  obtain ⟨m, -, rfl⟩ := List.mem_map.mp hp
  have hvalue : m.2.value = .text s := hs
  simp [cells, texts, hvalue, Group.ofClass, Value.display]

/-- A class whose texts hold brackets and backslashes that are no markup. -/
def bracketed : GroupClass where
  name := "Codes [1]"
  base := .text
  doc := none
  declared := [("open", .text "a[0"), ("path", .text "C:\\dir [A]"), ("close", .text "]")]
  assigned := []
  distinct := by decide

/-- A class with one text of the name `x`, in a group of the name `G`. -/
def single (s : String) : GroupClass where
  name := "G"
  base := .text
  doc := none
  declared := [("x", .text s)]
  assigned := []
  distinct := by simp

/-- The registry of that class. -/
def ofSingle (s : String) : Registry :=
  ⟨[Group.ofClass (single s)], List.pairwise_singleton ..⟩

/-- A sound registry has one entry, the given line of text. -/
structure IsSoundSingle (r : Registry) (s : String) : Prop where
  ofClasses : Registry.ofClasses [single s] = .ok r
  sound : r.problems = []
  holdsTexts : ∀ g ∈ r.groups, g.HoldsTexts
  rows_eq : rows r.groups = [["G", "x", s]]
  lines : ∀ row ∈ rows r.groups, ∀ s ∈ row, Text.IsOneLine s.toList

theorem isSoundSingle {s : String} (hsound : (ofSingle s).problems = [])
    (hline : Text.IsOneLine s.toList) : IsSoundSingle (ofSingle s) s := by
  have hnames : ∀ t ∈ ["G", "x"], Text.IsOneLine t.toList := by decide
  refine ⟨rfl, hsound, ?_, rfl, ?_⟩
  · intro g hg
    rw [List.mem_singleton.mp hg]
    exact Group.holdsTexts_ofClass rfl
  · intro row hrow t ht
    obtain rfl : row = ["G", "x", s] := List.mem_singleton.mp hrow
    simp only [List.mem_cons, List.not_mem_nil, or_false] at ht
    rcases ht with rfl | rfl | rfl
    · exact hnames _ (by simp)
    · exact hnames _ (by simp)
    · exact hline

theorem IsSoundSingle.selectsLines {r : Registry} {s : String} (h : IsSoundSingle r s) :
    SelectsLines r none r.groups := by
  refine ⟨rfl, ?_, h.lines⟩
  obtain rfl : ofSingle s = r := Except.ok.inj h.ofClasses
  rfl

/-- The entry is listed as what its text renders to. -/
theorem IsSoundSingle.showsRows {r : Registry} {s shown : String} (h : IsSoundSingle r s)
    (hs : Markup.render Host.standard.dialect s.toList = .ok shown.toList) :
    ShowsRows (list .standard r none false) [["G", "x", shown]] := by
  apply showsRows_of_render rfl h.selectsLines
  have hkept : ∀ t ∈ ["G", "x"], Markup.render Host.standard.dialect t.toList = .ok t.toList := by
    decide +kernel
  rw [h.rows_eq]
  exact .cons (.cons (hkept "G" (by simp)) (.cons (hkept "x" (by simp)) (.cons hs .nil))) .nil

/-- The entry is not listed as it is unless its text renders to itself. -/
theorem IsSoundSingle.not_showsRows {r : Registry} {s : String} (h : IsSoundSingle r s)
    (hs : Markup.render Host.standard.dialect s.toList ≠ .ok s.toList) :
    ¬ShowsRows (list .standard r none false) (rows r.groups) := by
  intro hshows
  apply hs
  refine (showsRows_iff rfl h.selectsLines).mp hshows ["G", "x", s] ?_ s (by simp)
  rw [h.rows_eq]
  exact List.mem_singleton_self _

end Listing

end NamedConstants
