import NamedConstants.Diagnostics
import NamedConstants.Proofs.Table.Plain
import NamedConstants.Proofs.Table.Ruled

/-!
# Diagnoses

A diagnosis never fails.  Its verdict is that everything is in order if and only if the
interpreter is recent and the registry has no problems, whatever else the host and the registry
are, and it is the same with the renderer and without (`diagnosis_exact`).
-/

namespace NamedConstants

namespace Diagnostics

/-! ## The verdict -/

/-- A release is recent if its first two numbers do not come before 3.10. -/
theorem isRecent_iff (release : List Int) :
    isRecent release = true ↔ ¬List.Lex (· < ·) (release.take 2) [3, 10] := by
  cases release with
  | nil => exact iff_of_false (by simp [isRecent]) fun h => h List.Lex.nil
  | cons major rest =>
      cases rest with
      | nil =>
          simp [isRecent, List.cons_lex_cons_iff]
          omega
      | cons minor rest =>
          simp [isRecent, List.cons_lex_cons_iff]
          omega

/-- Everything is in order: the interpreter is recent and the registry has no problems. -/
def InOrder (host : Host) (r : Registry) : Prop :=
  ¬List.Lex (· < ·) (host.release.take 2) [3, 10] ∧ r.problems = []

theorem mentions_status (host : Host) (r : Registry) (problems : List String) :
    ((checks host r problems).any fun c => mentions "FAIL" c.status) =
      !(isRecent host.release && problems.isEmpty) := by
  have hok : mentions "FAIL" okStatus = false := by decide
  have hwarn : mentions "FAIL" warnStatus = false := by decide
  have hfail : mentions "FAIL" failStatus = true := by decide
  have hold : mentions "FAIL" oldStatus = true := by decide
  have hrenderer : mentions "FAIL" (rendererCheck host).status = false := by
    unfold rendererCheck
    split
    · exact hok
    · exact hwarn
  have hinterpreter : mentions "FAIL" (interpreterCheck host).status = !isRecent host.release := by
    unfold interpreterCheck
    cases isRecent host.release with
    | true => exact hok
    | false => exact hold
  have hregistry : mentions "FAIL" (registryCheck r problems).status = !problems.isEmpty := by
    unfold registryCheck
    cases problems.isEmpty with
    | true => exact hok
    | false => exact hfail
  have hpackage : mentions "FAIL" packageCheck.status = false := hok
  simp only [checks, List.any_cons, List.any_nil, hpackage, hinterpreter, hrenderer, hregistry]
  cases isRecent host.release <;> cases problems.isEmpty <;> rfl

/-- The verdict is negative if and only if something is not in order. -/
theorem failed_eq_false_iff (host : Host) (r : Registry) :
    ((checks host r r.problems).any fun c => mentions "FAIL" c.status) = false ↔
      InOrder host r := by
  rw [mentions_status, InOrder, ← isRecent_iff, ← List.isEmpty_iff]
  simp

/-- The constants that are counted are the entries of the registry. -/
theorem constantCount_eq (r : Registry) :
    constantCount r = (r.groups.flatMap Group.entries).length := by
  have hcount : ∀ (groups : List Group) (total : Nat),
      groups.foldl (fun total g => total + g.size) total =
        total + (groups.flatMap Group.entries).length := by
    intro groups
    induction groups with
    | nil => simp
    | cons g groups ih =>
        intro total
        rw [List.foldl_cons, ih, List.flatMap_cons, List.length_append, Group.entries,
          List.length_map, Group.size]
        omega
  rw [constantCount, hcount, Nat.zero_add]

/-! ## The table -/

/-- Each digit has what the ten digits have. -/
theorem forall_digit {P : Char → Prop} (h : ∀ c ∈ "0123456789".toList, P c) (n : Nat) :
    ∀ c ∈ (toString n).toList, P c := by
  intro c hc
  rw [Nat.toString_eq_ofList_toDigits, String.toList_ofList] at hc
  have hdigit := Nat.isDigit_of_mem_toDigits (by decide) (by decide) hc
  obtain ⟨hlow, hhigh⟩ := Char.isDigit_iff_toNat.mp hdigit
  have hlow : 48 ≤ c.toNat := hlow
  have hhigh : c.toNat ≤ 57 := hhigh
  apply h
  rw [← Char.ofNat_toNat c]
  have hcodes : ∀ code ∈ List.range' 48 10, Char.ofNat code ∈ "0123456789".toList := by decide
  exact hcodes c.toNat (List.mem_range'_1.mpr ⟨by omega, by omega⟩)

/-- The texts of the row about a registry. -/
def registryRow (r : Registry) (problems : List String) : List String :=
  ["registry", toString r.size ++ " groups, " ++ toString (constantCount r) ++ " constants",
    if problems.isEmpty then "OK" else "FAIL"]

/-- A line of the table that a host can show holds the given texts. -/
def LineReads (host : Host) (line : List Char) (texts : List String) : Prop :=
  if host.renderer then Table.RowReads line (texts.map String.toList)
  else line = (Table.plainRow plainWidths texts).toList

theorem printPlain_eq (checks : List Check) :
    printPlain checks = Run.err (String.ofList (Text.unlines
      (Table.plainLines title plainWidths (columns.map (·.header))
        (checks.map fun c => [c.component, c.value, plainStatus c.status])))) :=
  Table.plainTable_eq title plainWidths _ fun _ _ => rfl

/-- The texts of a check as cells. -/
def cellsOf (c : Check) : List String :=
  [c.component, c.value, c.status]

/-- The version texts of a host hold no opening brackets. -/
structure HasBareVersions (host : Host) : Prop where
  interpreter : '[' ∉ host.interpreter.toList
  renderer : ∀ version, host.rendererVersion = some version → '[' ∉ version.toList

/-- A status is shown without its tags. -/
theorem renderMarkup_status (d : Markup.Dialect) {status shown : String}
    (h : (status, shown) ∈ [(okStatus, "OK"), (warnStatus, "WARN"), (failStatus, "FAIL"),
      (oldStatus, "FAIL (>=3.10 required)")]) :
    Console.renderMarkup d status = .ok shown.toList := by
  have hall : ∀ p ∈ [(okStatus, "OK"), (warnStatus, "WARN"), (failStatus, "FAIL"),
      (oldStatus, "FAIL (>=3.10 required)")],
      Text.IsOneLine p.1.toList ∧ Markup.IsWords p.2.toList ∧
        ∃ style ∈ ["green", "yellow", "red"], Markup.IsStyle style.toList ∧
          p.1.toList = Markup.styled style.toList p.2.toList := by
    decide +kernel
  obtain ⟨hline, hwords, style, -, hstyle, hstatus⟩ := hall _ h
  apply Console.renderMarkup_of_isOneLine hline
  rw [hstatus]
  exact Markup.render_styled d hstyle hwords

section Cells

variable {d : Markup.Dialect}

theorem exists_cell_of_bare {component value status : String} {shown : List Char}
    (hcomponent : '[' ∉ component.toList) (hvalue : '[' ∉ value.toList)
    (hstatus : Console.renderMarkup d status = .ok shown) :
    ∀ s ∈ cellsOf ⟨component, value, status⟩, ∃ cell, Console.renderMarkup d s = .ok cell := by
  intro s hs
  simp only [cellsOf, List.mem_cons, List.not_mem_nil, or_false] at hs
  rcases hs with rfl | rfl | rfl
  · exact ⟨_, Console.renderMarkup_of_not_mem d hcomponent⟩
  · exact ⟨_, Console.renderMarkup_of_not_mem d hvalue⟩
  · exact ⟨_, hstatus⟩

/-- All cells about the package, the interpreter and the renderer can be shown. -/
theorem exists_cell {host : Host} (h : HasBareVersions host) :
    ∀ c ∈ [packageCheck, interpreterCheck host, rendererCheck host], ∀ s ∈ cellsOf c,
      ∃ cell, Console.renderMarkup d s = .ok cell := by
  have hok : Console.renderMarkup d okStatus = .ok "OK".toList := renderMarkup_status d (by simp)
  have hwarn : Console.renderMarkup d warnStatus = .ok "WARN".toList :=
    renderMarkup_status d (by simp)
  have hold : Console.renderMarkup d oldStatus = .ok "FAIL (>=3.10 required)".toList :=
    renderMarkup_status d (by simp)
  have hversion : '[' ∉ (host.rendererVersion.getD "unknown").toList := by
    cases hv : host.rendererVersion with
    | none => exact (by decide : '[' ∉ "unknown".toList)
    | some version => exact h.renderer version hv
  have hinterpreter : ∀ s ∈ cellsOf (interpreterCheck host),
      ∃ cell, Console.renderMarkup d s = .ok cell := by
    unfold interpreterCheck
    by_cases hrecent : isRecent host.release = true
    · rw [if_pos hrecent]
      exact exists_cell_of_bare (by decide) h.interpreter hok
    · rw [if_neg hrecent]
      exact exists_cell_of_bare (by decide) h.interpreter hold
  have hrenderer : ∀ s ∈ cellsOf (rendererCheck host),
      ∃ cell, Console.renderMarkup d s = .ok cell := by
    unfold rendererCheck
    by_cases hhost : host.renderer = true
    · rw [if_pos hhost]
      exact exists_cell_of_bare (by decide) hversion hok
    · rw [if_neg hhost]
      exact exists_cell_of_bare (by decide) (by decide) hwarn
  intro c hc
  simp only [List.mem_cons, List.not_mem_nil, or_false] at hc
  rcases hc with rfl | rfl | rfl
  · exact exists_cell_of_bare (by decide) (by decide) hok
  · exact hinterpreter
  · exact hrenderer

/-- A character is shown in a cell of its own and opens neither a tag nor a code. -/
def isBare (c : Char) : Bool :=
  !(Text.isLineEnd c || Text.isControl c || Text.takesNoCell c || c == '[' || c == ':')

/-- The text that counts the groups and constants of a registry. -/
def countText (r : Registry) : String :=
  toString r.size ++ " groups, " ++ toString (constantCount r) ++ " constants"

theorem isBare_of_mem_countText (r : Registry) : ∀ c ∈ (countText r).toList, isBare c = true := by
  have hdigits : ∀ c ∈ "0123456789".toList, isBare c = true :=
    List.all_eq_true.mp (by decide)
  have hwords : ∀ c ∈ " groups, ".toList ++ " constants".toList, isBare c = true :=
    List.all_eq_true.mp (by decide)
  obtain ⟨hgroups, hconstants⟩ := List.forall_mem_append.mp hwords
  simp only [countText, String.toList_append, List.forall_mem_append]
  exact ⟨⟨⟨forall_digit hdigits _, hgroups⟩, forall_digit hdigits _⟩, hconstants⟩

theorem isCell_of_isBare {s : List Char} (h : ∀ c ∈ s, isBare c = true)
    (htrimmed : Text.trimEnd s = s) : Table.IsCell s := by
  have hparts : ∀ c ∈ s, (Text.isLineEnd c = false ∧ Text.isControl c = false) ∧
      Text.takesNoCell c = false := by
    intro c hc
    have hbare := h c hc
    simp only [isBare, Bool.not_eq_true', Bool.or_eq_false_iff] at hbare
    exact hbare.1.1
  exact ⟨fun c hc => (hparts c hc).1, fun c hc => (hparts c hc).2, htrimmed⟩

theorem renderMarkup_of_isBare {s : String} (h : ∀ c ∈ s.toList, isBare c = true) :
    Console.renderMarkup d s = .ok s.toList := by
  have hopen : '[' ∉ s.toList := by
    intro hc
    exact absurd (h '[' hc) (by decide)
  have hcode : ':' ∉ s.toList := by
    intro hc
    exact absurd (h ':' hc) (by decide)
  have hline : Text.IsOneLine s.toList := by
    intro c hc
    have hbare := h c hc
    simp only [isBare, Bool.not_eq_true', Bool.or_eq_false_iff] at hbare
    exact hbare.1.1.1
  rw [Console.renderMarkup_of_not_mem d hopen, d.pictographs.replace_of_not_mem hcode,
    Console.sanitize_of_isOneLine hline]

theorem isBare_of_mem_word {s : String} (h : s ∈ ["registry", "OK", "FAIL"]) :
    (∀ c ∈ s.toList, isBare c = true) ∧ Text.trimEnd s.toList = s.toList := by
  have hall : ∀ s ∈ ["registry", "OK", "FAIL"],
      s.toList.all isBare = true ∧ Text.trimEnd s.toList = s.toList := by
    decide
  obtain ⟨hbare, htrimmed⟩ := hall s h
  exact ⟨List.all_eq_true.mp hbare, htrimmed⟩

/-- The texts of the row about a registry are shown as they are. -/
theorem isCell_registryRow (r : Registry) (problems : List String) :
    ∀ cell ∈ (registryRow r problems).map String.toList, Table.IsCell cell := by
  have hword : ∀ s ∈ ["registry", "OK", "FAIL"], Table.IsCell s.toList := by
    intro s hs
    obtain ⟨hbare, htrimmed⟩ := isBare_of_mem_word hs
    exact isCell_of_isBare hbare htrimmed
  have hcount : Table.IsCell (countText r).toList := by
    apply isCell_of_isBare (isBare_of_mem_countText r)
    have hlast : " constants".toList = " constant".toList ++ ['s'] := rfl
    rw [countText, String.toList_append, hlast, ← List.append_assoc]
    exact Text.trimEnd_concat (by decide)
  simp only [registryRow, List.map_cons, List.map_nil, List.forall_mem_cons]
  refine ⟨hword _ (by simp), hcount, ?_, by simp⟩
  split
  · exact hword _ (by simp)
  · exact hword _ (by simp)

theorem render_registryRow (r : Registry) (problems : List String) :
    List.Forall₂ (fun s cell => Console.renderMarkup d s = .ok cell)
      (cellsOf (registryCheck r problems)) ((registryRow r problems).map String.toList) := by
  have hname := renderMarkup_of_isBare (d := d) (isBare_of_mem_word (s := "registry") (by simp)).1
  have hcount := renderMarkup_of_isBare (d := d) (isBare_of_mem_countText r)
  refine .cons hname (.cons hcount (.cons ?_ .nil))
  by_cases hsound : problems.isEmpty = true
  · have hstatus : (registryCheck r problems).status = okStatus := if_pos hsound
    rw [hstatus, if_pos hsound]
    exact renderMarkup_status d (by simp)
  · have hstatus : (registryCheck r problems).status = failStatus := if_neg hsound
    rw [hstatus, if_neg hsound]
    exact renderMarkup_status d (by simp)

end Cells

/-- With the renderer the table is written whole, and one of its lines is the row about the
    registry. -/
theorem printRuled_eq {host : Host} (h : HasBareVersions host) (r : Registry)
    (problems : List String) :
    ∃ lines, printRuled host (checks host r problems) =
        Run.err (String.ofList (Text.unlines lines)) ∧
      ∃ line ∈ lines, Table.RowReads line ((registryRow r problems).map String.toList) := by
  obtain ⟨front, hfront⟩ := exists_forall₂ fun c hc =>
    exists_forall₂ (exists_cell (d := host.dialect) h c hc)
  let shown := front ++ [(registryRow r problems).map String.toList]
  have hshown : List.Forall₂ (fun c cells =>
      List.Forall₂ (fun s cell => Console.renderMarkup host.dialect s = .ok cell) (cellsOf c) cells)
      (checks host r problems) shown :=
    List.rel_append hfront (.cons (render_registryRow r problems) .nil)
  have hlen : ∀ row ∈ shown, row.length = columns.length := by
    refine forall_mem_of_forall₂ hshown ?_
    intro c hc row hrow
    exact hrow.length_eq.symm
  have hsources : Table.tableSources ((checks host r problems).map fun c =>
      [.text c.component, .text c.value, .text c.status]) =
      .ok ((checks host r problems).map cellsOf) := by
    have htexts := Table.tableSources_texts ((checks host r problems).map cellsOf)
    rwa [List.map_map] at htexts
  have hcells : Table.renderColumns host.dialect columns ((checks host r problems).map cellsOf) =
      .ok (Table.byColumn columns shown) := by
    apply Table.renderColumns_of_forall₂
    rwa [List.forall₂_map_left_iff]
  have hrow : (registryRow r problems).map String.toList ∈ shown :=
    List.mem_append_right _ (List.mem_singleton_self _)
  have hcell := isCell_registryRow r problems
  have hne : columns ≠ [] := List.cons_ne_nil _ _
  have hmem := Table.rowLine_mem_ruledLines title hne hlen hrow
    fun cell hc => (hcell cell hc).oneLine
  have hreads := Table.rowReads_rowLine (Table.length_columnWidths columns shown) hcell
    (Table.forall₂_columnWidths hrow (hlen _ hrow))
  refine ⟨[] :: Table.ruledLines title columns (Table.byColumn columns shown) shown.length ++ [[]],
    ?_, _, List.mem_append_left _ (List.mem_cons_of_mem _ hmem), hreads⟩
  rw [printRuled, Table.printRuled_of_ok host title hsources hcells, List.length_map,
    hshown.length_eq]
  simp [Text.unlines]

/-- The table is written whole on every host, and one of its lines is the row about the
    registry. -/
theorem printTable_eq {host : Host} (h : HasBareVersions host) (r : Registry)
    (problems : List String) :
    ∃ lines, printTable host (checks host r problems) =
        Run.err (String.ofList (Text.unlines lines)) ∧
      ∃ line ∈ lines, LineReads host line (registryRow r problems) := by
  unfold printTable LineReads
  by_cases hhost : host.renderer = true
  · simp only [if_pos hhost]
    exact printRuled_eq h r problems
  · simp only [if_neg hhost]
    have hrow : [(registryCheck r problems).component, (registryCheck r problems).value,
        plainStatus (registryCheck r problems).status] = registryRow r problems := by
      have hok : plainStatus okStatus = "OK" := by decide
      have hfail : plainStatus failStatus = "FAIL" := by decide
      unfold registryCheck registryRow
      cases problems.isEmpty with
      | true => rw [if_pos rfl, if_pos rfl, hok]
      | false => rw [if_neg Bool.false_ne_true, if_neg Bool.false_ne_true, hfail]
    refine ⟨_, printPlain_eq _, _, ?_, rfl⟩
    rw [← hrow, Table.plainLines]
    simp [checks]

/-! ## The whole report -/

/-- The item about a problem. -/
def item (host : Host) (problem : String) : List Char :=
  if host.renderer then
    Console.displayText (Console.sanitize
      ("  • ".toList ++ Markup.shown host.dialect.pictographs problem.toList))
  else "  - ".toList ++ problem.toList

theorem isStyle_red : Markup.IsStyle "red".toList := by
  decide +kernel

/-- Whatever the text of a problem is, its item is written. -/
theorem printProblem_eq (host : Host) (problem : String) :
    printProblem host problem = Run.err (String.ofList (item host problem ++ ['\n'])) := by
  unfold printProblem item
  by_cases hhost : host.renderer = true
  · rw [if_pos hhost, if_pos hhost]
    have hfront : "  [red]•[/red] ".toList =
        "  ".toList ++ Markup.styled "red".toList "•".toList ++ " ".toList := rfl
    exact Console.say_styled_escape hhost hfront (by decide) isStyle_red (by decide)
      Markup.isGap_space problem
  · rw [if_neg hhost, if_neg hhost, ← String.toList_append, ← Run.errLine_ofList,
      String.ofList_toList]

/-- The line that ends the report. -/
def verdict (failed : Bool) : String :=
  if failed then "Some checks failed." else "All checks passed."

theorem printVerdict_eq (host : Host) (failed : Bool) :
    printVerdict host failed = Run.err (String.ofList ((verdict failed).toList ++ ['\n'])) := by
  unfold printVerdict
  by_cases hhost : host.renderer = true
  · rw [if_pos hhost]
    have hrender : Markup.render host.dialect (if failed then
        "[bold red]Some checks failed.[/bold red]"
        else "[bold green]All checks passed.[/bold green]").toList =
        .ok (verdict failed).toList := by
      have hred : Markup.IsStyle "bold red".toList := by decide +kernel
      have hgreen : Markup.IsStyle "bold green".toList := by decide +kernel
      have hwords : ∀ failed, Markup.IsWords (verdict failed).toList := by decide
      cases failed with
      | true => exact Markup.render_styled host.dialect hred (hwords true)
      | false => exact Markup.render_styled host.dialect hgreen (hwords false)
    have hlines : ∀ failed, Text.IsOneLine (verdict failed).toList := by decide
    rw [Console.say_of_render hhost hrender, Console.sanitize_of_isOneLine (hlines failed),
      Console.displayText_of_isOneLine (hlines failed)]
  · rw [if_neg hhost, ← Run.errLine_ofList, String.ofList_toList, verdict]

theorem each_printProblem (host : Host) (problems : List String) :
    Run.each (printProblem host) problems =
      Run.err (String.ofList (Text.unlines (problems.map (item host)))) := by
  rw [Text.unlines, List.flatMap_map]
  exact Run.each_err fun problem _ => printProblem_eq host problem

/-- How a report ends is settled by its checks. -/
theorem ending_report (host : Host) (r : Registry) (problems : List String) :
    (report host r problems).ending =
      ((printTable host (checks host r problems)).bind fun _ =>
        Run.pure (if (checks host r problems).any fun c => mentions "FAIL" c.status then 1
          else 0)).ending := by
  simp only [report, Run.bind_eq, Run.pure_eq, each_printProblem, printVerdict_eq, Run.err_bind,
    Run.pure_ending]
  unfold Run.bind
  cases (printTable host (checks host r problems)).ending <;> rfl

/-- A report is a table, an item for each problem and the verdict, and ends with its code. -/
theorem report_eq {host : Host} (h : HasBareVersions host) (r : Registry)
    (problems : List String) {failed : Bool}
    (hfailed : ((checks host r problems).any fun c => mentions "FAIL" c.status) = failed) :
    ∃ lines, report host r problems =
        ⟨"", String.ofList (Text.unlines
          (lines ++ problems.map (item host) ++ [(verdict failed).toList])),
          .done (if failed then 1 else 0)⟩ ∧
      ∃ line ∈ lines, LineReads host line (registryRow r problems) := by
  obtain ⟨lines, htable, hline⟩ := printTable_eq h r problems
  refine ⟨lines, ?_, hline⟩
  unfold report
  simp only [Run.bind_eq, htable, each_printProblem, printVerdict_eq, hfailed, Run.err_bind,
    Run.pure_eq, Run.pure_stdout, Run.pure_stderr, Run.pure_ending, String.append_empty,
    ← String.ofList_append]
  rw [Text.unlines_append, Text.unlines_append, List.append_assoc]
  simp [Text.unlines]

/-- What a diagnosis of a registry does that ends with a code. -/
structure Diagnosis (host : Host) (r : Registry) (code : Int) : Prop where
  /-- The code is 0 if everything is in order, and 1 otherwise. -/
  code_eq : code = 0 ∧ InOrder host r ∨ code = 1 ∧ ¬InOrder host r
  /-- Nothing goes to the standard output.  The standard error holds the lines of the table, an
      item for each problem in order, and the verdict.  One line of the table counts the groups
      and the entries of the registry. -/
  run_eq : ∃ lines entries, r.entries none = .ok entries ∧
    run host r = ⟨"", String.ofList (Text.unlines
      (lines ++ r.problems.map (item host) ++ [(verdict (code != 0)).toList])), .done code⟩ ∧
    ∃ line ∈ lines, LineReads host line ["registry",
      toString r.size ++ " groups, " ++ toString entries.length ++ " constants",
      if r.problems.isEmpty then "OK" else "FAIL"]
  passed_iff : Text.lastLine (run host r).stderr = "All checks passed." ↔ code = 0
  failed_iff : Text.lastLine (run host r).stderr = "Some checks failed." ↔ code = 1
  /-- The renderer has no part in the verdict. -/
  same_code : (run { host with renderer := !host.renderer } r).ending = .done code

theorem lastLine_report {lines : List (List Char)} {line : List Char} (h : line ∈ lines)
    (items : List (List Char)) (failed : Bool) :
    Text.lastLine (String.ofList (Text.unlines (lines ++ items ++ [(verdict failed).toList]))) =
      verdict failed := by
  have hne : lines ++ items ≠ [] := List.append_ne_nil_of_left_ne_nil (List.ne_nil_of_mem h) items
  have hline : '\n' ∉ (verdict failed).toList := by
    cases failed <;> decide
  rw [Text.lastLine_unlines hne hline, String.ofList_toList]

/-- A diagnosis never fails, and its code, its last line and its items say exactly what is not
    in order. -/
theorem diagnosis_exact {host : Host} (h : HasBareVersions host) (r : Registry) :
    ∃ code, Diagnosis host r code := by
  have hother : HasBareVersions { host with renderer := !host.renderer } :=
    ⟨h.interpreter, h.renderer⟩
  have hsame : ((checks { host with renderer := !host.renderer } r r.problems).any
      fun c => mentions "FAIL" c.status) =
      (checks host r r.problems).any fun c => mentions "FAIL" c.status := by
    rw [mentions_status, mentions_status]
  have hentries : r.entries none = .ok (r.groups.flatMap Group.entries) := rfl
  have horder := failed_eq_false_iff host r
  obtain ⟨failed, hfailed⟩ :
      ∃ failed, ((checks host r r.problems).any fun c => mentions "FAIL" c.status) = failed :=
    ⟨_, rfl⟩
  rw [hfailed] at horder hsame
  obtain ⟨lines, hrun, line, hline, hreads⟩ := report_eq h r r.problems hfailed
  obtain ⟨_, hrun', -⟩ := report_eq hother r r.problems hsame
  have hlast := lastLine_report hline (r.problems.map (item host)) failed
  rw [registryRow, constantCount_eq] at hreads
  refine ⟨if failed then 1 else 0, ?_, ⟨lines, _, hentries, ?_, line, hline, hreads⟩, ?_, ?_, ?_⟩
  · cases failed with
    | false => exact Or.inl ⟨rfl, horder.mp rfl⟩
    | true => exact Or.inr ⟨rfl, fun hall => Bool.noConfusion (horder.mpr hall)⟩
  · cases failed <;> exact hrun
  · rw [run, hrun, hlast]
    cases failed <;> decide
  · rw [run, hrun, hlast]
    cases failed <;> decide
  · rw [run, hrun']

/-- A registry with a group without constants, whose name is a closing tag, and with values that
    are no texts or empty. -/
def unsound : Registry where
  groups := [⟨.text "[/red]", .text "", []⟩,
    ⟨.text "N\\", .text "", [(.text "[one]", .int 1), (.text "none", .text "")]⟩]
  distinct := by decide

theorem diagnosis_exact_unsound :
    HasBareVersions .standard ∧
      unsound.problems = ["[/red]: group defines no constants",
        "N\\.[one]: value is int, not str", "N\\.none: value is empty"] ∧
      ∃ code, Diagnosis .standard unsound code := by
  have hversions : HasBareVersions .standard := by
    refine ⟨by decide, ?_⟩
    intro version hversion
    obtain rfl : "15.0.0" = version := Option.some.inj hversion
    decide
  exact ⟨hversions, by decide, diagnosis_exact hversions unsound⟩

end Diagnostics

end NamedConstants
