import NamedConstants.Proofs.CommandLine.Reading
import NamedConstants.Proofs.FailureReports
import NamedConstants.Proofs.JsonListing

/-!
# Reports about failed look-ups

What a look-up is asked for cannot add lines or control characters to the report about it.
Tables, documents and diagnoses fail in foreign ways only (`Run.Prints`), so a failure for want of
a group or a constant is that of a look-up (`lookupFails_of_run`).  Its report quotes what was asked
for, and escaping and rendering add nothing to a quoted text but backslashes and pictographs.  So
the report is printable if and only if the pictographs are that are put in
(`lookup_reports_exact`).
-/

namespace NamedConstants

/-- Groups that are found are listed, or the listing fails in a foreign way. -/
theorem Listing.isForeign_of_list {classes : List GroupClass} {r : Registry}
    (h : Registry.ofClasses classes = .ok r) {selection : Option Value} {groups : List Group}
    (hsel : r.select selection = .ok groups) {host : Host} {asJson : Bool} {failure : Failure}
    (hfailed : (list host r selection asJson).ending = .failed failure) : failure.IsForeign := by
  cases asJson with
  | false => exact (prints_list host hsel).foreign failure hfailed
  | true =>
      obtain ⟨-, f, hrun, htype⟩ | ⟨-, v, -, hdoc⟩ := list_selected h hsel host
      · rw [hrun] at hfailed
        obtain rfl : f = failure := Ending.failed.inj hfailed
        rw [Failure.IsForeign, htype]
        rfl
      · obtain ⟨out, hrun, -⟩ := hdoc
        rw [hrun] at hfailed
        cases hfailed

namespace CommandLine

/-- Only a failed look-up makes a command fail in a way that is this library's own. -/
theorem lookupFails_of_perform {host : Host} {command : Command} {failure : Failure}
    (h : (perform host command).ending = .failed failure) (hown : ¬failure.IsForeign) :
    LookupFails command failure := by
  cases command with
  | overview => cases h
  | list group asJson =>
      cases hsel : Registry.shipped.select (group.map Value.text) with
      | ok groups =>
          exact absurd (Listing.isForeign_of_list Registry.ofClasses_shippedGroups hsel h) hown
      | error f =>
          rw [perform, Listing.list_of_error hsel] at h
          obtain rfl : f = failure := Ending.failed.inj h
          cases group with
          | none => cases hsel
          | some group => exact .list (Registry.group_of_select_error hsel)
  | get group name =>
      cases hget : Registry.shipped.get (.text group) (.text name) with
      | ok value =>
          rw [perform, Listing.get_of_ok hget] at h
          cases h
      | error f =>
          rw [perform, Listing.get_of_error hget] at h
          obtain rfl : f = failure := Ending.failed.inj h
          exact .get hget
  | getUnnamed group =>
      cases hget : Registry.shipped.get (.text group) (.list []) with
      | ok value =>
          rw [perform, Listing.get_of_ok hget] at h
          cases h
      | error f =>
          rw [perform, Listing.get_of_error hget] at h
          obtain rfl : f = failure := Ending.failed.inj h
          exact .getUnnamed hget
  | doctor => exact absurd ((Diagnostics.prints_run host _).foreign failure h) hown

/-- The program fails in a way that is this library's own only for a look-up that it is asked
    for. -/
theorem lookupFails_of_run {host : Host} {arguments : List String} {failure : Failure}
    (h : (run host arguments).ending = .failed failure) (hown : ¬failure.IsForeign) :
    ∃ command, readCommand arguments = .ok command ∧ LookupFails command failure := by
  unfold run at h
  cases hread : readCommand arguments with
  | ok command =>
      rw [hread] at h
      exact ⟨command, rfl, lookupFails_of_perform h hown⟩
  | error reason =>
      rw [hread] at h
      cases reason with
      | help g => cases h
      | version => cases h
      | refused g fault => cases h

/-! ## Two lines -/

/-- A text is made of two lines, the first about an error and the second with a hint. -/
structure IsErrorAndHint (text : String) (error hint : List Char) : Prop where
  text_eq : text = String.ofList (Text.unlines [error, hint])
  error_infix : "Error:".toList <:+: error
  hint_infix : "Hint:".toList <:+: hint
  error_line : Text.IsOneLine error
  hint_line : Text.IsOneLine hint

/-- The characters of such a text are those of its lines, and line feeds. -/
theorem IsErrorAndHint.mem_iff {text : String} {error hint : List Char}
    (h : IsErrorAndHint text error hint) {c : Char} (hc : c ≠ '\n') :
    c ∈ text.toList ↔ c ∈ error ++ hint := by
  simp [h.text_eq, Text.unlines, hc]

namespace Label

/-- The words of a label stand in it as the user is to read it. -/
theorem words_infix_bare (l : Label) : l.words.toList <:+: l.bare :=
  List.infix_append l.lead.toList l.words.toList l.gap.toList

/-- The tags of its style stand around the words of a label. -/
theorem words_infix_tagged (l : Label) : l.words.toList <:+: l.tagged := by
  have hstyled : l.words.toList <:+: Markup.styled l.style.toList l.words.toList :=
    List.infix_append _ _ _
  exact hstyled.trans (List.infix_append l.lead.toList _ l.gap.toList)

end Label

/-- A line about known names is never empty. -/
theorem isEmpty_knownLine (label listed : String) : (knownLine label listed).isEmpty = false := by
  unfold knownLine
  split
  · simp
  · simp

/-- A failure of this library's own with a hint is told with both. -/
theorem remarks_of_hint {failure : Failure} {hint : String}
    (hown : failure.category.isOwn = true) (hhint : failure.hint = some hint)
    (hne : hint.isEmpty = false) :
    remarks failure = [⟨.error, failure.message⟩, ⟨.hint, hint⟩] := by
  rw [remarks, if_pos hown, hhint]
  dsimp only
  rw [hne, if_neg Bool.false_ne_true]

section LookupFails

variable {command : Command} {failure : Failure}

/-- A failed look-up is told with a hint that holds no codes. -/
theorem LookupFails.exists_remarks (h : LookupFails command failure) :
    ∃ hint, remarks failure = [⟨.error, failure.message⟩, ⟨.hint, hint⟩] ∧
      Markup.escapedCodes hint.toList = [] := by
  obtain ⟨group, rfl⟩ | ⟨c, hc, name, -, rfl⟩ := h.failure_eq
  · exact ⟨_, remarks_of_hint rfl rfl (isEmpty_knownLine _ _), by decide +kernel⟩
  · have hshipped : ∀ c ∈ GroupClass.shippedGroups,
        Markup.escapedCodes (knownNames (c.name ++ " constants")
          ((Group.ofClass c).names.map Value.display)).toList = [] := by
      decide +kernel
    exact ⟨_, remarks_of_hint rfl rfl (isEmpty_knownLine _ _), hshipped c hc⟩

/-- What is shown of printable characters is printable if and only if the pictographs are that are
    put in. -/
theorem isPrintable_shown_iff (p : Markup.Pictographs) {s : List Char}
    (h : ∀ c ∈ s, Text.isPrintable c = true) :
    (∀ c ∈ Markup.shown p s, Text.isPrintable c = true) ↔
      ∀ name ∈ Markup.escapedCodes s, ∀ drawn, p.find? name = some drawn →
        ∀ c ∈ drawn, Text.isPrintable c = true := by
  refine Markup.forall_mem_shownTokens_iff p fun c hc => ?_
  obtain hc | rfl := Markup.mem_of_mem_segments_escape hc
  · exact h c hc
  · decide

/-- Whether a host puts nothing into the message about a failure that is not printable. -/
def PutsInPrintable (host : Host) (failure : Failure) : Prop :=
  host.renderer = true → ∀ name ∈ Markup.escapedCodes failure.message.toList,
    ∀ drawn, host.dialect.pictographs.find? name = some drawn →
      ∀ c ∈ drawn, Text.isPrintable c = true

/-- Two lines, each with a label in front of a text. -/
theorem isErrorAndHint_of_labels {front front' text text' : List Char}
    (he : "Error:".toList <:+: front) (hh : "Hint:".toList <:+: front')
    (herror : Text.IsOneLine (front ++ text)) (hhint : Text.IsOneLine (front' ++ text')) :
    IsErrorAndHint (String.ofList (Text.unlines [front ++ text, front' ++ text']))
      (front ++ text) (front' ++ text') where
  text_eq := rfl
  error_infix := he.trans (List.prefix_append ..).isInfix
  hint_infix := hh.trans (List.prefix_append ..).isInfix
  error_line := herror
  hint_line := hhint

/-- With the renderer a message and a hint are reported in two lines, which are printable if and
    only if what is put in for the codes of the message is. -/
theorem exists_lines_of_renderer {host : Host} (hhost : host.renderer = true)
    {message hint : String}
    (hplain : ∀ m ∈ [(⟨.error, message⟩ : Remark), ⟨.hint, hint⟩], m.IsPlain)
    (hmessage : ∀ c ∈ message.toList, Text.isPrintable c = true)
    (hhint : ∀ c ∈ hint.toList, Text.isPrintable c = true)
    (hcodes : Markup.escapedCodes hint.toList = []) (code : Int) :
    ∃ error line, IsErrorAndHint
        (report host [⟨.error, message⟩, ⟨.hint, hint⟩] code).stderr error line ∧
      ((∀ c ∈ error ++ line, Text.isPrintable c = true) ↔
        ∀ c ∈ Markup.shown host.dialect.pictographs message.toList,
          Text.isPrintable c = true) := by
  have hsound : ∀ m ∈ [(⟨.error, message⟩ : Remark), ⟨.hint, hint⟩], m.label.IsSound :=
    List.forall_mem_cons.mpr ⟨Label.isSound_error, List.forall_mem_singleton.mpr Label.isSound_hint⟩
  have herror : ∀ c ∈ Label.error.bare, Text.isPrintable c = true :=
    List.all_eq_true.mp (by decide +kernel)
  have hwords : ∀ c ∈ Label.hint.bare, Text.isPrintable c = true :=
    List.all_eq_true.mp (by decide +kernel)
  have hknown : ∀ c ∈ Markup.shown host.dialect.pictographs hint.toList,
      Text.isPrintable c = true := by
    rw [isPrintable_shown_iff _ hhint, hcodes]
    exact List.forall_mem_nil _
  have herrorLine := (Text.isOneLine_of_isPrintable herror).append
    (Console.isOneLine_shown host.dialect.pictographs (Text.isOneLine_of_isPrintable hmessage))
  have hhintLine := (Text.isOneLine_of_isPrintable hwords).append
    (Console.isOneLine_shown host.dialect.pictographs (Text.isOneLine_of_isPrintable hhint))
  have hlines := isErrorAndHint_of_labels Label.error.words_infix_bare Label.hint.words_infix_bare
    herrorLine hhintLine
  have htext : (report host [⟨.error, message⟩, ⟨.hint, hint⟩] code).stderr =
      String.ofList (Text.unlines
        [Label.error.bare ++ Markup.shown host.dialect.pictographs message.toList,
          Label.hint.bare ++ Markup.shown host.dialect.pictographs hint.toList]) := by
    rw [report_of_renderer hhost hsound hplain]
    simp [Remark.rendered, Text.unlines]
  rw [← htext] at hlines
  refine ⟨_, _, hlines, ?_⟩
  simp only [List.forall_mem_append]
  exact ⟨fun h => h.1.2, fun h => ⟨⟨herror, h⟩, hwords, hknown⟩⟩

/-- Without the renderer nothing is taken out, so the tags stand in the lines as well, and all
    characters are printable. -/
theorem exists_lines_of_not_renderer {host : Host} (hhost : host.renderer = false)
    {message hint : String} (hmessage : ∀ c ∈ message.toList, Text.isPrintable c = true)
    (hhint : ∀ c ∈ hint.toList, Text.isPrintable c = true) (code : Int) :
    ∃ error line, IsErrorAndHint
        (report host [⟨.error, message⟩, ⟨.hint, hint⟩] code).stderr error line ∧
      ∀ c ∈ error ++ line, Text.isPrintable c = true := by
  have herror : ∀ c ∈ Label.error.tagged ++ message.toList, Text.isPrintable c = true :=
    List.forall_mem_append.mpr ⟨List.all_eq_true.mp (by decide +kernel), hmessage⟩
  have hline : ∀ c ∈ Label.hint.tagged ++ hint.toList, Text.isPrintable c = true :=
    List.forall_mem_append.mpr ⟨List.all_eq_true.mp (by decide +kernel), hhint⟩
  have hlines := isErrorAndHint_of_labels Label.error.words_infix_tagged
    Label.hint.words_infix_tagged (Text.isOneLine_of_isPrintable herror)
    (Text.isOneLine_of_isPrintable hline)
  have htext : (report host [⟨.error, message⟩, ⟨.hint, hint⟩] code).stderr =
      String.ofList (Text.unlines
        [Label.error.tagged ++ message.toList, Label.hint.tagged ++ hint.toList]) := by
    rw [report_of_not_renderer hhost]
    simp [Remark.tagged, Text.unlines]
  rw [← htext] at hlines
  exact ⟨_, _, hlines, List.forall_mem_append.mpr ⟨herror, hline⟩⟩

/-- A failed look-up is reported in two lines, with the renderer and without it. -/
theorem LookupFails.exists_lines (h : LookupFails command failure) (host : Host) (code : Int) :
    ∃ error hint, IsErrorAndHint (report host (remarks failure) code).stderr error hint ∧
      ((∀ c ∈ error ++ hint, Text.isPrintable c = true) ↔ PutsInPrintable host failure) := by
  have hprintable := h.isPrintable
  have hplain := h.isPlain
  obtain ⟨hint, hremarks, hcodes⟩ := h.exists_remarks
  rw [hremarks] at hprintable hplain ⊢
  have hmessage := hprintable _ (List.mem_cons_self ..)
  have hhint := hprintable _ (List.mem_cons_of_mem _ (List.mem_singleton_self _))
  cases hhost : host.renderer with
  | true =>
      obtain ⟨error, line, hlines, hiff⟩ :=
        exists_lines_of_renderer hhost hplain hmessage hhint hcodes code
      refine ⟨error, line, hlines, hiff.trans ?_⟩
      rw [isPrintable_shown_iff _ hmessage, PutsInPrintable]
      exact ⟨fun h _ => h, fun h => h hhost⟩
  | false =>
      obtain ⟨error, line, hlines, hall⟩ :=
        exists_lines_of_not_renderer hhost hmessage hhint code
      refine ⟨error, line, hlines, iff_of_true hall fun hr => ?_⟩
      rw [hhost] at hr
      cases hr

end LookupFails

/-- Whatever the arguments are, if the program fails for want of a group or of a constant, it
    writes an error and a hint, each on one line.  All characters of the lines are printable if and
    only if the renderer puts in no pictograph with a character that is not. -/
theorem lookup_reports_exact {host : Host} {arguments : List String} {failure : Failure}
    (h : (run host arguments).ending = .failed failure)
    (hkind : failure.category = .unknownGroup ∨ failure.category = .unknownConstant) :
    ∃ error hint, IsErrorAndHint (program host arguments).stderr error hint ∧
      ((∀ c ∈ error ++ hint, Text.isPrintable c = true) ↔ PutsInPrintable host failure) := by
  have hown : ¬failure.IsForeign := by
    rw [Failure.IsForeign]
    obtain hkind | hkind := hkind
    · rw [hkind]
      decide
    · rw [hkind]
      decide
  obtain ⟨command, hcommand, hfails⟩ := lookupFails_of_run h hown
  rw [program_of_lookupFails hcommand hfails]
  exact hfails.exists_lines host generalError

/-- A group is asked for whose name moves the cursor, starts a line of its own and turns the
    direction of writing, and a constant whose name holds tags. -/
theorem lookup_reports_exact_escapes :
    (∃ error hint,
      IsErrorAndHint (program .standard ["get", "\x1b[2J\nError:\r\u202e", "n"]).stderr error hint ∧
        ∀ c ∈ error ++ hint, Text.isPrintable c = true) ∧
      (∃ error hint,
        IsErrorAndHint (program bareHost ["get", "\x1b[2J\nError:\r\u202e", "n"]).stderr error
          hint ∧ ∀ c ∈ error ++ hint, Text.isPrintable c = true) ∧
      ∃ error hint,
        IsErrorAndHint (program .standard ["get", "ErrorCode", "[red]\t\\[/red]"]).stderr error
          hint ∧ ∀ c ∈ error ++ hint, Text.isPrintable c = true := by
  have hgroup : ∀ host, run host ["get", "\x1b[2J\nError:\r\u202e", "n"] = Run.fail
      (.unknownGroup (.text "\x1b[2J\nError:\r\u202e") Registry.shipped.names) := by
    intro host
    rw [run, readCommand_get (by decide) (by decide)]
    exact Listing.get_of_error (Registry.get_of_not_find? (by decide) _)
  have hconstant : run .standard ["get", "ErrorCode", "[red]\t\\[/red]"] = Run.fail
      (.unknownConstant (.text "[red]\t\\[/red]") (.text "ErrorCode")
        (Group.ofClass .errorCode).names) := by
    rw [run, readCommand_get (by decide) (by decide)]
    apply Listing.get_of_error
    rw [Registry.get_of_find? (g := Group.ofClass .errorCode) (by rfl)]
    rfl
  have hputs : ∀ (host : Host) (failure : Failure),
      Markup.escapedCodes failure.message.toList = [] → PutsInPrintable host failure := by
    intro host failure hnone _ name hname
    rw [hnone] at hname
    cases hname
  refine ⟨?_, ?_, ?_⟩
  · obtain ⟨error, hint, hlines, hiff⟩ :=
      lookup_reports_exact (congrArg Run.ending (hgroup .standard)) (Or.inl rfl)
    exact ⟨error, hint, hlines, hiff.mpr (hputs _ _ (by decide +kernel))⟩
  · obtain ⟨error, hint, hlines, hiff⟩ :=
      lookup_reports_exact (congrArg Run.ending (hgroup bareHost)) (Or.inl rfl)
    exact ⟨error, hint, hlines, hiff.mpr (hputs _ _ (by decide +kernel))⟩
  · obtain ⟨error, hint, hlines, hiff⟩ :=
      lookup_reports_exact (congrArg Run.ending hconstant) (Or.inr rfl)
    exact ⟨error, hint, hlines, hiff.mpr (hputs _ _ (by decide +kernel))⟩

/-- The name of a group that is a code is shown as its pictograph, although that is made with a
    joiner, which is not printable. -/
theorem unprintable_pictograph_shown :
    (run .standard ["get", ":man_technologist:", "X"]).ending =
        .failed (.unknownGroup (.text ":man_technologist:") Registry.shipped.names) ∧
      (program .standard ["get", ":man_technologist:", "X"]).stderr =
        "Error: Unknown constant group '👨\u200d💻'.\n" ++
          "Hint: Known groups: TestConstants, ErrorCode, FileExtension\n" ∧
      ¬∃ error hint,
        IsErrorAndHint (program .standard ["get", ":man_technologist:", "X"]).stderr error hint ∧
          ∀ c ∈ error ++ hint, Text.isPrintable c = true := by
  have hcommand : readCommand [ "get", ":man_technologist:", "X"] =
      .ok (.get ":man_technologist:" "X") := readCommand_get (by decide) (by decide)
  have hfails : LookupFails (.get ":man_technologist:" "X")
      (.unknownGroup (.text ":man_technologist:") Registry.shipped.names) :=
    .get (Registry.get_of_not_find? (by decide) _)
  have hrun : run .standard ["get", ":man_technologist:", "X"] = Run.fail
      (.unknownGroup (.text ":man_technologist:") Registry.shipped.names) := by
    rw [run, hcommand]
    exact hfails.perform_eq .standard
  have hstderr : (program .standard ["get", ":man_technologist:", "X"]).stderr =
      "Error: Unknown constant group '👨\u200d💻'.\n" ++
        "Hint: Known groups: TestConstants, ErrorCode, FileExtension\n" := by
    rw [program_of_lookupFails hcommand hfails,
      report_of_renderer rfl (isSound_remarks _) hfails.isPlain]
    apply String.toList_inj.mp
    decide +kernel
  refine ⟨congrArg Run.ending hrun, hstderr, ?_⟩
  rintro ⟨error, hint, hlines, hprintable⟩
  have hjoiner :
      '\u200d' ∈ (program .standard ["get", ":man_technologist:", "X"]).stderr.toList := by
    rw [hstderr]
    decide +kernel
  have hmem := (hlines.mem_iff (by decide)).mp hjoiner
  exact absurd (hprintable _ hmem) (by decide +kernel)

end CommandLine

end NamedConstants
