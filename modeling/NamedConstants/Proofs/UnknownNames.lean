import NamedConstants.Proofs.Boundary
import NamedConstants.Proofs.CommandLine.Operands
import NamedConstants.Proofs.Markup.RoundTrip
import NamedConstants.Proofs.Registry.Lookup

/-!
# Messages about unknown names

When a look-up from the command line fails, the first line of the message quotes the name that
was asked for.  With the renderer the quoted name is shown as it is if and only if every
opening bracket right behind a backslash of the name opens a tag and no code in the message names
a pictograph (`unknown_name_shown_iff`): the backslash in front of any other opening bracket is
lost, and the pictograph is put in for its code.
-/

namespace NamedConstants.CommandLine

open Markup (SlashesShown)
open Text (IsBareText)

/-- The first line of a text. -/
def firstLine (s : String) : String :=
  String.ofList (s.toList.takeWhile fun c => c != '\n')

theorem firstLine_append {line : List Char} (h : '\n' ∉ line) (rest : String) :
    firstLine (String.ofList (line ++ ['\n']) ++ rest) = String.ofList line := by
  have hline : ∀ c ∈ line, (c != '\n') = true := by
    intro c hc
    exact bne_iff_ne.mpr fun he => h (he ▸ hc)
  rw [firstLine, String.toList_append, String.toList_ofList, List.append_assoc,
    List.takeWhile_append_of_pos hline]
  simp

/-- No code in a text that is escaped names a pictograph. -/
def HoldsNoPictograph (host : Host) (text : String) : Prop :=
  host.dialect.pictographs.KnowsNone (Markup.escapedCodes text.toList)

instance (host : Host) (text : String) : Decidable (HoldsNoPictograph host text) :=
  inferInstanceAs (Decidable (Markup.Pictographs.KnowsNone _ _))

/-- A message that quotes a text between bare characters of its own and ends in a full stop. -/
structure Quotes (front s post : List Char) (message : String) : Prop where
  shape : message.toList = front ++ Text.quote s ++ (post ++ ['.'])
  bareFront : IsBareText front
  barePost : IsBareText post

section Quotes

variable {front s post : List Char} {message : String}

theorem Quotes.not_endsInOneSlash (h : Quotes front s post message) :
    ¬Markup.EndsInOneSlash message.toList := by
  rintro ⟨before, hbefore, -⟩
  have hlast := congrArg List.getLast? hbefore
  rw [h.shape, ← List.append_assoc, List.getLast?_concat, List.getLast?_concat] at hlast
  exact absurd hlast (by decide)

/-- All characters of such a message are printable. -/
theorem Quotes.isPrintable (h : Quotes front s post message) :
    ∀ c ∈ message.toList, Text.isPrintable c = true := by
  rw [h.shape]
  simp only [List.forall_mem_append]
  refine ⟨⟨fun c hc => (h.bareFront c hc).1, fun c => Text.isPrintable_of_mem_quote c⟩, ?_, ?_⟩
  · exact fun c hc => (h.barePost c hc).1
  · exact List.all_eq_true.mp (by decide)

theorem Quotes.slashesShown_iff (h : Quotes front s post message) :
    SlashesShown message.toList ↔ SlashesShown s := by
  have hfront : '\\' ∉ front := fun hc => (h.bareFront _ hc).2.1 rfl
  have hpost : IsBareText (post ++ ['.']) := h.barePost.append (by decide)
  rw [h.shape]
  exact Markup.slashesShown_quote hfront hpost s

/-- Such a message is shown as it is if and only if the quoted text has no stray backslash and no
    code names a pictograph. -/
theorem Quotes.shown_iff (h : Quotes front s post message) (p : Markup.Pictographs) :
    Markup.shown p message.toList = message.toList ↔
      SlashesShown s ∧ p.KnowsNone (Markup.escapedCodes message.toList) := by
  rw [Markup.shown_eq_self_iff, h.slashesShown_iff]
  simp [h.not_endsInOneSlash]

/-- The first line about a failure of this library's own whose message quotes a text. -/
theorem Quotes.firstLine_reportFailure {failure : Failure} (h : Quotes front s post failure.message)
    (hown : failure.category.isOwn = true) {host : Host} (hr : host.renderer = true) :
    firstLine (reportFailure host failure).stderr =
      "Error: " ++
        String.ofList (Markup.shown host.dialect.pictographs failure.message.toList) := by
  have hwords : Text.IsOneLine "Error: ".toList := by decide
  have hline := hwords.append (Console.isOneLine_shown host.dialect.pictographs
    (Text.isOneLine_of_isPrintable h.isPrintable))
  rw [reportFailure, if_pos hown, say_errorMessage hr, Console.sanitize_of_isOneLine hline,
    Console.displayText_of_isOneLine hline, Run.bind_eq, Run.err_bind]
  rw [firstLine_append (hline.not_mem (by decide)), String.ofList_append, String.ofList_toList]

/-- Such a line shows the message as it is if and only if the quoted text has no stray
    backslash and no code names a pictograph. -/
theorem Quotes.firstLine_iff {failure : Failure} (h : Quotes front s post failure.message)
    (hown : failure.category.isOwn = true) {host : Host} (hr : host.renderer = true) :
    firstLine (reportFailure host failure).stderr = "Error: " ++ failure.message ↔
      SlashesShown s ∧ HoldsNoPictograph host failure.message := by
  rw [h.firstLine_reportFailure hown hr, HoldsNoPictograph, ← h.shown_iff]
  constructor
  · intro he
    simpa using congrArg String.toList he
  · intro he
    rw [he, String.ofList_toList]

end Quotes

/-! ## Failed look-ups from the command line -/

/-- A look-up that fails writes what is told about the failure and nothing else. -/
theorem program_get_of_error {group name : String} (hg : IsOperand group) (hn : IsOperand name)
    {failure : Failure}
    (h : Registry.shipped.get (.text group) (.text name) = .error failure) (host : Host) :
    (program host ["get", group, name]).stderr = (reportFailure host failure).stderr := by
  have hrun : run host ["get", group, name] = Run.fail failure := by
    rw [run, readCommand_get hg hn]
    simp [perform, Listing.get, h]
  rw [program, hrun]
  simp [atBoundary, Run.fail]

theorem quoted_toList (s : String) : (Value.text s).quoted.toList = Text.quote s.toList :=
  String.toList_ofList

/-- The message about an unknown group quotes the group's name. -/
theorem quotes_unknownGroup (group : String) (known : List Value) :
    Quotes "Unknown constant group ".toList group.toList []
      (Failure.unknownGroup (.text group) known).message where
  shape := by
    show ("Unknown constant group " ++ (Value.text group).quoted ++ ".").toList = _
    rw [String.toList_append, String.toList_append, quoted_toList]
    rfl
  bareFront := by decide
  barePost := by decide

/-- The message about an unknown constant quotes the constant's name, and then the group's. -/
theorem quotes_unknownConstant (name : String) {group : String}
    (hg : IsBareText (Text.quote group.toList)) (known : List Value) :
    Quotes "Unknown constant ".toList name.toList (" in group ".toList ++ Text.quote group.toList)
      (Failure.unknownConstant (.text name) (.text group) known).message where
  shape := by
    show ("Unknown constant " ++ (Value.text name).quoted ++ " in group " ++
      (Value.text group).quoted ++ ".").toList = _
    rw [String.toList_append, String.toList_append, String.toList_append, String.toList_append,
      quoted_toList, quoted_toList, List.append_assoc, List.append_assoc]
    rfl
  bareFront := by decide
  barePost := by
    have hwords : IsBareText " in group ".toList := by decide
    exact hwords.append hg

/-- What the messages need of the name of a shipped group. -/
structure IsPlainName (group : String) : Prop where
  operand : IsOperand group
  quoted : (Value.text group).quoted = "'" ++ group ++ "'"
  bare : IsBareText (Text.quote group.toList)

/-- A shipped group that is found under a text is the snapshot of the class of that name. -/
theorem exists_shipped_of_find? {group : String} {g : Group}
    (h : Registry.shipped.find? (.text group) = some g) :
    ∃ c ∈ GroupClass.shippedGroups, Group.ofClass c = g ∧ c.name = group := by
  obtain ⟨c, hc, rfl⟩ := List.mem_map.mp (Registry.mem_of_find? h)
  have hs : (Value.text c.name).same (.text group) = true := Registry.same_of_find? h
  rw [Value.same_text_text, beq_iff_eq] at hs
  exact ⟨c, hc, rfl, hs⟩

theorem isPlainName_of_shipped {group : String} {g : Group}
    (h : Registry.shipped.find? (.text group) = some g) : IsPlainName group := by
  obtain ⟨c, hc, -, rfl⟩ := exists_shipped_of_find? h
  have hshipped : ∀ c ∈ GroupClass.shippedGroups, IsOperand c.name ∧
      (Value.text c.name).quoted = "'" ++ c.name ++ "'" ∧
      IsBareText (Text.quote c.name.toList) := by
    decide +kernel
  obtain ⟨ho, hq, hb⟩ := hshipped c hc
  exact ⟨ho, hq, hb⟩

/-- The message about an unknown group. -/
def unknownGroupMessage (group : String) : String :=
  "Unknown constant group " ++ (Value.text group).quoted ++ "."

/-- The message about an unknown constant of a group with a plain name. -/
def unknownConstantMessage (group name : String) : String :=
  "Unknown constant " ++ (Value.text name).quoted ++ " in group '" ++ group ++ "'."

theorem firstLine_unknownGroup {host : Host} (hr : host.renderer = true) {group name : String}
    (hg : IsOperand group) (hn : IsOperand name)
    (h : Registry.shipped.find? (.text group) = none) :
    firstLine (program host ["get", group, name]).stderr = "Error: " ++ unknownGroupMessage group ↔
      SlashesShown group.toList ∧ HoldsNoPictograph host (unknownGroupMessage group) := by
  have hline := (quotes_unknownGroup group Registry.shipped.names).firstLine_iff rfl hr
  rw [program_get_of_error hg hn (Registry.get_of_not_find? h _)]
  exact hline

theorem firstLine_unknownConstant {host : Host} (hr : host.renderer = true) {group name : String}
    (hn : IsOperand name) {g : Group} (hg : Registry.shipped.find? (.text group) = some g)
    (h : g.get? (.text name) = none) :
    firstLine (program host ["get", group, name]).stderr =
        "Error: " ++ unknownConstantMessage group name ↔
      SlashesShown name.toList ∧ HoldsNoPictograph host (unknownConstantMessage group name) := by
  have hplain := isPlainName_of_shipped hg
  have hget : Registry.shipped.get (.text group) (.text name) =
      .error (.unknownConstant (.text name) (.text group) g.names) := by
    rw [Registry.get_of_find? hg, h]
  have hline := (quotes_unknownConstant name hplain.bare g.names).firstLine_iff rfl hr
  have hmessage : unknownConstantMessage group name =
      (Failure.unknownConstant (.text name) (.text group) g.names).message := by
    show "Unknown constant " ++ (Value.text name).quoted ++ " in group '" ++ group ++ "'." =
      "Unknown constant " ++ (Value.text name).quoted ++ " in group " ++
        (Value.text group).quoted ++ "."
    rw [hplain.quoted]
    apply String.toList_inj.mp
    simp
  rw [program_get_of_error hplain.operand hn hget, hmessage]
  exact hline

/-- Text of the user's is shown as it is in the first line about a failed look-up if and only if
    every opening bracket right behind one of its backslashes opens a tag, and no code in the
    message names a pictograph.  This goes for the name of a group that is not there and for the
    name of a constant that its group lacks. -/
theorem unknown_name_shown_iff {host : Host} (hr : host.renderer = true) :
    (∀ group name : String, IsOperand group → IsOperand name →
      Registry.shipped.find? (.text group) = none →
      (firstLine (program host ["get", group, name]).stderr =
          "Error: " ++ unknownGroupMessage group ↔
        SlashesShown group.toList ∧ HoldsNoPictograph host (unknownGroupMessage group))) ∧
    ∀ (group name : String) (g : Group), IsOperand name →
      Registry.shipped.find? (.text group) = some g → g.get? (.text name) = none →
      (firstLine (program host ["get", group, name]).stderr =
          "Error: " ++ unknownConstantMessage group name ↔
        SlashesShown name.toList ∧ HoldsNoPictograph host (unknownConstantMessage group name)) :=
  ⟨fun _ _ hg hn h => firstLine_unknownGroup hr hg hn h,
    fun _ _ _ hn hg h => firstLine_unknownConstant hr hn hg h⟩

/-- Names with tags, also behind backslashes, and with codes that name no pictograph are shown as
    they are. -/
theorem unknown_name_shown_tags :
    Host.standard.renderer = true ∧
      firstLine (program .standard ["get", "a\\[/b][x:y:", "X"]).stderr =
        "Error: " ++ unknownGroupMessage "a\\[/b][x:y:" ∧
      firstLine (program .standard ["get", "ErrorCode", "\\\\[red]"]).stderr =
        "Error: " ++ unknownConstantMessage "ErrorCode" "\\\\[red]" := by
  have hr : Host.standard.renderer = true := rfl
  refine ⟨hr, ?_, ?_⟩
  · exact ((unknown_name_shown_iff hr).1 "a\\[/b][x:y:" "X" (by decide) (by decide)
      (by decide)).mpr (by decide +kernel)
  · exact ((unknown_name_shown_iff hr).2 "ErrorCode" "\\\\[red]" (Group.ofClass .errorCode)
      (by decide) rfl rfl).mpr (by decide +kernel)

/-- The backslash in front of an opening bracket that opens no tag is lost: two of them are
    quoted, one is shown. -/
theorem stray_slash_lost :
    Registry.shipped.find? (.text "\\[x") = none ∧
      firstLine (program .standard ["get", "\\[x", "X"]).stderr =
        "Error: Unknown constant group '\\[x'." ∧
      "Error: Unknown constant group '\\[x'." ≠ "Error: " ++ unknownGroupMessage "\\[x" := by
  have hfind : Registry.shipped.find? (.text "\\[x") = none := by decide
  refine ⟨hfind, ?_, by decide⟩
  have hget := Registry.get_of_not_find? hfind (.text "X")
  have hquotes := quotes_unknownGroup "\\[x" Registry.shipped.names
  rw [program_get_of_error (by decide) (by decide) hget, hquotes.firstLine_reportFailure rfl rfl]
  decide +kernel

end NamedConstants.CommandLine
