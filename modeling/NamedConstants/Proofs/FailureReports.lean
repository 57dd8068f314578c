import NamedConstants.Proofs.Boundary
import NamedConstants.Proofs.Listing
import NamedConstants.Proofs.Markup.RoundTrip
import NamedConstants.Proofs.UnknownNames

/-!
# Reports about failures

What the outermost layer tells the user are remarks: words of its own in a style, and the text of
the failure behind them.  The renderer shows the words without their tags; without it the tags are
written as well, so that the two reports about a failure are never the same, although they leave
the program with the same code (`reports_compared`).
-/

namespace NamedConstants

/-- The console writes the name of a kind of failure as it is. -/
theorem Category.isKept_of_mem_name (c : Category) :
    ∀ d ∈ c.name.toList, Console.isKept d = true := by
  cases c with
  | other name =>
      intro d hd
      exact Console.isKept_of_all rfl (List.all_eq_true.mp name.valid d hd)
  | _ => exact List.all_eq_true.mp rfl

namespace CommandLine

/-- Words of the program's own in a style. -/
structure Label where
  /-- What stands in front of the words. -/
  lead : String
  style : String
  words : String
  /-- What stands between the words and the text behind them. -/
  gap : String

namespace Label

/-- The label of a failure of this library's own. -/
def error : Label := ⟨"", "bold red", "Error:", " "⟩

/-- The label of what can be done about it. -/
def hint : Label := ⟨"", "yellow", "Hint:", " "⟩

/-- The label of any other failure. -/
def unexpected (kind : String) : Label :=
  ⟨"", "bold red", "Unexpected error.", " Please report this issue.\n  " ++ kind ++ ": "⟩

/-- The label of an interruption. -/
def interruption : Label := ⟨"\n", "yellow", "Aborted by user.", ""⟩

/-- A label as the user is to read it. -/
def bare (l : Label) : List Char :=
  l.lead.toList ++ l.words.toList ++ l.gap.toList

/-- A label with the tags of its style. -/
def tagged (l : Label) : List Char :=
  l.lead.toList ++ Markup.styled l.style.toList l.words.toList ++ l.gap.toList

/-- Rendering a label takes out the tags of its style and nothing else. -/
structure IsSound (l : Label) : Prop where
  lead : Markup.IsWords l.lead.toList
  style : Markup.IsStyle l.style.toList
  words : Markup.IsWords l.words.toList
  gap : Markup.IsGap l.gap.toList
  kept : ∀ c ∈ l.bare, Console.isKept c = true

theorem isSound_error : error.IsSound :=
  ⟨by decide, isStyle_boldRed, by decide, Markup.isGap_space, List.all_eq_true.mp rfl⟩

theorem isSound_hint : hint.IsSound :=
  ⟨by decide, isStyle_yellow, by decide, Markup.isGap_space, List.all_eq_true.mp rfl⟩

theorem isSound_interruption : interruption.IsSound :=
  ⟨by decide, isStyle_yellow, by decide, Markup.isGap_of_inert (by decide) (by decide),
    List.all_eq_true.mp rfl⟩

theorem isSound_unexpected (category : Category) : (unexpected category.name).IsSound := by
  have hgap : (unexpected category.name).gap.toList =
      " Please report this issue.\n  ".toList ++ (category.name.toList ++ ": ".toList) := by
    simp [unexpected]
  have hwords : (unexpected category.name).words = "Unexpected error." := rfl
  have hlead : (unexpected category.name).lead = "" := rfl
  refine ⟨?_, isStyle_boldRed, ?_, ?_, ?_⟩
  · rw [hlead]
    decide
  · rw [hwords]
    decide
  · rw [hgap]
    exact category.isGap_report
  · rw [bare, hlead, hwords, hgap]
    simp only [List.forall_mem_append]
    refine ⟨?_, ?_, category.isKept_of_mem_name, ?_⟩
    · exact ⟨by simp, List.all_eq_true.mp rfl⟩
    · exact List.all_eq_true.mp rfl
    · exact List.all_eq_true.mp rfl

/-- The tags add opening brackets. -/
theorem countP_bare_lt (l : Label) :
    l.bare.countP Markup.isMark + 1 < l.tagged.countP Markup.isMark := by
  have hopen : Markup.isMark '[' = true := rfl
  simp only [bare, tagged, Markup.styled, Markup.Token.source, List.countP_append,
    List.countP_cons, hopen, if_true]
  omega

end Label

/-- A text behind a label. -/
structure Remark where
  label : Label
  text : String

namespace Remark

/-- A remark as the user is to read it. -/
def bare (m : Remark) : List Char :=
  m.label.bare ++ m.text.toList ++ ['\n']

/-- A remark with the tags of its label. -/
def tagged (m : Remark) : List Char :=
  m.label.tagged ++ m.text.toList ++ ['\n']

/-- A remark with what escaping and rendering make of its text. -/
def rendered (p : Markup.Pictographs) (m : Remark) : List Char :=
  m.label.bare ++ Markup.shown p m.text.toList ++ ['\n']

/-- Makes a remark. -/
def tell (host : Host) (m : Remark) : Run Unit :=
  Console.say host (String.ofList m.label.tagged ++ Console.escape host m.text)

/-- The text holds no control characters. -/
def IsPlain (m : Remark) : Prop :=
  ∀ c ∈ m.text.toList, Text.isControl c = false

variable {m : Remark}

theorem tell_of_not_renderer {host : Host} (h : host.renderer = false) (m : Remark) :
    tell host m = Run.err (String.ofList m.tagged) := by
  have hescape : Console.escape host m.text = m.text := by simp [Console.escape, h]
  have htext : String.ofList m.label.tagged ++ m.text =
      String.ofList (m.label.tagged ++ m.text.toList) := by
    rw [String.ofList_append, String.ofList_toList]
  rw [tell, hescape, Console.say_of_not_renderer h, htext, Run.errLine_ofList, tagged]

theorem tell_of_renderer {host : Host} (h : host.renderer = true) (hl : m.label.IsSound)
    (hplain : m.IsPlain) :
    tell host m = Run.err (String.ofList (m.rendered host.dialect.pictographs)) := by
  have hall : ∀ c ∈ m.label.bare ++ Markup.shown host.dialect.pictographs m.text.toList,
      Console.isKept c = true := by
    refine List.forall_mem_append.mpr ⟨hl.kept, Console.isKept_of_mem_shown ?_⟩
    exact fun c hc => Console.isKept_of_not_isControl (hplain c hc)
  have hsay := Console.say_styled_escape h (String.toList_ofList (l := m.label.tagged)) hl.lead
    hl.style hl.words hl.gap m.text
  rw [← Label.bare, Console.sanitize_of_kept hall, Console.displayText_of_kept hall] at hsay
  exact hsay

theorem countP_bare_lt (m : Remark) :
    m.bare.countP Markup.isMark < m.tagged.countP Markup.isMark := by
  have hlabel := m.label.countP_bare_lt
  simp only [bare, tagged, List.countP_append]
  omega

/-- The tags add more marks than escaping could. -/
theorem countP_rendered_lt (p : Markup.Pictographs) (m : Remark) :
    (m.rendered p).countP Markup.isMark < m.tagged.countP Markup.isMark := by
  have hlabel := m.label.countP_bare_lt
  have hshown := Markup.countP_isMark_shown_le p m.text.toList
  simp only [rendered, tagged, List.countP_append]
  omega

/-- Remarks are rendered as the user is to read them if and only if all their texts are shown as
    they are. -/
theorem flatMap_rendered_iff (p : Markup.Pictographs) {ms : List Remark}
    (h : ∀ m ∈ ms, m.IsPlain) :
    ms.flatMap (rendered p) = ms.flatMap bare ↔
      ∀ m ∈ ms, Markup.shown p m.text.toList = m.text.toList := by
  induction ms with
  | nil => simp
  | cons m ms ih =>
      obtain ⟨hm, hms⟩ := List.forall_mem_cons.mp h
      have htext : '\n' ∉ m.text.toList := by
        intro hc
        exact absurd (hm _ hc) (by decide)
      have hshown : '\n' ∉ Markup.shown p m.text.toList := by
        intro hc
        rcases Markup.mem_of_mem_shown hc with hc | hc | hc
        · exact htext hc
        · exact absurd hc (by decide)
        · exact absurd hc (by decide)
      rw [List.forall_mem_cons, ← ih hms, List.flatMap_cons, List.flatMap_cons]
      simp only [rendered, bare, List.append_assoc, List.append_cancel_left_eq]
      constructor
      · exact Text.firstLine_inj hshown htext
      · rintro ⟨hfirst, hrest⟩
        rw [hfirst, hrest]

end Remark

/-! ## Reports -/

/-- What the user is told about a failure: the message and the hint, if there is one that is not
    empty, or that the failure was not expected. -/
def remarks (failure : Failure) : List Remark :=
  if failure.category.isOwn then
    ⟨.error, failure.message⟩ :: match failure.hint with
      | none => []
      | some hint => if hint.isEmpty then [] else [⟨.hint, hint⟩]
  else [⟨.unexpected failure.category.name, failure.message⟩]

/-- The code with which a failure leaves the program. -/
def exitCode (failure : Failure) : Int :=
  if failure.category.isOwn then generalError else unexpectedError

/-- Makes remarks and leaves. -/
def report (host : Host) (ms : List Remark) (code : Int) : Run Unit :=
  (Run.each (Remark.tell host) ms).bind fun _ => Run.exit code

/-! ### The remarks that are made -/

section Tell

variable (host : Host)

theorem errorMessage_eq (text : String) :
    errorMessage host text = String.ofList Label.error.tagged ++ Console.escape host text := by
  have hlabel : Label.error.tagged = "[bold red]Error:[/bold red] ".toList := rfl
  unfold errorMessage
  rw [hlabel, String.ofList_toList]

theorem hintMessage_eq (hint : String) :
    hintMessage host hint = String.ofList Label.hint.tagged ++ Console.escape host hint := by
  have hlabel : Label.hint.tagged = "[yellow]Hint:[/yellow] ".toList := rfl
  unfold hintMessage
  rw [hlabel, String.ofList_toList]

theorem unexpectedMessage_eq (kind text : String) :
    unexpectedMessage host kind text =
      String.ofList (Label.unexpected kind).tagged ++ Console.escape host text := by
  have hopen : "[bold red]Unexpected error.[/bold red] Please report this issue.\n  ".toList =
      Markup.styled "bold red".toList "Unexpected error.".toList ++
        " Please report this issue.\n  ".toList := rfl
  have hlabel : (Label.unexpected kind).tagged =
      ("[bold red]Unexpected error.[/bold red] Please report this issue.\n  " ++ kind ++
        ": ").toList := by
    simp only [Label.tagged, Label.unexpected, String.toList_append, hopen, String.toList_empty,
      List.nil_append, List.append_assoc]
  unfold unexpectedMessage
  rw [hlabel, String.ofList_toList]

theorem say_errorMessage_eq (text : String) :
    Console.say host (errorMessage host text) = Remark.tell host ⟨.error, text⟩ := by
  rw [errorMessage_eq, Remark.tell]

theorem say_hintMessage_eq (hint : String) :
    Console.say host (hintMessage host hint) = Remark.tell host ⟨.hint, hint⟩ := by
  rw [hintMessage_eq, Remark.tell]

theorem say_unexpectedMessage_eq (kind text : String) :
    Console.say host (unexpectedMessage host kind text) =
      Remark.tell host ⟨.unexpected kind, text⟩ := by
  rw [unexpectedMessage_eq, Remark.tell]

theorem say_interruption_eq :
    Console.say host "\n[yellow]Aborted by user.[/yellow]" =
      Remark.tell host ⟨.interruption, ""⟩ := by
  have hlabel : Label.interruption.tagged = "\n[yellow]Aborted by user.[/yellow]".toList := rfl
  rw [Remark.tell, hlabel, String.ofList_toList, Console.escape_empty, String.append_empty]

theorem reportFailure_eq (failure : Failure) :
    reportFailure host failure = report host (remarks failure) (exitCode failure) := by
  unfold reportFailure report remarks exitCode
  split
  · rw [say_errorMessage_eq]
    cases failure.hint with
    | none => simp [Run.each, Run.bind_assoc]
    | some hint =>
        by_cases hempty : hint.isEmpty = true
        · simp [hempty, Run.each, Run.bind_assoc]
        · simp [hempty, Run.each, Run.bind_assoc, say_hintMessage_eq]
  · simp [Run.each, Run.bind_assoc, say_unexpectedMessage_eq]

theorem reportInterruption_eq :
    reportInterruption host = report host [⟨.interruption, ""⟩] interruption := by
  simp [reportInterruption, report, Run.each, Run.bind_assoc, say_interruption_eq]

end Tell

theorem isSound_remarks (failure : Failure) : ∀ m ∈ remarks failure, m.label.IsSound := by
  intro m hm
  unfold remarks at hm
  split at hm
  · rcases List.mem_cons.mp hm with rfl | hm
    · exact Label.isSound_error
    · split at hm
      · cases hm
      · split at hm
        · cases hm
        · rw [List.mem_singleton.mp hm]
          exact Label.isSound_hint
  · rw [List.mem_singleton.mp hm]
    exact Label.isSound_unexpected failure.category

/-- The text of a remark about a failure is its message or its hint. -/
theorem text_of_mem_remarks {failure : Failure} {m : Remark} (h : m ∈ remarks failure) :
    m.text = failure.message ∨ failure.hint = some m.text := by
  unfold remarks at h
  split at h
  · rcases List.mem_cons.mp h with rfl | h
    · exact Or.inl rfl
    · split at h
      · cases h
      · rename_i hint hhint
        split at h
        · cases h
        · rw [List.mem_singleton.mp h]
          exact Or.inr hhint
  · rw [List.mem_singleton.mp h]
    exact Or.inl rfl

theorem remarks_ne_nil (failure : Failure) : remarks failure ≠ [] := by
  unfold remarks
  split <;> simp

section Report

variable {ms : List Remark} {code : Int}

theorem report_of_not_renderer {host : Host} (h : host.renderer = false) (ms : List Remark)
    (code : Int) :
    report host ms code = ⟨"", String.ofList (ms.flatMap Remark.tagged), .exited (.int code)⟩ := by
  rw [report, Run.each_err fun m _ => Remark.tell_of_not_renderer h m, Run.err_bind]
  simp [Run.exit]

theorem report_of_renderer {host : Host} (h : host.renderer = true)
    (hsound : ∀ m ∈ ms, m.label.IsSound) (hplain : ∀ m ∈ ms, m.IsPlain) (code : Int) :
    report host ms code =
      ⟨"", String.ofList (ms.flatMap (Remark.rendered host.dialect.pictographs)),
        .exited (.int code)⟩ := by
  rw [report, Run.each_err fun m hm => Remark.tell_of_renderer h (hsound m hm) (hplain m hm),
    Run.err_bind]
  simp [Run.exit]

theorem countP_flatMap_lt {q : Char → Bool} {f g : Remark → List Char} (hne : ms ≠ [])
    (h : ∀ m : Remark, (f m).countP q < (g m).countP q) :
    (ms.flatMap f).countP q < (ms.flatMap g).countP q := by
  induction ms with
  | nil => exact absurd rfl hne
  | cons m ms ih =>
      have hm := h m
      simp only [List.flatMap_cons, List.countP_append]
      by_cases hms : ms = []
      · subst hms
        simpa using hm
      · have hrest := ih hms
        omega

/-- What the report on a host with the renderer and that on a host without have to do with each
    other, and with what the user is to read. -/
structure ReportsCompare (p : Markup.Pictographs) (rich plain : Run Unit) (ms : List Remark)
    (code : Int) : Prop where
  /-- Both leave the program with the same code. -/
  exits : rich.ending = .exited (.int code) ∧ plain.ending = .exited (.int code)
  silent : rich.stdout = "" ∧ plain.stdout = ""
  /-- The renderer takes out the tags, and with them the backslashes that escaping does not
      protect, and puts pictographs in for codes. -/
  rich_stderr : rich.stderr = String.ofList (ms.flatMap (Remark.rendered p))
  /-- So the user reads what is meant if and only if no text has a backslash in front of an opening
      bracket that opens no tag, one alone at its end, or a code of a pictograph. -/
  rich_iff : rich.stderr = String.ofList (ms.flatMap Remark.bare) ↔
    ∀ m ∈ ms, Markup.SlashesShown m.text.toList ∧ ¬Markup.EndsInOneSlash m.text.toList ∧
      p.KnowsNone (Markup.escapedCodes m.text.toList)
  rich_of_not_mem :
    (∀ m ∈ ms, '\\' ∉ m.text.toList ∧ p.KnowsNone (Markup.escapedCodes m.text.toList)) →
      rich.stderr = String.ofList (ms.flatMap Remark.bare)
  /-- Without the renderer the tags stay, so that the user never reads what is meant. -/
  plain_stderr : plain.stderr = String.ofList (ms.flatMap Remark.tagged)
  plain_ne : plain.stderr ≠ String.ofList (ms.flatMap Remark.bare)
  differ : rich.stderr ≠ plain.stderr

theorem reportsCompare {rich plain : Host} (hr : rich.renderer = true)
    (hp : plain.renderer = false) (hne : ms ≠ []) (hsound : ∀ m ∈ ms, m.label.IsSound)
    (hplain : ∀ m ∈ ms, m.IsPlain) (code : Int) :
    ReportsCompare rich.dialect.pictographs (report rich ms code) (report plain ms code) ms
      code := by
  rw [report_of_renderer hr hsound hplain, report_of_not_renderer hp]
  have hiff : String.ofList (ms.flatMap (Remark.rendered rich.dialect.pictographs)) =
      String.ofList (ms.flatMap Remark.bare) ↔
      ∀ m ∈ ms, Markup.SlashesShown m.text.toList ∧ ¬Markup.EndsInOneSlash m.text.toList ∧
        rich.dialect.pictographs.KnowsNone (Markup.escapedCodes m.text.toList) := by
    rw [String.ofList_inj, Remark.flatMap_rendered_iff _ hplain]
    exact forall₂_congr fun m _ => Markup.shown_eq_self_iff _ _
  refine ⟨⟨rfl, rfl⟩, ⟨rfl, rfl⟩, rfl, hiff, ?_, rfl, ?_, ?_⟩
  · intro hslash
    refine hiff.mpr fun m hm => ?_
    obtain ⟨hnone, hcodes⟩ := hslash m hm
    exact ⟨Markup.slashesShown_of_not_mem hnone, Markup.not_endsInOneSlash_of_not_mem hnone, hcodes⟩
  · intro heq
    have hlt := countP_flatMap_lt hne Remark.countP_bare_lt
    rw [← String.ofList_inj.mp heq] at hlt
    exact Nat.lt_irrefl _ hlt
  · intro heq
    have hlt := countP_flatMap_lt hne (Remark.countP_rendered_lt rich.dialect.pictographs)
    rw [← String.ofList_inj.mp heq] at hlt
    exact Nat.lt_irrefl _ hlt

end Report

/-! ## Failed look-ups -/

/-- A command asks for a group or a constant that is not there. -/
inductive LookupFails : Command → Failure → Prop where
  | get {group name : String} {failure : Failure}
      (h : Registry.shipped.get (.text group) (.text name) = .error failure) :
      LookupFails (.get group name) failure
  | getUnnamed {group : String} {failure : Failure}
      (h : Registry.shipped.get (.text group) (.list []) = .error failure) :
      LookupFails (.getUnnamed group) failure
  | list {group : String} {asJson : Bool} {failure : Failure}
      (h : Registry.shipped.group (.text group) = .error failure) :
      LookupFails (.list (some group) asJson) failure

section LookupFails

variable {command : Command} {failure : Failure}

/-- A failed look-up ends a command before it writes anything. -/
theorem LookupFails.perform_eq (h : LookupFails command failure) (host : Host) :
    perform host command = Run.fail failure := by
  cases h with
  | get h => exact Listing.get_of_error h
  | getUnnamed h => exact Listing.get_of_error h
  | @list group asJson _ h =>
      have hsel : Registry.shipped.select (some (.text group)) = .error failure := by
        rw [Registry.select, h]
        rfl
      exact Listing.list_of_error hsel host asJson

theorem isPrintable_of_mem_quoted (s : String) :
    ∀ c ∈ (Value.text s).quoted.toList, Text.isPrintable c = true := by
  intro c hc
  rw [quoted_toList] at hc
  exact Text.isPrintable_of_mem_quote c hc

/-- There is no constant of a name if the group is missing, or if it is a shipped group without
    that constant. -/
theorem unknown_of_get_error {group : String} {name : Value}
    (h : Registry.shipped.get (.text group) name = .error failure) :
    failure = .unknownGroup (.text group) Registry.shipped.names ∨
      ∃ c ∈ GroupClass.shippedGroups,
        failure = .unknownConstant name (.text c.name) (Group.ofClass c).names := by
  cases hfind : Registry.shipped.find? (.text group) with
  | none =>
      rw [Registry.get_of_not_find? hfind] at h
      exact Or.inl (Except.error.inj h).symm
  | some g =>
      obtain ⟨c, hc, rfl, rfl⟩ := exists_shipped_of_find? hfind
      rw [Registry.get_of_find? hfind] at h
      cases hget : (Group.ofClass c).get? name with
      | none =>
          rw [hget] at h
          exact Or.inr ⟨c, hc, (Except.error.inj h).symm⟩
      | some value =>
          rw [hget] at h
          cases h

/-- A look-up fails for want of the group, or of a constant of a shipped group; what is asked for
    has a printable quoted form. -/
theorem LookupFails.failure_eq (h : LookupFails command failure) :
    (∃ group : String, failure = .unknownGroup (.text group) Registry.shipped.names) ∨
      ∃ c ∈ GroupClass.shippedGroups, ∃ name : Value,
        (∀ d ∈ name.quoted.toList, Text.isPrintable d = true) ∧
          failure = .unknownConstant name (.text c.name) (Group.ofClass c).names := by
  cases h with
  | @get group name _ h =>
      obtain hgroup | ⟨c, hc, hconstant⟩ := unknown_of_get_error h
      · exact Or.inl ⟨group, hgroup⟩
      · exact Or.inr ⟨c, hc, _, isPrintable_of_mem_quoted name, hconstant⟩
  | @getUnnamed group _ h =>
      obtain hgroup | ⟨c, hc, hconstant⟩ := unknown_of_get_error h
      · exact Or.inl ⟨group, hgroup⟩
      · exact Or.inr ⟨c, hc, _, List.all_eq_true.mp (by decide +kernel), hconstant⟩
  | @list group _ _ h =>
      cases hfind : Registry.shipped.find? (.text group) with
      | none =>
          rw [Registry.group_of_not_find? hfind] at h
          exact Or.inl ⟨group, (Except.error.inj h).symm⟩
      | some g =>
          rw [Registry.group_of_find? hfind] at h
          cases h

theorem LookupFails.exitCode_eq (h : LookupFails command failure) :
    exitCode failure = generalError := by
  rcases h.failure_eq with ⟨group, rfl⟩ | ⟨c, -, name, -, rfl⟩
  · rfl
  · rfl

/-- The message about a failed look-up quotes what was asked for, and its hint names what is
    there. -/
theorem LookupFails.isPrintable (h : LookupFails command failure) :
    ∀ m ∈ remarks failure, ∀ c ∈ m.text.toList, Text.isPrintable c = true := by
  intro m hm
  rcases h.failure_eq with ⟨group, rfl⟩ | ⟨c, hc, name, hname, rfl⟩
  · rcases text_of_mem_remarks hm with htext | hhint
    · have hmessage : m.text = "Unknown constant group " ++ (Value.text group).quoted ++ "." := htext
      rw [hmessage, String.toList_append, String.toList_append]
      refine List.forall_mem_append.mpr ⟨List.forall_mem_append.mpr ⟨?_, ?_⟩, ?_⟩
      · exact List.all_eq_true.mp (by decide +kernel)
      · exact isPrintable_of_mem_quoted group
      · exact List.all_eq_true.mp (by decide +kernel)
    · have hnames : knownNames "groups" (Registry.shipped.names.map Value.display) = m.text :=
        Option.some.inj hhint
      rw [← hnames]
      exact List.all_eq_true.mp (by decide +kernel)
  · rcases text_of_mem_remarks hm with htext | hhint
    · have hmessage : m.text = "Unknown constant " ++ name.quoted ++ " in group " ++
          (Value.text c.name).quoted ++ "." := htext
      rw [hmessage]
      simp only [String.toList_append, List.forall_mem_append]
      refine ⟨⟨⟨⟨?_, hname⟩, ?_⟩, isPrintable_of_mem_quoted c.name⟩, ?_⟩
      · exact List.all_eq_true.mp (by decide +kernel)
      · exact List.all_eq_true.mp (by decide +kernel)
      · exact List.all_eq_true.mp (by decide +kernel)
    · have hnames : knownNames (c.name ++ " constants")
          ((Group.ofClass c).names.map Value.display) = m.text := Option.some.inj hhint
      have hshipped : ∀ c ∈ GroupClass.shippedGroups,
          (knownNames (c.name ++ " constants")
            ((Group.ofClass c).names.map Value.display)).toList.all Text.isPrintable = true := by
        decide +kernel
      rw [← hnames]
      exact List.all_eq_true.mp (hshipped c hc)

theorem LookupFails.isPlain (h : LookupFails command failure) :
    ∀ m ∈ remarks failure, m.IsPlain := by
  intro m hm c hc
  exact Text.isControl_of_isPrintable (h.isPrintable m hm c hc)

end LookupFails

theorem atBoundary_fail (host : Host) (failure : Failure) :
    atBoundary host (Run.fail failure) = report host (remarks failure) (exitCode failure) := by
  rw [← reportFailure_eq]
  simp [atBoundary, Run.fail]

theorem atBoundary_interrupted (host : Host) :
    atBoundary host ⟨"", "", .interrupted⟩ = report host [⟨.interruption, ""⟩] interruption := by
  rw [← reportInterruption_eq]
  simp [atBoundary]

/-- A look-up that fails leaves the program with its report and nothing else. -/
theorem program_of_lookupFails {arguments : List String} {command : Command} {failure : Failure}
    (hcommand : readCommand arguments = .ok command) (h : LookupFails command failure)
    (host : Host) : program host arguments = report host (remarks failure) generalError := by
  rw [program, run, hcommand, ← h.exitCode_eq, ← atBoundary_fail, ← h.perform_eq host]

/-- The reports on a host with the renderer and on one without leave the program with the same
    code, but are never the same text.  This goes for every failure whose message and hint hold
    no control characters, for an interruption, and for every command line whose look-up fails.
    With the renderer a text is read as it is unless it has codes of pictographs or backslashes that
    escaping does not protect; without it the tags of the program's own stand around its words. -/
theorem reports_compared {rich plain : Host} (hr : rich.renderer = true)
    (hp : plain.renderer = false) :
    (∀ failure, (∀ m ∈ remarks failure, m.IsPlain) →
      ReportsCompare rich.dialect.pictographs (atBoundary rich (Run.fail failure))
        (atBoundary plain (Run.fail failure)) (remarks failure) (exitCode failure)) ∧
    ReportsCompare rich.dialect.pictographs (atBoundary rich ⟨"", "", .interrupted⟩)
      (atBoundary plain ⟨"", "", .interrupted⟩) [⟨.interruption, ""⟩] interruption ∧
    ∀ arguments command failure, readCommand arguments = .ok command →
      LookupFails command failure →
        ReportsCompare rich.dialect.pictographs (program rich arguments) (program plain arguments)
          (remarks failure) generalError := by
  refine ⟨?_, ?_, ?_⟩
  · intro failure hplain
    rw [atBoundary_fail, atBoundary_fail]
    exact reportsCompare hr hp (remarks_ne_nil failure) (isSound_remarks failure) hplain _
  · rw [atBoundary_interrupted, atBoundary_interrupted]
    apply reportsCompare hr hp (List.cons_ne_nil _ _)
    · exact List.forall_mem_singleton.mpr Label.isSound_interruption
    · exact List.forall_mem_singleton.mpr (by simp [Remark.IsPlain])
  · intro arguments command failure hcommand hfails
    rw [program_of_lookupFails hcommand hfails, program_of_lookupFails hcommand hfails]
    exact reportsCompare hr hp (remarks_ne_nil failure) (isSound_remarks failure) hfails.isPlain _

/-- The standard host without the renderer. -/
def bareHost : Host := { Host.standard with renderer := false }

/-- The reports about a failure of another kind with brackets in its message, and about a constant
    that is not there. -/
theorem reports_compared_standard :
    Host.standard.renderer = true ∧ bareHost.renderer = false ∧
      (∀ m ∈ remarks (.given .runtime "a[b]" none), m.IsPlain) ∧
      ReportsCompare Host.somePictographs
        (atBoundary .standard (Run.fail (.given .runtime "a[b]" none)))
        (atBoundary bareHost (Run.fail (.given .runtime "a[b]" none)))
        (remarks (.given .runtime "a[b]" none)) 2 ∧
      ∃ failure, LookupFails (.get "ErrorCode" "X") failure ∧
        ReportsCompare Host.somePictographs (program .standard ["get", "ErrorCode", "X"])
          (program bareHost ["get", "ErrorCode", "X"]) (remarks failure) 1 := by
  have hrich : Host.standard.renderer = true := rfl
  have hbare : bareHost.renderer = false := rfl
  obtain ⟨hfailures, -, hlookups⟩ := reports_compared hrich hbare
  have hplain : ∀ m ∈ remarks (.given .runtime "a[b]" none), m.IsPlain := by
    have hremarks : remarks (.given .runtime "a[b]" none) =
        [⟨.unexpected "RuntimeError", "a[b]"⟩] := rfl
    rw [hremarks]
    exact List.forall_mem_singleton.mpr (Text.isControl_of_all rfl)
  have hcommand : readCommand ["get", "ErrorCode", "X"] = .ok (.get "ErrorCode" "X") :=
    readCommand_get (by decide) (by decide)
  have hfails : LookupFails (.get "ErrorCode" "X")
      (.unknownConstant (.text "X") (.text "ErrorCode") (Group.ofClass .errorCode).names) := by
    refine .get ?_
    rw [Registry.get_of_find? (g := Group.ofClass .errorCode) (by rfl)]
    rfl
  exact ⟨hrich, hbare, hplain, hfailures _ hplain, _, hfails, hlookups _ _ _ hcommand hfails⟩

/-- Without the renderer the tags of the program's own are visible, so that the report about a
    failed look-up is another text than with it. -/
theorem tags_shown_without_renderer :
    (program .standard ["get", "Nope", "X"]).stderr =
        "Error: Unknown constant group 'Nope'.\n" ++
          "Hint: Known groups: TestConstants, ErrorCode, FileExtension\n" ∧
      (program bareHost ["get", "Nope", "X"]).stderr =
        "[bold red]Error:[/bold red] Unknown constant group 'Nope'.\n" ++
          "[yellow]Hint:[/yellow] Known groups: TestConstants, ErrorCode, FileExtension\n" ∧
      (program .standard ["get", "Nope", "X"]).stderr ≠
        (program bareHost ["get", "Nope", "X"]).stderr := by
  have hcommand : readCommand ["get", "Nope", "X"] = .ok (.get "Nope" "X") :=
    readCommand_get (by decide) (by decide)
  have hfails : LookupFails (.get "Nope" "X")
      (.unknownGroup (.text "Nope") Registry.shipped.names) :=
    .get (Registry.get_of_not_find? (by decide) _)
  have hcompare : ReportsCompare _ (report .standard _ _) (report bareHost _ _) _ _ :=
    reportsCompare rfl rfl (remarks_ne_nil _) (isSound_remarks _) hfails.isPlain generalError
  rw [program_of_lookupFails hcommand hfails, program_of_lookupFails hcommand hfails]
  refine ⟨?_, ?_, hcompare.differ⟩
  · rw [hcompare.rich_stderr]
    apply String.toList_inj.mp
    decide +kernel
  · rw [hcompare.plain_stderr]
    apply String.toList_inj.mp
    decide +kernel

end CommandLine

end NamedConstants
