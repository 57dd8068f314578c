import NamedConstants.Proofs.Diagnostics
import NamedConstants.Proofs.FailureReports
import NamedConstants.Proofs.Markup.RoundTrip

/-!
# Texts in messages

The program escapes every text that it puts into a message.  Such a message renders without fault
and in the styles of its label only, and the text in it comes back as it is if and only if all its
backslashes in front of opening brackets are shown, none stands alone at its end and no code in it
names a pictograph (`escaped_text_exact`).
-/

namespace NamedConstants.CommandLine

open Markup (EndsInOneSlash Pictographs SlashesShown escapedCodes liveTags)

namespace Label

/-- The label of a problem of a registry. -/
def problem : Label := ⟨"  ", "red", "•", " "⟩

theorem isSound_problem : problem.IsSound :=
  ⟨by decide, Diagnostics.isStyle_red, by decide, Markup.isGap_space, List.all_eq_true.mp rfl⟩

/-- The tags of a label. -/
def tags (l : Label) : List (List Char) :=
  [l.style.toList, '/' :: l.style.toList]

end Label

/-- A text holds no control characters but line feeds. -/
def IsPlainText (s : String) : Prop :=
  ∀ c ∈ s.toList, Text.isControl c = false ∨ c = '\n'

instance (s : String) : Decidable (IsPlainText s) :=
  List.decidableBAll (fun c : Char => Text.isControl c = false ∨ c = '\n') s.toList

/-- The messages in which the program shows a text, with the label that it puts in front of it. -/
inductive Embeds (host : Host) (text : String) : String → Option Label → Prop where
  | alone : Embeds host text (Console.escape host text) none
  | error : Embeds host text (errorMessage host text) (some .error)
  | hint : Embeds host text (hintMessage host text) (some .hint)
  | unexpected (category : Category) :
      Embeds host text (unexpectedMessage host category.name text)
        (some (.unexpected category.name))
  | problem :
      Embeds host text ("  [red]•[/red] " ++ Console.escape host text) (some .problem)

/-- A text comes back from a message: no backslash of it is dropped or doubled, and no code in it
    is replaced. -/
structure ComesBack (p : Pictographs) (text : String) : Prop where
  slashesShown : SlashesShown text.toList
  notAlone : ¬EndsInOneSlash text.toList
  noPictograph : p.KnowsNone (escapedCodes text.toList)

theorem comesBack_iff (p : Pictographs) (text : String) :
    ComesBack p text ↔ Markup.shown p text.toList = text.toList := by
  rw [Markup.shown_eq_self_iff]
  exact ⟨fun h => ⟨h.slashesShown, h.notAlone, h.noPictograph⟩, fun ⟨hs, ha, hp⟩ => ⟨hs, ha, hp⟩⟩

instance (p : Pictographs) (text : String) : Decidable (ComesBack p text) :=
  decidable_of_iff _ (comesBack_iff p text).symm

/-- What becomes of a text in a message, given what stands in front of it. -/
structure RoundTrips (host : Host) (text message : String) (label : Option Label) : Prop where
  /-- No tag of the message is at fault, whatever styles are open. -/
  noFault : ∀ opened position,
    Markup.checkTags host.dialect opened position (Markup.tokens message.toList) = .ok ()
  /-- The message renders. -/
  renders : Markup.render host.dialect message.toList =
    .ok (label.elim [] Label.bare ++ Markup.shown host.dialect.pictographs text.toList)
  /-- It opens and closes the style of the label, and no other. -/
  tags : liveTags message.toList = label.elim [] Label.tags
  /-- The text itself is shown exactly if it comes back. -/
  exact : Markup.render host.dialect message.toList =
      .ok (label.elim [] Label.bare ++ text.toList) ↔ ComesBack host.dialect.pictographs text
  /-- So it is on the console. -/
  written : (Console.say host message).stderr =
      String.ofList (label.elim [] Label.bare ++ text.toList ++ ['\n']) ↔
    ComesBack host.dialect.pictographs text

section Embeds

variable {host : Host} {text message : String} {label : Option Label}

theorem Embeds.message_eq (h : Embeds host text message label) :
    message = String.ofList (label.elim [] Label.tagged) ++ Console.escape host text := by
  cases h with
  | alone => simp
  | error => exact errorMessage_eq host text
  | hint => exact hintMessage_eq host text
  | unexpected category => exact unexpectedMessage_eq host category.name text
  | problem =>
      have hlabel : Label.problem.tagged = "  [red]•[/red] ".toList := rfl
      rw [Option.elim_some, hlabel, String.ofList_toList]

theorem Embeds.isSound (h : Embeds host text message label) : ∀ l ∈ label, l.IsSound := by
  cases h with
  | alone => simp
  | error => simpa using Label.isSound_error
  | hint => simpa using Label.isSound_hint
  | unexpected category => simpa using Label.isSound_unexpected category
  | problem => simpa using Label.isSound_problem

theorem Embeds.toList_message (h : Embeds host text message label)
    (hr : host.renderer = true) :
    message.toList = label.elim [] Label.tagged ++ Markup.escape text.toList := by
  rw [h.message_eq, String.toList_append, String.toList_ofList, Console.escape_of_renderer hr,
    String.toList_ofList]

/-- No tag of a message is at fault, whatever styles are open. -/
theorem Embeds.checkTags_eq (h : Embeds host text message label) (hr : host.renderer = true)
    (opened : List Markup.Opened) (position : Nat) :
    Markup.checkTags host.dialect opened position (Markup.tokens message.toList) = .ok () := by
  rw [h.toList_message hr]
  cases label with
  | none => exact Markup.checkTags_of_live? (Markup.live?_of_mem_tokens_escape _) opened position
  | some l =>
      have hl := h.isSound l rfl
      exact Markup.checkTags_styled_escape hl.lead hl.style hl.words hl.gap _ opened position _

/-- A message renders to the words of its label and what is shown of the text. -/
theorem Embeds.render_eq (h : Embeds host text message label) (hr : host.renderer = true) :
    Markup.render host.dialect message.toList =
      .ok (label.elim [] Label.bare ++ Markup.shown host.dialect.pictographs text.toList) := by
  rw [h.toList_message hr]
  cases label with
  | none => exact Markup.render_escape host.dialect text.toList
  | some l =>
      have hl := h.isSound l rfl
      exact Markup.render_styled_escape hl.lead hl.style hl.words hl.gap host.dialect text.toList

theorem Embeds.liveTags_eq (h : Embeds host text message label) (hr : host.renderer = true) :
    liveTags message.toList = label.elim [] Label.tags := by
  rw [h.toList_message hr]
  cases label with
  | none => exact Markup.liveTags_escape text.toList
  | some l =>
      have hl := h.isSound l rfl
      exact Markup.liveTags_styled_escape hl.lead hl.style hl.words hl.gap _

/-- A message about a text without control characters is written as it is rendered. -/
theorem Embeds.stderr_say (h : Embeds host text message label) (hr : host.renderer = true)
    (hplain : IsPlainText text) :
    (Console.say host message).stderr =
      String.ofList (label.elim [] Label.bare ++
        Markup.shown host.dialect.pictographs text.toList ++ ['\n']) := by
  have hkept : ∀ c ∈ label.elim [] Label.bare ++ Markup.shown host.dialect.pictographs text.toList,
      Console.isKept c = true := by
    rw [List.forall_mem_append]
    constructor
    · cases label with
      | none => exact List.forall_mem_nil _
      | some l => exact (h.isSound l rfl).kept
    · apply Console.isKept_of_mem_shown
      intro c hc
      obtain hcontrol | rfl := hplain c hc
      · exact Console.isKept_of_not_isControl hcontrol
      · decide
  rw [Console.say_of_render hr (h.render_eq hr), Console.sanitize_of_kept hkept,
    Console.displayText_of_kept hkept]
  rfl

end Embeds

/-- Whatever text is put into a message, the message renders without fault and in the style of its
    label only.  It shows the text as it is if and only if every opening bracket right behind a
    backslash of the text opens a tag, the text does not end in exactly one backslash, and no code
    in the text names a pictograph. -/
theorem escaped_text_exact {host : Host} (hr : host.renderer = true) {text : String}
    (hplain : IsPlainText text) {message : String}
    {label : Option Label} (h : Embeds host text message label) :
    RoundTrips host text message label where
  noFault := h.checkTags_eq hr
  renders := h.render_eq hr
  tags := h.liveTags_eq hr
  exact := by
    rw [h.render_eq hr, Except.ok.injEq, List.append_cancel_left_eq, comesBack_iff]
  written := by
    rw [h.stderr_say hr hplain, String.ofList_inj, List.append_cancel_right_eq,
      List.append_cancel_left_eq, comesBack_iff]

/-- A text of two lines with tags, escaped ones among them, and two backslashes at its end comes
    back as it is, one with a backslash in front of a bracket that opens no tag does not. -/
theorem escaped_text_exact_tags :
    Host.standard.renderer = true ∧
      IsPlainText "[red]a\n\\[/red] [\\\\" ∧
      RoundTrips .standard "[red]a\n\\[/red] [\\\\"
        (errorMessage .standard "[red]a\n\\[/red] [\\\\") (some .error) ∧
      Markup.render Host.standard.dialect
          (errorMessage .standard "[red]a\n\\[/red] [\\\\").toList =
        .ok ("Error: ".toList ++ "[red]a\n\\[/red] [\\\\".toList) ∧
      RoundTrips .standard "\\[x" (Console.escape .standard "\\[x") none ∧
      Markup.render Host.standard.dialect (Console.escape .standard "\\[x").toList ≠
        .ok "\\[x".toList := by
  have hplain : IsPlainText "[red]a\n\\[/red] [\\\\" := by decide +kernel
  have hstray : IsPlainText "\\[x" := by decide +kernel
  have hhost : Host.standard.renderer = true := rfl
  have htagged := escaped_text_exact hhost hplain .error
  have halone := escaped_text_exact hhost hstray .alone
  refine ⟨hhost, hplain, htagged, ?_, halone, ?_⟩
  · exact htagged.exact.mpr (by decide +kernel)
  · intro hsame
    exact absurd (halone.exact.mp hsame) (by decide +kernel)

/-- A text that is a code holds neither brackets nor backslashes, and it is shown as the pictograph
    that it names. -/
theorem escaped_code_replaced :
    SlashesShown ":smile:".toList ∧ ¬EndsInOneSlash ":smile:".toList ∧
      Markup.render Host.standard.dialect (Console.escape .standard ":smile:").toList =
        .ok "😄".toList ∧
      (Console.say .standard (Console.escape .standard ":smile:")).stderr = "😄\n" := by
  have hrender : Markup.render Host.standard.dialect (Console.escape .standard ":smile:").toList =
      .ok "😄".toList := by
    decide +kernel
  refine ⟨by decide +kernel, by decide +kernel, hrender, ?_⟩
  rw [Console.say_of_render rfl hrender]
  decide +kernel

end NamedConstants.CommandLine
