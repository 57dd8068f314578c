import NamedConstants.Console
import NamedConstants.Proofs.Markup.StraySlashes
import NamedConstants.Proofs.Markup.Verbatim
import NamedConstants.Proofs.Run
import NamedConstants.Proofs.Text.Lines
import NamedConstants.Text.Printable

/-!
# Messages on the console

A message that holds escaped text behind text of the program's own is always written
(`say_styled_escape`), whatever the escaped text is.  Text without control characters, line feeds
apart, is written as it is (`displayText_of_kept`).
-/

namespace NamedConstants.Console

/-- Markup that renders is written as the text that it shows, on lines of its own. -/
theorem say_of_render {host : Host} (h : host.renderer = true) {s : String} {text : List Char}
    (hs : Markup.render host.dialect s.toList = .ok text) :
    say host s = Run.err (String.ofList (displayText (sanitize text) ++ ['\n'])) := by
  have hb : renderBlocks host.dialect [] [.text s] = .ok [sanitize text] := by
    simp [renderBlocks, renderValue, Value.asText?, renderMarkup, hs, isBlock, Text.joinWith, bind,
      Except.bind, Except.map, Except.mapError]
  simp [say, print, h, hb]

/-- Without the renderer a message is written as it is. -/
theorem say_of_not_renderer {host : Host} (h : host.renderer = false) (s : String) :
    say host s = Run.errLine s := by
  simp [say, print, h, Value.display]

theorem escape_of_renderer {host : Host} (h : host.renderer = true) (s : String) :
    escape host s = String.ofList (Markup.escape s.toList) := by
  simp [escape, h]

/-- Escaped text behind text in a style is written as the text that it shows. -/
theorem say_styled_escape {host : Host} (h : host.renderer = true) {front : String}
    {lead style text gap : List Char}
    (hf : front.toList = lead ++ Markup.styled style text ++ gap) (hl : Markup.IsWords lead)
    (hs : Markup.IsStyle style) (ht : Markup.IsWords text) (hg : Markup.IsGap gap) (s : String) :
    say host (front ++ escape host s) =
      Run.err (String.ofList
        (displayText (sanitize
          (lead ++ text ++ gap ++ Markup.shown host.dialect.pictographs s.toList)) ++ ['\n'])) := by
  apply say_of_render h
  rw [escape_of_renderer h, String.toList_append, String.toList_ofList, hf]
  exact Markup.render_styled_escape hl hs ht hg host.dialect s.toList

theorem escape_empty (host : Host) : escape host "" = "" := by
  cases h : host.renderer with
  | true => rw [escape_of_renderer h, String.toList_empty, Markup.escape_nil, String.ofList_nil]
  | false => simp [escape, h]

/-! ## Text that is written as it is -/

/-- The console writes a character as it is. -/
def isKept (c : Char) : Bool :=
  !(isDropped c || c == '\t')

/-- A character is kept if it passes a test that fails for all characters which are not. -/
theorem isKept_of_all {P : Char → Bool}
    (h : ['\x07', '\x08', '\x0b', '\x0c', '\r', '\t'].all (fun d => !P d) = true)
    {c : Char} (hc : P c = true) : isKept c = true := by
  cases hk : isKept c with
  | true => rfl
  | false =>
      have hmem : c ∈ ['\x07', '\x08', '\x0b', '\x0c', '\r', '\t'] := by
        simpa only [isKept, isDropped, Bool.not_eq_false', Bool.or_eq_true, beq_iff_eq, or_assoc,
          List.mem_cons, List.not_mem_nil, or_false] using hk
      have hfails := List.all_eq_true.mp h c hmem
      rw [hc] at hfails
      cases hfails

/-- Only control characters are not kept. -/
theorem isKept_of_not_isControl {c : Char} (h : Text.isControl c = false) : isKept c = true :=
  isKept_of_all (P := fun c => !Text.isControl c) rfl (by simp [h])

/-- What can be drawn is kept. -/
theorem isKept_of_isDrawn {c : Char} (h : Markup.isDrawn c = true) : isKept c = true :=
  isKept_of_not_isControl (Markup.isDrawn_iff.mp h).1

/-- What is shown of an escaped text is kept if the text is. -/
theorem isKept_of_mem_shown {p : Markup.Pictographs} {s : List Char}
    (hs : ∀ c ∈ s, isKept c = true) : ∀ c ∈ Markup.shown p s, isKept c = true := by
  intro c hc
  rcases Markup.mem_of_mem_shown hc with hc | rfl | hc
  · exact hs c hc
  · decide
  · exact isKept_of_isDrawn hc

theorem sanitize_of_kept {s : List Char} (h : ∀ c ∈ s, isKept c = true) : sanitize s = s := by
  rw [sanitize, List.filter_eq_self]
  intro c hc
  have hkept := h c hc
  simp only [isKept, Bool.not_eq_true', Bool.or_eq_false_iff] at hkept
  simp [hkept.1]

/-- Kept text is written as it is, also on several lines. -/
theorem displayText_of_kept {s : List Char} (h : ∀ c ∈ s, isKept c = true) :
    displayText s = s := by
  have htab : '\t' ∉ s := by
    intro hmem
    exact absurd (h _ hmem) (by decide)
  have hlines : displayLines s = Text.splitAtChar '\n' s := by
    rw [displayLines]
    apply (List.map_congr_left _).trans (List.map_id _)
    intro line hline
    exact Text.expandTabs_of_not_mem fun hmem => htab (Text.mem_of_mem_splitAtChar hline hmem)
  rw [displayText, hlines, Text.joinWith_splitAtChar]

theorem sanitize_of_isOneLine {s : List Char} (h : Text.IsOneLine s) : sanitize s = s := by
  apply sanitize_of_kept
  intro c hc
  exact isKept_of_not_isControl (h c hc).2

/-- A text of one line is written as it is. -/
theorem displayText_of_isOneLine {s : List Char} (h : Text.IsOneLine s) : displayText s = s :=
  displayText_of_kept fun c hc => isKept_of_not_isControl (h c hc).2

/-- Of a text of one line one line is shown. -/
theorem isOneLine_shown (p : Markup.Pictographs) {s : List Char} (h : Text.IsOneLine s) :
    Text.IsOneLine (Markup.shown p s) := by
  intro c hc
  obtain hc | rfl | hc := Markup.mem_of_mem_shown hc
  · exact h c hc
  · decide
  · obtain ⟨hcontrol, hend, -⟩ := Markup.isDrawn_iff.mp hc
    exact ⟨hend, hcontrol⟩

theorem displayLines_of_isOneLine {s : List Char} (h : Text.IsOneLine s) :
    displayLines s = [s] := by
  rw [displayLines, Text.splitAtChar_of_not_mem (h.not_mem (by decide)), List.map_singleton,
    Text.expandTabs_of_not_mem (h.not_mem (by decide))]

/-- An empty line is written on every host. -/
theorem print_nil (host : Host) : print host [] = Run.err "\n" := by
  unfold print
  split <;> rfl

theorem renderMarkup_of_render {d : Markup.Dialect} {s : String} {text : List Char}
    (h : Markup.render d s.toList = .ok text) : renderMarkup d s = .ok (sanitize text) := by
  rw [renderMarkup, h]
  rfl

/-- Without an opening bracket there is no markup but codes. -/
theorem renderMarkup_of_not_mem (d : Markup.Dialect) {s : String} (h : '[' ∉ s.toList) :
    renderMarkup d s = .ok (sanitize (d.pictographs.replace s.toList)) :=
  renderMarkup_of_render (Markup.render_of_isVerbatim d (Markup.isVerbatim_of_not_mem h))

/-- A text of one line renders to a text of one line. -/
theorem isOneLine_of_render {d : Markup.Dialect} {s text : List Char} (hs : Text.IsOneLine s)
    (h : Markup.render d s = .ok text) : Text.IsOneLine text := by
  intro c hc
  rcases Markup.mem_of_render h hc with hc | hc
  · exact hs c hc
  · obtain ⟨hcontrol, hend, -⟩ := Markup.isDrawn_iff.mp hc
    exact ⟨hend, hcontrol⟩

/-- A text of one line that renders is shown as what it renders to. -/
theorem renderMarkup_of_isOneLine {d : Markup.Dialect} {s : String} {text : List Char}
    (hs : Text.IsOneLine s.toList) (h : Markup.render d s.toList = .ok text) :
    renderMarkup d s = .ok text := by
  rw [renderMarkup_of_render h, sanitize_of_isOneLine (isOneLine_of_render hs h)]

theorem renderMarkup_of_fault {d : Markup.Dialect} {s : String} {fault : Markup.Fault}
    (h : Markup.render d s.toList = .error fault) :
    renderMarkup d s = .error (.markup fault) := by
  rw [renderMarkup, h]
  rfl

end NamedConstants.Console
