import NamedConstants.Proofs.Registry.Assembly
import NamedConstants.Proofs.Text.FirstLine

/-!
# Descriptions of groups

The snapshot of a class reads the line at index 0 of the trimmed documentation text, unless that
text is empty.  A text that is not empty has such a line, so reading it never fails
(`readDescription_eq`).  The description is the longest front part of the trimmed text without line
ends, which is empty only if the documentation text is missing or blank (`description_exact`).
-/

namespace NamedConstants

namespace GroupClass

/-! ## Reading the description -/

/-- The line of a text at an index, which must be in range. -/
def lineAt (index : Nat) (text : List Char) : Except Failure String :=
  match (Text.splitLines text)[index]? with
  | some line => .ok (String.ofList line)
  | none => .error (.outOfRange .list)

/-- The first line of the trimmed documentation text, unless nothing is left of that. -/
def readDescription (c : GroupClass) : Except Failure String :=
  let text := Text.trim (c.doc.getD "").toList
  if text.isEmpty then .ok "" else lineAt 0 text

/-- The snapshot of a class, which is not taken if its description cannot be read. -/
def snapshot (c : GroupClass) : Except Failure Group := do
  let description ← c.readDescription
  return ⟨.text c.name, .text description, c.members.map fun e => (.text e.1, e.2.value)⟩

variable {c : GroupClass} {doc : String}

theorem description_of_no_doc (h : c.doc = none) : c.description = "" := by
  rw [description, h]

theorem toList_description (h : c.doc = some doc) :
    c.description.toList = Text.untilLineEnd (Text.trim doc.toList) := by
  rw [description, h, String.toList_ofList, Text.headD_splitLines]

/-- The line that describes a class is always there. -/
theorem readDescription_eq (c : GroupClass) : c.readDescription = .ok c.description := by
  cases hdoc : c.doc with
  | none =>
      rw [readDescription, hdoc, description_of_no_doc hdoc]
      rfl
  | some doc =>
      rw [readDescription, hdoc, Option.getD_some]
      by_cases hne : Text.trim doc.toList = []
      · have hempty : c.description = "" := by
          rw [← String.toList_eq_nil_iff, toList_description hdoc, hne]
          rfl
        simp [hne, hempty]
      · obtain ⟨line, lines, hsplit, hline⟩ := exists_description_line hdoc hne
        simp [hne, lineAt, hsplit, hline]

theorem snapshot_eq (c : GroupClass) : c.snapshot = .ok (Group.ofClass c) := by
  rw [snapshot, readDescription_eq]
  rfl

/-! ## What the description is -/

/-- How a description is related to the documentation text that it is read off. -/
structure Describes (doc : Option String) (description : String) : Prop where
  /-- It is empty if and only if there is no text or nothing but blank characters in it. -/
  empty_iff : description = "" ↔
    ∀ text, doc = some text → ∀ c ∈ text.toList, Text.isBlank c = true
  /-- None of the characters that end a line is in it. -/
  noLineEnd : ∀ c ∈ Text.lineEnds, c ∉ description.toList
  /-- It is the longest front part without line ends of the text without the blank characters
      around it. -/
  longest : ∀ text, doc = some text →
    Text.IsTrimmed text.toList (Text.trim text.toList) ∧
      Text.IsFirstLine (Text.trim text.toList) description.toList
  /-- It starts with the first character of the text that is not blank. -/
  start : ∀ text, doc = some text →
    description.toList.head? = text.toList.find? fun c => !Text.isBlank c
  /-- It is the first line of the text that is not blank, apart from blank characters around it. -/
  firstFilled : ∀ text, doc = some text → description ≠ "" → ∃ before after,
    (Text.splitLines text.toList).find? Text.isFilled =
        some (before ++ description.toList ++ after) ∧
      (∀ c ∈ before, Text.isBlank c = true) ∧ ∀ c ∈ after, Text.isBlank c = true

theorem describes_none : Describes none "" where
  empty_iff := by simp
  noLineEnd := by simp
  longest := by simp
  start := by simp
  firstFilled := by simp

theorem describes_some {description : String}
    (h : description.toList = Text.untilLineEnd (Text.trim doc.toList)) :
    Describes (some doc) description := by
  have hfirst := Text.isFirstLine_untilLineEnd (Text.trim doc.toList)
  have hempty : description = "" ↔ ∀ c ∈ doc.toList, Text.isBlank c = true := by
    rw [← String.toList_eq_nil_iff, h, Text.untilLineEnd_trim_eq_nil_iff]
  constructor
  case empty_iff =>
    rw [hempty]
    simp
  case noLineEnd =>
    intro c hend hc
    rw [h] at hc
    exact hfirst.noLineEnd c hc hend
  case longest =>
    rintro _ ⟨⟩
    rw [h]
    exact ⟨Text.isTrimmed_trim _, hfirst⟩
  case start =>
    rintro _ ⟨⟩
    rw [h, Text.head?_untilLineEnd_trim]
  case firstFilled =>
    rintro _ ⟨⟩ hne
    have hfilled : ∃ c ∈ doc.toList, Text.isBlank c = false := by
      simpa using mt hempty.mpr hne
    rw [h]
    exact Text.exists_find?_splitLines hfilled

/-- Taking the snapshot of a class never fails, and it describes the class by the first line of
    its documentation text that is not blank. -/
theorem description_exact (c : GroupClass) :
    c.snapshot = .ok (Group.ofClass c) ∧
      (Group.ofClass c).description = .text c.description ∧ Describes c.doc c.description := by
  refine ⟨snapshot_eq c, rfl, ?_⟩
  cases hdoc : c.doc with
  | none =>
      rw [description_of_no_doc hdoc]
      exact describes_none
  | some doc => exact describes_some (toList_description hdoc)

/-- A description keeps the blank characters at its end if the text goes on behind them. -/
example :
    { errorCode with doc := some "\u2028 \r\n\x1c One.\u2003\r\n\tTwo.\x0b" }.description =
      "One.\u2003" := rfl

end GroupClass

end NamedConstants
