import NamedConstants.Text.Blank
import NamedConstants.Text.LowerCase
import NamedConstants.Text.Printable

/-!
# Pictographs

A text may hold codes: a colon, characters that are neither colons nor blank, and a colon.  A
code that names a pictograph is replaced by it, and any other code is shown as it is written.
Names go without case.  At the end of a code the form of the pictograph may be asked for, which a
character behind it selects.

Which pictographs there are is a matter of the renderer (`Pictographs`).
-/

namespace NamedConstants.Markup

/-- Whether a character takes part in markup or in codes. -/
def isMark (c : Char) : Bool :=
  c == '[' || c == '\\' || c == ':'

/-- Whether a character can be drawn: it neither moves the cursor nor means anything else. -/
def isDrawn (c : Char) : Bool :=
  !(Text.isControl c || Text.isLineEnd c || isMark c)

/-- A table of pictographs. -/
structure Pictographs where
  /-- The names with the pictographs that they stand for. -/
  entries : List (String × String)
  /-- Each pictograph is made of characters that can be drawn. -/
  drawn : (entries.all fun e => e.2.toList.all isDrawn) = true

/-- A piece of a text with codes. -/
inductive Sign where
  /-- A character outside all codes. -/
  | plain (c : Char)
  /-- A code, by what stands between its colons. -/
  | code (name : List Char)
  deriving DecidableEq, Repr

/-- The characters that a sign is written with. -/
def Sign.source : Sign → List Char
  | .plain c => [c]
  | .code name => ':' :: name ++ [':']

/-- Cuts a text into signs, given what stands in front of it behind a colon that may open a
    code. -/
def signsBehind : Option (List Char) → List Char → List Sign
  | none, [] => []
  | some name, [] => (':' :: name).map .plain
  | none, c :: rest =>
      if c = ':' then signsBehind (some []) rest else .plain c :: signsBehind none rest
  | some name, c :: rest =>
      if c = ':' then .code name :: signsBehind none rest
      else if Text.isBlank c then (':' :: name).map .plain ++ .plain c :: signsBehind none rest
      else signsBehind (some (name ++ [c])) rest

/-- Cuts a text into codes and the characters between them. -/
def signs (s : List Char) : List Sign :=
  signsBehind none s

/-- What a sign stands for if it is a code. -/
def Sign.code? : Sign → Option (List Char)
  | .plain _ => none
  | .code name => some name

/-- The codes of a text in order, by what stands between their colons. -/
def codes (s : List Char) : List (List Char) :=
  (signs s).filterMap Sign.code?

/-- How a code asks for a form of its pictograph, with the character that selects the form. -/
def formSelectors : List (List Char × Char) :=
  [("-text".toList, '\ufe0e'), ("-emoji".toList, '\ufe0f')]

namespace Pictographs

/-- The table that holds those of the given pictographs which can be drawn. -/
def ofList (entries : List (String × String)) : Pictographs where
  entries := entries.filter fun e => e.2.toList.all isDrawn
  drawn := by simp

/-- The pictograph of a name. -/
def named? (p : Pictographs) (name : List Char) : Option (List Char) :=
  (p.entries.find? fun e => e.1.toList == Text.lower name).map fun e => e.2.toList

/-- What a code is replaced by; nothing if it names no pictograph. -/
def find? (p : Pictographs) (code : List Char) : Option (List Char) :=
  match formSelectors.find? fun form => form.1.isSuffixOf code with
  | some (ending, selector) =>
      (p.named? (code.take (code.length - ending.length))).map (· ++ [selector])
  | none => p.named? code

/-- What is shown of a sign. -/
def shown (p : Pictographs) : Sign → List Char
  | .plain c => [c]
  | .code name => (p.find? name).getD (Sign.code name).source

/-- A text with its codes replaced. -/
def replace (p : Pictographs) (s : List Char) : List Char :=
  (signs s).flatMap p.shown

end Pictographs

end NamedConstants.Markup
