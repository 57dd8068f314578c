import NamedConstants.Text.Layout

/-!
# Templates

Two kinds of text with places for a value.  In a brace template a place is
`\x7bname!conversion:layout\x7d`, and doubled braces stand for themselves; in a percent
template it is `%`, flags, a width, a precision and a letter.

Both are cut into pieces from left to right.  A fault ends the cut, as its last piece:
what stands before it is filled in first, so a place that cannot be filled is reported
before a fault behind it.
-/

namespace NamedConstants.Text

/-- What is wrong with the form of a template. -/
inductive TemplateFault where
  | loneOpenBrace
  | loneCloseBrace
  | braceInName
  | noConversion
  | noColonAfterConversion
  | openLayout
  | openField
  | openIndex
  | emptyStep
  | afterIndex
  | placeTooBig
  | incomplete
  | needsMapping
  | widthTooBig
  | precisionTooBig
  deriving DecidableEq, Repr

/-- The text of a fault. -/
def TemplateFault.message : TemplateFault → String
  | .loneOpenBrace => "Single '\x7b' encountered in format string"
  | .loneCloseBrace => "Single '\x7d' encountered in format string"
  | .braceInName => "unexpected '\x7b' in field name"
  | .noConversion => "end of string while looking for conversion specifier"
  | .noColonAfterConversion => "expected ':' after conversion specifier"
  | .openLayout => "unmatched '\x7b' in format spec"
  | .openField => "expected '\x7d' before end of string"
  | .openIndex => "Missing ']' in format string"
  | .emptyStep => "Empty attribute in format string"
  | .afterIndex => "Only '.' or '[' may follow ']' in format field specifier"
  | .placeTooBig => "Too many decimal digits in format string"
  | .incomplete => "incomplete format"
  | .needsMapping => "format requires a mapping"
  | .widthTooBig => "width too big"
  | .precisionTooBig => "precision too big"

/-- A place in a brace template: the name of a value with a path into it, the form to
bring it to, and the layout of its field. -/
structure BraceField where
  name : List Char
  conversion : Option Char
  layout : List Char
  deriving DecidableEq, Repr

/-- A piece of a brace template. -/
inductive BracePiece where
  | literal (s : List Char)
  | field (place : BraceField)
  | broken (fault : TemplateFault)
  deriving DecidableEq, Repr

/-- Where the reader of a brace template stands; the texts are what it has read of the
    current part, last character first. -/
inductive BraceState where
  | literal (read : List Char)
  | name (read : List Char)
  | bracket (read : List Char)
  | conversion (name : List Char)
  | afterConversion (name : List Char) (conversion : Char)
  | layout (name : List Char) (conversion : Option Char) (depth : Nat) (read : List Char)

/-- Cuts a brace template into pieces. -/
def bracePieces : BraceState → List Char → List BracePiece
  | .literal read, [] => [.literal read.reverse]
  | .literal read, '\x7b' :: '\x7b' :: rest => bracePieces (.literal ('\x7b' :: read)) rest
  | .literal read, ['\x7b'] => [.literal read.reverse, .broken .loneOpenBrace]
  | .literal read, '\x7b' :: rest => .literal read.reverse :: bracePieces (.name []) rest
  | .literal read, '\x7d' :: '\x7d' :: rest => bracePieces (.literal ('\x7d' :: read)) rest
  | .literal read, '\x7d' :: _ => [.literal read.reverse, .broken .loneCloseBrace]
  | .literal read, c :: rest => bracePieces (.literal (c :: read)) rest
  | .name _, [] => [.broken .openField]
  | .name read, c :: rest =>
      if c = '\x7b' then [.broken .braceInName]
      else if c = '\x7d' then
        .field ⟨read.reverse, none, []⟩ :: bracePieces (.literal []) rest
      else if c = ':' then bracePieces (.layout read.reverse none 1 []) rest
      else if c = '!' then bracePieces (.conversion read.reverse) rest
      else if c = '[' then bracePieces (.bracket (c :: read)) rest
      else bracePieces (.name (c :: read)) rest
  | .bracket _, [] => [.broken .openField]
  | .bracket read, c :: rest =>
      if c = ']' then bracePieces (.name (c :: read)) rest
      else bracePieces (.bracket (c :: read)) rest
  | .conversion _, [] => [.broken .noConversion]
  | .conversion name, c :: rest => bracePieces (.afterConversion name c) rest
  | .afterConversion _ _, [] => [.broken .openLayout]
  | .afterConversion name conversion, c :: rest =>
      if c = '\x7d' then
        .field ⟨name, some conversion, []⟩ :: bracePieces (.literal []) rest
      else if c = ':' then bracePieces (.layout name (some conversion) 1 []) rest
      else [.broken .noColonAfterConversion]
  | .layout _ _ _ _, [] => [.broken .openLayout]
  | .layout name conversion depth read, c :: rest =>
      if c = '\x7b' then bracePieces (.layout name conversion (depth + 1) (c :: read)) rest
      else if c = '\x7d' then
        if depth = 1 then
          .field ⟨name, conversion, read.reverse⟩ :: bracePieces (.literal []) rest
        else bracePieces (.layout name conversion (depth - 1) (c :: read)) rest
      else bracePieces (.layout name conversion depth (c :: read)) rest

/-- A step from a value to a part of it, behind the name of a place. -/
inductive PathStep where
  | attribute (name : List Char)
  | index (i : Nat)
  | key (name : List Char)
  | broken (fault : TemplateFault)
  deriving DecidableEq, Repr

/-- The number that a text of digits stands for; another text stands for none. -/
def placeNumber? (s : List Char) : Except TemplateFault (Option Nat) :=
  match readDigits 0 s with
  | (0, _, _) => .ok none
  | (_, n, []) => if layoutNumberLimit < n then .error .placeTooBig else .ok (some n)
  | _ => .ok none

/-- The step that the text between square brackets stands for. -/
def PathStep.ofIndex (s : List Char) : PathStep :=
  match s, placeNumber? s with
  | [], _ => .broken .emptyStep
  | _, .error fault => .broken fault
  | _, .ok (some i) => .index i
  | s, .ok none => .key s

/-- The step that the text behind a point stands for. -/
def PathStep.ofAttribute (s : List Char) : PathStep :=
  if s.isEmpty then .broken .emptyStep else .attribute s

/-- Where the reader of a path stands; the texts are what it has read of the current step,
last character first. -/
inductive PathState where
  | between
  | attribute (read : List Char)
  | index (read : List Char)

/-- Cuts the path behind the name of a place into steps.  A fault ends the cut. -/
def pathSteps : PathState → List Char → List PathStep
  | .between, [] => []
  | .between, c :: rest =>
      if c = '.' then pathSteps (.attribute []) rest
      else if c = '[' then pathSteps (.index []) rest
      else [.broken .afterIndex]
  | .attribute read, [] => [.ofAttribute read.reverse]
  | .attribute read, c :: rest =>
      if c = '.' then .ofAttribute read.reverse :: pathSteps (.attribute []) rest
      else if c = '[' then .ofAttribute read.reverse :: pathSteps (.index []) rest
      else pathSteps (.attribute (c :: read)) rest
  | .index _, [] => [.broken .openIndex]
  | .index read, c :: rest =>
      if c = ']' then .ofIndex read.reverse :: pathSteps .between rest
      else pathSteps (.index (c :: read)) rest

/-- Whether a character begins a step. -/
def beginsStep (c : Char) : Bool :=
  c == '.' || c == '['

/-- The name of the value that a place asks for. -/
def BraceField.head (place : BraceField) : List Char :=
  place.name.takeWhile fun c => !beginsStep c

/-- The way from that value to the part that a place shows. -/
def BraceField.path (place : BraceField) : List PathStep :=
  pathSteps .between (place.name.dropWhile fun c => !beginsStep c)

/-- A place in a percent template. -/
structure PercentField where
  /-- Whether the text stands at the left of its field. -/
  left : Bool
  /-- The least number of characters. -/
  width : Nat
  /-- The greatest number of characters, if there is one. -/
  precision : Option Nat
  /-- The letter that says how the value is written. -/
  kind : Char
  /-- Where the letter stands in the template. -/
  position : Nat
  deriving DecidableEq, Repr

/-- A piece of a percent template. -/
inductive PercentPiece where
  | literal (c : Char)
  | field (place : PercentField)
  /-- A width or precision that is to be taken from the values. -/
  | starred
  | broken (fault : TemplateFault)
  deriving DecidableEq, Repr

/-- Where the reader of a percent template stands. -/
inductive PercentState where
  | literal
  | start
  | flags (left : Bool)
  | width (left : Bool) (width : Nat)
  | precision (left : Bool) (width : Nat) (read : Option Nat)
  | kind (left : Bool) (width : Nat) (precision : Option Nat)

/-- The value of an ASCII digit. -/
def asciiDigit? (c : Char) : Option Nat :=
  if '0'.toNat ≤ c.toNat ∧ c.toNat ≤ '9'.toNat then some (c.toNat - '0'.toNat) else none

/-- Whether a character is a size mark, which is skipped in front of the letter. -/
def isSizeMark (c : Char) : Bool :=
  c == 'h' || c == 'l' || c == 'L'

/-- Cuts a percent template into pieces, from the given position on. -/
def percentPieces (position : Nat) : PercentState → List Char → List PercentPiece
  | .literal, [] => []
  | .literal, c :: rest =>
      if c = '%' then percentPieces (position + 1) .start rest
      else .literal c :: percentPieces (position + 1) .literal rest
  | _, [] => [.broken .incomplete]
  | .start, '%' :: rest => .literal '%' :: percentPieces (position + 1) .literal rest
  | .start, '(' :: _ => [.broken .needsMapping]
  | state, c :: rest =>
      let next := position + 1
      let finish (left : Bool) (width : Nat) (precision : Option Nat) :=
        .field ⟨left, width, precision, c, position⟩ :: percentPieces next .literal rest
      let afterWidth (left : Bool) (width : Nat) :=
        if c = '.' then percentPieces next (.precision left width none) rest
        else if isSizeMark c then percentPieces next (.kind left width none) rest
        else finish left width none
      let flag (left : Bool) :=
        if c = '-' then percentPieces next (.flags true) rest
        else if c = '+' ∨ c = ' ' ∨ c = '#' ∨ c = '0' then percentPieces next (.flags left) rest
        else if c = '*' then [.starred]
        else match asciiDigit? c with
          | some d => percentPieces next (.width left d) rest
          | none => afterWidth left 0
      match state with
      | .literal | .start => flag false
      | .flags left => flag left
      | .width left width =>
          match asciiDigit? c with
          | some d =>
              if layoutNumberLimit < width * 10 + d then [.broken .widthTooBig]
              else percentPieces next (.width left (width * 10 + d)) rest
          | none => afterWidth left width
      | .precision left width read =>
          if c = '*' ∧ read = none then [.starred]
          else
            let precision := read.getD 0
            match asciiDigit? c with
            | some d =>
                if layoutNumberLimit < precision * 10 + d then [.broken .precisionTooBig]
                else percentPieces next (.precision left width (some (precision * 10 + d))) rest
            | none =>
                if isSizeMark c then percentPieces next (.kind left width (some precision)) rest
                else finish left width (some precision)
      | .kind left width precision => finish left width precision

end NamedConstants.Text
