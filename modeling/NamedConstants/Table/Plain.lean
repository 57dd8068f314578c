import NamedConstants.Run
import NamedConstants.Text.Padding

/-!
# Plain tables

A table as lines of padded fields, for hosts without the renderer.  A field that is longer
than its column pushes the next ones to the right; nothing is cut.
-/

namespace NamedConstants.Table

/-- The number of characters of a rule in a plain table. -/
def ruleLength : Nat := 56

/-- A line of repeated characters. -/
def rule (c : Char) : String :=
  String.ofList (List.replicate ruleLength c)

/-- The fields of a row, each brought to the width of its column and set apart by one
    space. -/
def plainFields : List Nat → List (List Char) → List Char
  | width :: [], field :: _ => Text.padRight width field
  | width :: widths, field :: fields =>
      Text.padRight width field ++ ' ' :: plainFields widths fields
  | _, _ => []

/-- A row of a plain table. -/
def plainRow (widths : List Nat) (fields : List String) : String :=
  String.ofList (plainFields widths (fields.map String.toList))

/-- What stands above the rows of a plain table: the title, a rule, the headers and another
    rule. -/
def plainHead (title : String) (widths : List Nat) (headers : List String) : Run Unit := do
  Run.errLine ("\n" ++ title)
  Run.errLine (rule '=')
  Run.errLine (plainRow widths headers)
  Run.errLine (rule '-')

/-- The text of a value in a field of a plain table.  Truth values are written as numbers;
    what is neither text nor number nor member has no such text. -/
def fieldText (v : Value) : Except Failure String :=
  match v with
  | .bool b => .ok (if b then "1" else "0")
  | .text _ | .int _ | .float _ | .member .. => .ok v.display
  | .null | .bytes _ | .list _ | .tuple _ | .dict _ => .error (.noLayout v.typeName)

/-- The texts of several values, unless one of them has none. -/
def fieldTexts : List Value → Except Failure (List String)
  | [] => .ok []
  | v :: rest => do
      let field ← fieldText v
      let fields ← fieldTexts rest
      return field :: fields

end NamedConstants.Table
