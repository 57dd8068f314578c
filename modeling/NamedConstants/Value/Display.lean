import NamedConstants.Decimal.Notation
import NamedConstants.Text.Quoted
import NamedConstants.Text.Search
import NamedConstants.Value.Basic

/-!
# Texts of values

A value has two texts.  Its `quoted` form shows what it is: texts stand between quotation
marks, members show their class, name and value.  Its `display` form is for reading: a
text stands for itself, and a member shows its text or its class and name, as its base
says.
-/

namespace NamedConstants.Value

open Text (quote quoteBytes joinWith)

mutual

/-- The quoted form of a value. -/
def quotedChars : Value → List Char
  | .null => "None".toList
  | .bool b => if b then "True".toList else "False".toList
  | .int i => Decimal.ofInt i
  | .float x => Decimal.ofBinary64 x
  | .text s => quote s.toList
  | .bytes bs => quoteBytes bs
  | .list items => '[' :: joinWith [',', ' '] (quotedItems items) ++ [']']
  | .tuple [item] => '(' :: quotedChars item ++ [',', ')']
  | .tuple items => '(' :: joinWith [',', ' '] (quotedItems items) ++ [')']
  | .dict entries => '\x7b' :: joinWith [',', ' '] (quotedEntries entries) ++ ['\x7d']
  | .member className _ name value =>
      '<' :: className.toList ++ '.' :: name.toList ++ ':' :: ' ' :: quotedChars value ++ ['>']

/-- The quoted forms of several values. -/
def quotedItems : List Value → List (List Char)
  | [] => []
  | v :: rest => quotedChars v :: quotedItems rest

/-- The quoted forms of the entries of a table. -/
def quotedEntries : List (Value × Value) → List (List Char)
  | [] => []
  | (k, v) :: rest => (quotedChars k ++ ':' :: ' ' :: quotedChars v) :: quotedEntries rest

end

/-- The quoted form of a value. -/
def quoted (v : Value) : String :=
  String.ofList v.quotedChars

/-- The display form of a value. -/
def display : Value → String
  | .text s => s
  | .member className base name value =>
      match base, value with
      | .literal, .text s => s
      | _, _ => className ++ "." ++ name
  | v => v.quoted

end NamedConstants.Value
