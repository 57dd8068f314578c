import NamedConstants.Failure
import NamedConstants.Json.Text

/-!
# Writing JSON

The JSON form of a value.  Texts and members that are texts become strings, lists and
tuples arrays, tables objects; numbers that JSON has no form for are written as `NaN` and
`Infinity`.  A key may be a text, a number, a truth value or nothing, and becomes a string.
Bytes and members that are no texts have no form: writing them fails, and so does a table
with another key.  The first such thing in reading order is reported, a key before its
value.
-/

namespace NamedConstants.Json

/-- How the parts of arrays and objects are set apart. -/
inductive Style where
  /-- On one line. -/
  | compact
  /-- Each part on a line of its own, two spaces deeper than what holds it. -/
  | indented
  deriving DecidableEq, Repr

/-- What stands between a bracket and a part. -/
def Style.gap (style : Style) (level : Nat) : List Char :=
  match style with
  | .compact => []
  | .indented => '\n' :: List.replicate (2 * level) ' '

/-- What stands between two parts. -/
def Style.separator (style : Style) (level : Nat) : List Char :=
  match style with
  | .compact => [',', ' ']
  | .indented => ',' :: style.gap level

/-- Parts between brackets, which hold nothing if there are no parts. -/
def Style.enclose (style : Style) (level : Nat) (opening closing : Char)
    (parts : List (List Char)) : List Char :=
  if parts.isEmpty then [opening, closing]
  else
    opening :: style.gap (level + 1) ++
      Text.joinWith (style.separator (level + 1)) parts ++ style.gap level ++ [closing]

/-- The JSON form of a double-precision number. -/
def number (x : Decimal.Binary64) : List Char :=
  match x with
  | .nan => "NaN".toList
  | .infinite false => "Infinity".toList
  | .infinite true => "-Infinity".toList
  | x => Decimal.ofBinary64 x

/-- The text of a key. -/
def keyText (key : Value) : Except Failure (List Char) :=
  match key.asText? with
  | some s => .ok s.toList
  | none =>
      match key with
      | .null => .ok "null".toList
      | .bool b => .ok (if b then "true".toList else "false".toList)
      | .int i => .ok (Decimal.ofInt i)
      | .float x => .ok (number x)
      | _ => .error (.keyNotSerializable key.typeName)

mutual

/-- The JSON form of a value that stands at a level of nesting. -/
def write (style : Style) (level : Nat) : Value → Except Failure (List Char)
  | .null => .ok "null".toList
  | .bool b => .ok (if b then "true".toList else "false".toList)
  | .int i => .ok (Decimal.ofInt i)
  | .float x => .ok (number x)
  | .text s => .ok (string s.toList)
  | .bytes _ => .error (.notSerializable "bytes")
  | .list items => (writeItems style (level + 1) items).map (style.enclose level '[' ']')
  | .tuple items => (writeItems style (level + 1) items).map (style.enclose level '[' ']')
  | .dict entries =>
      (writeEntries style (level + 1) entries).map (style.enclose level '\x7b' '\x7d')
  | .member className base _ value =>
      match base, value with
      | .plain, _ => .error (.notSerializable className)
      | _, .text s => .ok (string s.toList)
      | _, _ => .error (.notSerializable className)

/-- The JSON forms of the items of an array. -/
def writeItems (style : Style) (level : Nat) : List Value → Except Failure (List (List Char))
  | [] => .ok []
  | v :: rest => do
      let item ← write style level v
      let items ← writeItems style level rest
      return item :: items

/-- The members of an object. -/
def writeEntries (style : Style) (level : Nat) :
    List (Value × Value) → Except Failure (List (List Char))
  | [] => .ok []
  | (k, v) :: rest => do
      let key ← keyText k
      let value ← write style level v
      let entries ← writeEntries style level rest
      return (string key ++ ':' :: ' ' :: value) :: entries

end

/-- The JSON document of a value, each part on a line of its own. -/
def document (v : Value) : Except Failure String :=
  (write .indented 0 v).map String.ofList

/-- The JSON text of a value on one line. -/
def line (v : Value) : Except Failure String :=
  (write .compact 0 v).map String.ofList

end NamedConstants.Json
