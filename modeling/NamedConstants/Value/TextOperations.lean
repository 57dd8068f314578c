import NamedConstants.Failure
import NamedConstants.Text.Search
import NamedConstants.Value.Equality

/-!
# Values used as texts

What a value can be asked for if it is a text, members included, and how it fails if it is
none.
-/

namespace NamedConstants.Value

/-- The values that iterating over a value gives, if it can be iterated over. -/
def items? (v : Value) : Option (List Value) :=
  match v.asText? with
  | some s => some (s.toList.map fun c => .text (String.ofList [c]))
  | none =>
      match v with
      | .list items => some items
      | .tuple items => some items
      | .dict entries => some (entries.map (·.1))
      | .bytes bs => some (bs.map fun b => .int b.toNat)
      | _ => none

/-- The texts of several values, the first of which has the given index. -/
def textsFrom (index : Nat) : List Value → Except Failure (List String)
  | [] => .ok []
  | v :: rest =>
      match v.asText? with
      | none => .error (.itemNotText index v.typeName)
      | some s => (textsFrom (index + 1) rest).map (s :: ·)

/-- Puts a separator between the texts that a value iterates over. -/
def joinTexts (separator : String) (v : Value) : Except Failure String :=
  match v.items? with
  | none => .error .notASequence
  | some items => (textsFrom 0 items).map (String.intercalate separator)

/-- The line that gives the known names of something. -/
def knownNamesLine (label names : Value) : Except Failure String :=
  (joinTexts ", " names).map (knownLine label.display)

/-- A text between two others. -/
def surround (v : Value) (before after : String) : Except Failure String :=
  match v.asText? with
  | none => .error (.notConcatenable v.typeName)
  | some s => .ok (before ++ s ++ after)

/-- Puts a text between others. -/
def separate (v items : Value) : Except Failure String :=
  match v.asText? with
  | none => .error (.noOperation v.typeName "join")
  | some s => joinTexts s items

/-- Whether a text stands at the end of another. -/
def endsIn (v : Value) (whole : String) : Except Failure Bool :=
  match v.asText? with
  | none => .error (.notAnEnd "endswith" v.typeName)
  | some s => .ok (s.toList.isSuffixOf whole.toList)

/-- Whether a text stands at the front of another. -/
def startsIn (v : Value) (whole : String) : Except Failure Bool :=
  match v.asText? with
  | none => .error (.notAnEnd "startswith" v.typeName)
  | some s => .ok (s.toList.isPrefixOf whole.toList)

/-- Whether a text stands somewhere in another. -/
def standsIn (v : Value) (whole : String) : Except Failure Bool :=
  match v.asText? with
  | none => .error (.notSearchable v.typeName)
  | some s => .ok (Text.occursIn s.toList whole.toList)

/-- Whether the first text comes before the second, by code points. -/
def precedes : List Char → List Char → Bool
  | _, [] => false
  | [], _ :: _ => true
  | c :: s, d :: t => c.toNat < d.toNat || (c == d && precedes s t)

/-- Whether a text comes before another. -/
def isLess (v w : Value) : Except Failure Bool :=
  match v.asText?, w.asText? with
  | some s, some t => .ok (precedes s.toList t.toList)
  | _, _ => .error (.unordered v.typeName w.typeName)

/-- The number of characters of a text. -/
def textLength (v : Value) : Except Failure Nat :=
  match v.asText? with
  | none => .error (.noLength v.typeName)
  | some s => .ok s.length

/-- What a table holds at a key. -/
def getKey (key : Value) (entries : List (Value × Value)) : Except Failure Value :=
  match key.unhashableType? with
  | some type => .error (.unhashable type)
  | none =>
      match lookup? key entries with
      | none => .error (.noKey key)
      | some value => .ok value

end NamedConstants.Value
