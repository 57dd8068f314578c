import NamedConstants.Json.Token

/-!
# Reading JSON

The value that a JSON text stands for.  A reader goes through the tokens of the text and
keeps the place where the next value belongs: the document itself, or the end of an array or
of an object that is being read, with the place of that.  A key that an object repeats keeps
its place and takes the later value.
-/

namespace NamedConstants.Json

/-- A place that waits for a value. -/
inductive Place where
  /-- The document. -/
  | document
  /-- The end of an array that holds items already. -/
  | item (before : List Value) (outer : Place)
  /-- A key of an object that holds entries already. -/
  | member (before : List (Value × Value)) (key : String) (outer : Place)

/-- What a reader has read and what it waits for. -/
inductive State where
  /-- A value. -/
  | value (place : Place)
  /-- The first item of an array, or the array's end. -/
  | firstItem (outer : Place)
  /-- The first key of an object, or the object's end. -/
  | firstKey (outer : Place)
  /-- A further key of an object. -/
  | key (before : List (Value × Value)) (outer : Place)
  /-- The colon behind a key. -/
  | colon (before : List (Value × Value)) (key : String) (outer : Place)
  /-- A comma, or the end of an array. -/
  | nextItem (items : List Value) (outer : Place)
  /-- A comma, or the end of an object. -/
  | nextKey (entries : List (Value × Value)) (outer : Place)
  /-- Nothing: the document is read. -/
  | done (v : Value)

/-- Puts a value in its place. -/
def Place.fill (v : Value) : Place → State
  | .document => .done v
  | .item before outer => .nextItem (before ++ [v]) outer
  | .member before key outer => .nextKey (Value.insert (.text key) v before) outer

/-- Reads a token where a value stands. -/
def Place.step (place : Place) : Token → Option State
  | .scalar v => some (place.fill v)
  | .openArray => some (.firstItem place)
  | .openObject => some (.firstKey place)
  | _ => none

/-- Reads a token. -/
def State.step : State → Token → Option State
  | .value place, token => place.step token
  | .firstItem outer, .closeArray => some (outer.fill (.list []))
  | .firstItem outer, token => (Place.item [] outer).step token
  | .firstKey outer, .closeObject => some (outer.fill (.dict []))
  | .firstKey outer, .scalar (.text name) => some (.colon [] name outer)
  | .key before outer, .scalar (.text name) => some (.colon before name outer)
  | .colon before name outer, .colon => some (.value (.member before name outer))
  | .nextItem items outer, .comma => some (.value (.item items outer))
  | .nextItem items outer, .closeArray => some (outer.fill (.list items))
  | .nextKey entries outer, .comma => some (.key entries outer)
  | .nextKey entries outer, .closeObject => some (outer.fill (.dict entries))
  | _, _ => none

set_option linter.unusedVariables false in
/-- Reads a text to its end. -/
def readFrom (state : State) (s : List Char) : Option State :=
  match h : readToken? (s.dropWhile isGap) with
  | some (token, rest) => (state.step token).bind fun next => readFrom next rest
  | none => if (s.dropWhile isGap).isEmpty then some state else none
termination_by s.length
decreasing_by exact Nat.lt_of_lt_of_le (readToken?_length h) (List.dropWhile_sublist _).length_le

/-- The value that a JSON text stands for. -/
def read? (s : List Char) : Option Value :=
  match readFrom (.value .document) s with
  | some (.done v) => some v
  | _ => none

end NamedConstants.Json
