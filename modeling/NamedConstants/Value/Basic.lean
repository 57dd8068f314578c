import NamedConstants.Decimal.Binary64

/-!
# Values

The values that constants hold and that look-ups are asked with: plain data, nested
without bound, and the members of group classes.
-/

namespace NamedConstants

/-- What a group class builds its members on. -/
inductive Base where
  /-- A member is nothing but itself; it keeps the value that it was declared with. -/
  | plain
  /-- A member is a text, but shows itself by class and name. -/
  | text
  /-- A member is a text and shows itself as that text. -/
  | literal
  deriving DecidableEq, Repr

/-- Whether members with this base are texts. -/
def Base.isText : Base → Bool
  | .plain => false
  | .text => true
  | .literal => true

/-- A value. -/
inductive Value where
  | null
  | bool (b : Bool)
  | int (i : Int)
  | float (x : Decimal.Binary64)
  | text (s : String)
  | bytes (bs : List UInt8)
  | list (items : List Value)
  | tuple (items : List Value)
  /-- A table of keys and values in insertion order. -/
  | dict (entries : List (Value × Value))
  /-- A member of a group class: the class's name and base, the member's name and
      value. -/
  | member (className : String) (base : Base) (name : String) (value : Value)

namespace Value

instance : Inhabited Value := ⟨.null⟩

/-- The text that a value is, if it is one: a text itself or a member built on text. -/
def asText? : Value → Option String
  | .text s => some s
  | .member _ base _ (.text s) => if base.isText then some s else none
  | _ => none

/-- Whether a value is a text. -/
def isText (v : Value) : Bool :=
  v.asText?.isSome

/-- The name of the type of a value. -/
def typeName : Value → String
  | .null => "NoneType"
  | .bool _ => "bool"
  | .int _ => "int"
  | .float _ => "float"
  | .text _ => "str"
  | .bytes _ => "bytes"
  | .list _ => "list"
  | .tuple _ => "tuple"
  | .dict _ => "dict"
  | .member className _ _ _ => className

mutual

/-- The type that keeps a value from being a key, if there is one: lists and tables are
    no keys, and neither is a tuple that holds one. -/
def unhashableType? : Value → Option String
  | .list _ => some "list"
  | .dict _ => some "dict"
  | .tuple items => firstUnhashable? items
  | _ => none

/-- The first of several values that is no key, by its type. -/
def firstUnhashable? : List Value → Option String
  | [] => none
  | v :: rest =>
      match unhashableType? v with
      | some type => some type
      | none => firstUnhashable? rest

end

end Value

end NamedConstants
