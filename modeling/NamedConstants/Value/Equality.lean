import NamedConstants.Value.Basic

/-!
# Equality of values

`Value.same` says when two values count as equal.  Numbers are compared exactly and across
their types, truth values counting as one and zero; not-a-number equals nothing.  Texts
are equal by their characters, whether or not they are members.  A member that is no text
equals itself only.  Lists and tuples are equal item by item, tables key by key whatever
their order.
-/

namespace NamedConstants.Value

/-- Equality of two values that hold no others. -/
def sameAtom (a b : Value) : Bool :=
  match a.asText?, b.asText? with
  | some s, some t => s == t
  | some _, none => false
  | none, some _ => false
  | none, none =>
      match a, b with
      | .null, .null => true
      | .bool x, .bool y => x == y
      | .bool x, .int i => (if x then 1 else 0) == i
      | .int i, .bool y => i == (if y then 1 else 0)
      | .bool x, .float y => y.sameInt (if x then 1 else 0)
      | .float x, .bool y => x.sameInt (if y then 1 else 0)
      | .int i, .int j => i == j
      | .int i, .float y => y.sameInt i
      | .float x, .int j => x.sameInt j
      | .float x, .float y => x.same y
      | .bytes x, .bytes y => x == y
      | .member c _ n _, .member d _ m _ => c == d && n == m
      | _, _ => false

mutual

/-- Whether two values count as equal. -/
def same : Value → Value → Bool
  | .list xs, .list ys => sameItems xs ys
  | .tuple xs, .tuple ys => sameItems xs ys
  | .dict xs, .dict ys => xs.length == ys.length && entriesIn xs ys
  | a, b => sameAtom a b

/-- Whether two sequences are equal item by item. -/
def sameItems : List Value → List Value → Bool
  | [], [] => true
  | x :: xs, y :: ys => same x y && sameItems xs ys
  | _, _ => false

/-- Whether each entry of the first table has an equal entry in the second. -/
def entriesIn : List (Value × Value) → List (Value × Value) → Bool
  | [], _ => true
  | (k, v) :: rest, ys => ys.any (fun e => same k e.1 && same v e.2) && entriesIn rest ys

end

/-- Whether a value is in a list, by equality of values. -/
def isIn (v : Value) (vs : List Value) : Bool :=
  vs.any fun w => w.same v

/-- The value that a table holds at a key. -/
def lookup? (key : Value) (entries : List (Value × Value)) : Option Value :=
  (entries.find? fun e => e.1.same key).map (·.2)

/-- Puts a value at a key: an equal key keeps its place and its first form and takes the
    new value, a new key goes to the end. -/
def insert (key value : Value) : List (Value × Value) → List (Value × Value)
  | [] => [(key, value)]
  | (k, v) :: rest =>
      if k.same key then (k, value) :: rest else (k, v) :: insert key value rest

/-- Builds a table by inserting the entries in order. -/
def tableOf (entries : List (Value × Value)) : List (Value × Value) :=
  entries.foldl (fun table e => insert e.1 e.2 table) []

end NamedConstants.Value
