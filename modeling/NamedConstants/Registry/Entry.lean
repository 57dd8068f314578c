import NamedConstants.Failure
import NamedConstants.Value.Equality

/-!
# Entries

One row of a listing: a group, a name and a value.  An entry never changes.
-/

namespace NamedConstants

/-- A constant with the group that it belongs to. -/
structure Entry where
  group : Value
  name : Value
  value : Value

namespace Entry

/-- Whether two entries are equal field by field. -/
def same (a b : Entry) : Bool :=
  a.group.same b.group && a.name.same b.name && a.value.same b.value

/-- The quoted form of an entry. -/
def quoted (e : Entry) : String :=
  "ConstantEntry(group=" ++ e.group.quoted ++ ", name=" ++ e.name.quoted ++ ", value=" ++
    e.value.quoted ++ ")"

/-- The type of the first field that keeps the entry from being a key, if there is one. -/
def unhashableType? (e : Entry) : Option String :=
  Value.firstUnhashable? [e.group, e.name, e.value]

/-- Whether two entries count as one key. -/
def sameKey (a b : Entry) : Except Failure Bool :=
  match a.unhashableType?.or b.unhashableType? with
  | some type => .error (.unhashable type)
  | none => .ok (a.same b)

end Entry

end NamedConstants
