import NamedConstants.GroupClass.Basic
import NamedConstants.Registry.Entry
import NamedConstants.Value.TextOperations

/-!
# Groups

A group is a named, read-only table of constants.  `Group.ofClass` takes the snapshot of a
group class: one entry for each declared name, aliases included, with the value of the
member that the name stands for.
-/

namespace NamedConstants

/-- A read-only table of constants with its name and description. -/
structure Group where
  name : Value
  description : Value
  /-- The names and values in the order of their declaration. -/
  constants : List (Value × Value)

namespace Group

/-- The snapshot of a group class. -/
def ofClass (c : GroupClass) : Group where
  name := .text c.name
  description := .text c.description
  constants := c.members.map fun e => (.text e.1, e.2.value)

/-- A group over the given pairs, of which a later one replaces the value of an earlier
    one with an equal name.  The names must be fit to be keys. -/
def make (name description : Value) (pairs : List (Value × Value)) : Except Failure Group :=
  match Value.firstUnhashable? (pairs.map (·.1)) with
  | some type => .error (.unhashable type)
  | none => .ok ⟨name, description, Value.tableOf pairs⟩

/-- The number of constants. -/
def size (g : Group) : Nat :=
  g.constants.length

/-- Whether there are no constants. -/
def isEmpty (g : Group) : Bool :=
  g.constants.isEmpty

/-- The names of the constants. -/
def names (g : Group) : List Value :=
  g.constants.map (·.1)

/-- The value of a constant. -/
def get? (g : Group) (name : Value) : Option Value :=
  Value.lookup? name g.constants

/-- Whether there is a constant of a name, which must be fit to be a key. -/
def contains (g : Group) (name : Value) : Except Failure Bool :=
  match name.unhashableType? with
  | some type => .error (.unhashable type)
  | none => .ok (g.get? name).isSome

/-- The constants as entries. -/
def entries (g : Group) : List Entry :=
  g.constants.map fun e => ⟨g.name, e.1, e.2⟩

/-- A table of the constants with one more value put in. -/
def copyWith (g : Group) (name value : Value) : Except Failure (List (Value × Value)) :=
  match name.unhashableType? with
  | some type => .error (.unhashable type)
  | none => .ok (Value.insert name value g.constants)

/-- Whether two groups are equal: in name, description and constants, whatever the order of
    these. -/
def same (a b : Group) : Bool :=
  a.name.same b.name && a.description.same b.description &&
    (Value.dict a.constants).same (.dict b.constants)

/-- The quoted form of a group. -/
def quoted (g : Group) : String :=
  "ConstantGroup(name=" ++ g.name.quoted ++ ", description=" ++ g.description.quoted ++
    ", entries=mappingproxy(" ++ (Value.dict g.constants).quoted ++ "))"

end Group

end NamedConstants
