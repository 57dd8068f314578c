import NamedConstants.Registry.Group

/-!
# Registries

A registry is a list of groups with distinct names.  Everything it answers is read off the
groups: a look-up finds the group whose name equals the one that is asked for and then the
constant, and says which names there are if it finds none.
-/

namespace NamedConstants

/-- A read-only list of groups, no two of which have equal names. -/
structure Registry where
  groups : List Group
  distinct : groups.Pairwise fun a b => a.name.same b.name = false

namespace Registry

/-- The registry without groups. -/
def empty : Registry := ⟨[], .nil⟩

/-- The group of a name. -/
def find? (r : Registry) (name : Value) : Option Group :=
  r.groups.find? fun g => g.name.same name

/-- A group that is not found differs in name from all groups. -/
theorem not_same_of_find?_eq_none {r : Registry} {name : Value} (h : r.find? name = none) :
    ∀ g ∈ r.groups, g.name.same name = false := by
  intro g hg
  simpa using List.find?_eq_none.mp h g hg

/-- Adds a group whose name is new. -/
def add (r : Registry) (g : Group) (h : r.find? g.name = none) : Registry where
  groups := r.groups ++ [g]
  distinct := by
    refine List.pairwise_append.mpr ⟨r.distinct, List.pairwise_singleton .., ?_⟩
    intro a ha b hb
    rw [List.mem_singleton.mp hb]
    exact not_same_of_find?_eq_none h a ha

/-- Adds the snapshots of group classes in order; a name that is taken is a failure. -/
def addClasses (r : Registry) : List GroupClass → Except Failure Registry
  | [] => .ok r
  | c :: rest =>
      if h : r.find? (Group.ofClass c).name = none then
        (r.add (Group.ofClass c) h).addClasses rest
      else .error (.duplicateGroup c.name)

/-- The registry of group classes. -/
def ofClasses (classes : List GroupClass) : Except Failure Registry :=
  empty.addClasses classes

/-- The names of the groups. -/
def names (r : Registry) : List Value :=
  r.groups.map (·.name)

/-- The number of groups. -/
def size (r : Registry) : Nat :=
  r.groups.length

/-- The group of a name. -/
def group (r : Registry) (name : Value) : Except Failure Group :=
  match r.find? name with
  | some g => .ok g
  | none => .error (.unknownGroup name r.names)

/-- The value of a constant of a group. -/
def get (r : Registry) (group name : Value) : Except Failure Value := do
  let g ← r.group group
  match g.get? name with
  | some value => .ok value
  | none => .error (.unknownConstant name group g.names)

/-- The names of the constants of a group. -/
def constantNames (r : Registry) (group : Value) : Except Failure (List Value) :=
  (r.group group).map Group.names

/-- The table of the constants of a group. -/
def constants (r : Registry) (group : Value) : Except Failure (List (Value × Value)) :=
  (r.group group).map Group.constants

/-- The groups that a selection means: the one of a name, or all of them. -/
def select (r : Registry) : Option Value → Except Failure (List Group)
  | none => .ok r.groups
  | some name => (r.group name).map ([·])

/-- The entries of a selection. -/
def entries (r : Registry) (selection : Option Value) : Except Failure (List Entry) :=
  (r.select selection).map fun groups => groups.flatMap Group.entries

/-- Whether a text is the name of a group, or a pair of texts the names of a group and of
    one of its constants.  Nothing else is in a registry. -/
def contains (r : Registry) (key : Value) : Bool :=
  if key.isText then (r.find? key).isSome
  else match key with
    | .tuple [group, name] =>
        if group.isText && name.isText then
          match r.find? group with
          | some g => (g.get? name).isSome
          | none => false
        else false
    | _ => false

/-- The quoted form of a registry. -/
def quoted (r : Registry) : String :=
  "ConstantRegistry(" ++ String.intercalate ", " (r.names.map Value.display) ++ ")"

/-- The names under which a registry offers its operations. -/
def operations : List String :=
  ["get", "group", "groups", "names", "as_mapping", "entries", "validate", "__len__", "__iter__",
    "__contains__", "__repr__", "__init__"]

/-- The other attributes that a registry has. -/
def otherAttributes : List String :=
  ["_groups", "__slots__", "__class__", "__doc__", "__module__", "__eq__", "__ne__", "__lt__",
    "__le__", "__gt__", "__ge__", "__hash__", "__str__", "__format__", "__new__", "__dir__",
    "__getattribute__", "__setattr__", "__delattr__", "__reduce__", "__reduce_ex__",
    "__getstate__", "__sizeof__", "__init_subclass__", "__subclasshook__"]

/-- Whether a registry has an attribute of a name. -/
def hasAttribute (name : String) : Bool :=
  operations.contains name || otherAttributes.contains name

/-- Setting an attribute of a registry always fails. -/
def attributeFailure (name : String) : Failure :=
  if operations.contains name then .registryReplaced name else .registryAssigned name

end Registry

end NamedConstants
