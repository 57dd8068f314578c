import NamedConstants.Registry.Basic

/-!
# Validation of registries

A registry is sound if every group has a constant and every value is a text that is not
empty.  `Registry.problems` describes every exception, group by group in order.
-/

namespace NamedConstants

/-- What is wrong with a constant, if anything is. -/
def Entry.problem? (e : Entry) : Option String :=
  let subject := e.group.display ++ "." ++ e.name.display
  match e.value.asText? with
  | none => some (subject ++ ": value is " ++ e.value.typeName ++ ", not str")
  | some s => if s.isEmpty then some (subject ++ ": value is empty") else none

/-- What is wrong with a group. -/
def Group.problems (g : Group) : List String :=
  (if g.isEmpty then [g.name.display ++ ": group defines no constants"] else []) ++
    g.entries.filterMap Entry.problem?

/-- What is wrong with a registry. -/
def Registry.problems (r : Registry) : List String :=
  r.groups.flatMap Group.problems

end NamedConstants
