import NamedConstants.GroupClass.Conversion
import NamedConstants.Text.Blank
import NamedConstants.Value.Equality

/-!
# Group classes

A group class declares named members with values.  A class built on text makes texts of
them first.  A member whose value equals that of an earlier one is an alias: its name stands
for the earlier member.

`GroupClass.members` gives for each declared name the member that it stands for;
`GroupClass.canonical` gives the members themselves, each once.
-/

namespace NamedConstants

/-- A class of constants. -/
structure GroupClass where
  name : String
  base : Base
  /-- The documentation text, if there is one. -/
  doc : Option String
  /-- The names and values of the members in the order of their declaration. -/
  declared : List (String × Value)
  /-- The attributes that are no members. -/
  assigned : List (String × Value)
  /-- No name is declared twice. -/
  distinct : (declared.map (·.1)).Nodup
  /-- How the interpreter that made the class decodes bytes. -/
  codec : Codec := .none
  /-- Every value can be converted. -/
  converted : base.fault? codec declared = none := by rfl

/-- A member of a class: the name under which it was declared first, and its value. -/
structure Member where
  name : String
  value : Value

namespace GroupClass

/-- The first pair of a list whose name stands before it already, with the value that the
    name has there. -/
def repeated? (seen : List (String × Value)) : List (String × Value) → Option (String × Value)
  | [] => none
  | (name, value) :: rest =>
      match seen.find? fun e => e.1 == name with
      | some earlier => some earlier
      | none => repeated? (seen ++ [(name, value)]) rest

/-- Declares a class; declaring a name twice is a failure, and so is a value that cannot be
    converted. -/
def declare (codec : Codec) (name : String) (base : Base) (doc : Option String)
    (declared : List (String × Value)) : Except Failure GroupClass :=
  if hnames : (declared.map (·.1)).Nodup then
    match hvalues : base.fault? codec declared with
    | none => .ok ⟨name, base, doc, declared, [], hnames, codec, hvalues⟩
    | some failure => .error failure
  else match repeated? [] declared with
    | some (member, value) => .error (.memberRedefined member value)
    | none => .error (.memberRedefined name .null)

/-- The form in which a class keeps a value that it declares. -/
def keep (c : GroupClass) (v : Value) : Value :=
  (c.base.build c.codec v).toOption.getD v

/-- Gives each name the member that it stands for: a member known already, if it has an
    equal value, otherwise a new one. -/
def resolve (known : List Member) : List (String × Value) → List (String × Member)
  | [] => []
  | (name, value) :: rest =>
      match known.find? fun m => m.value.same value with
      | some m => (name, m) :: resolve known rest
      | none => (name, ⟨name, value⟩) :: resolve (known ++ [⟨name, value⟩]) rest

/-- The declared names in order, each with the member that it stands for. -/
def members (c : GroupClass) : List (String × Member) :=
  resolve [] (c.declared.map fun e => (e.1, c.keep e.2))

/-- The members without aliases, in the order of their declaration. -/
def canonical (c : GroupClass) : List Member :=
  (c.members.filter fun e => e.1 == e.2.name).map (·.2)

/-- The member that a name stands for. -/
def member? (c : GroupClass) (name : String) : Option Member :=
  (c.members.find? fun e => e.1 == name).map (·.2)

/-- A member as a value. -/
def valueOf (c : GroupClass) (m : Member) : Value :=
  .member c.name c.base m.name m.value

/-- The member that a name stands for, as a value. -/
def byName (c : GroupClass) (name : String) : Except Failure Value :=
  match c.member? name with
  | some m => .ok (c.valueOf m)
  | none => .error (.noMember name)

/-- The member that has a value.  A member of the class stands for itself. -/
def byValue (c : GroupClass) (v : Value) : Except Failure Value :=
  let own := match v with
    | .member className _ name _ => if className == c.name then c.member? name else none
    | _ => none
  match own.or (c.canonical.find? fun m => m.value.same v) with
  | some m => .ok (c.valueOf m)
  | none => .error (.noMemberOfValue v c.name)

/-- What the attribute of a name gives: a member, an assigned value or one of the texts
    that describe the class. -/
def attributeOf (c : GroupClass) (name : String) : Except Failure Value :=
  match c.member? name, (c.assigned.find? fun e => e.1 == name) with
  | some m, _ => .ok (c.valueOf m)
  | none, some e => .ok e.2
  | none, none =>
      match name with
      | "__doc__" => .ok ((c.doc.map Value.text).getD .null)
      | "__name__" | "__qualname__" => .ok (.text c.name)
      | "__members__" => .ok (.dict (c.members.map fun e => (.text e.1, c.valueOf e.2)))
      | "name" | "value" => .error (.attributeOfMembers c.name name)
      | _ => .error (.noAttribute name)

/-- Sets an attribute, which must not be a member. -/
def assign (c : GroupClass) (name : String) (v : Value) : Except Failure GroupClass :=
  match c.member? name with
  | some _ => .error (.memberAssigned name)
  | none =>
      .ok { c with assigned := (name, v) :: c.assigned.filter fun e => e.1 != name }

/-- Deletes an attribute, which must have been set before and not be a member. -/
def delete (c : GroupClass) (name : String) : Except Failure GroupClass :=
  match c.member? name with
  | some _ => .error (.memberDeleted c.name name)
  | none =>
      if c.assigned.any fun e => e.1 == name then
        .ok { c with assigned := c.assigned.filter fun e => e.1 != name }
      else .error (.nothingToDelete c.name name)

/-- The first line of the trimmed documentation text; empty without one. -/
def description (c : GroupClass) : String :=
  match c.doc with
  | none => ""
  | some doc => String.ofList ((Text.splitLines (Text.trim doc.toList)).headD [])

/-- Whether the class belongs to the classes whose members show themselves as texts. -/
def isLiteral (c : GroupClass) : Bool :=
  c.base == .literal

end GroupClass

end NamedConstants
