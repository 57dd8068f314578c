import NamedConstants.Markup.Render
import NamedConstants.Text.Template
import NamedConstants.Value.Display

/-!
# Failures

Every way in which an operation can fail, by its cause.  A failure has a category, which
names its kind to the user, a message, and for the failures of this library's own an
optional hint.
-/

namespace NamedConstants

/-- Characters that the name of a kind of failure may hold: the letters and digits of ASCII, the
    low line and everything beyond ASCII. -/
def isNameChar (c : Char) : Bool :=
  c.isAlphanum || c == '_' || 0x80 ≤ c.toNat

/-- The name of a kind of failure that is not one of the known ones. -/
structure KindName where
  text : String
  valid : text.toList.all isNameChar = true
  deriving DecidableEq, Repr

/-- The kinds of failure.  The first five are this library's own. -/
inductive Category where
  | constants
  | unknownGroup
  | unknownConstant
  | integrity
  | environment
  | type
  | value
  | key
  | index
  | attribute
  | frozen
  | markup
  | unrenderable
  | overflow
  | runtime
  /-- Any other kind, by its name. -/
  | other (name : KindName)
  deriving DecidableEq, Repr

namespace Category

/-- The name under which a kind of failure is reported. -/
def name : Category → String
  | .constants => "QirConstantsError"
  | .unknownGroup => "UnknownGroupError"
  | .unknownConstant => "UnknownConstantError"
  | .integrity => "RegistryIntegrityError"
  | .environment => "EnvironmentError"
  | .type => "TypeError"
  | .value => "ValueError"
  | .key => "KeyError"
  | .index => "IndexError"
  | .attribute => "AttributeError"
  | .frozen => "FrozenInstanceError"
  | .markup => "MarkupError"
  | .unrenderable => "NotRenderableError"
  | .overflow => "OverflowError"
  | .runtime => "RuntimeError"
  | .other name => name.text

/-- The known kinds of failure. -/
def known : List Category :=
  [.constants, .unknownGroup, .unknownConstant, .integrity, .environment, .type, .value, .key,
    .index, .attribute, .frozen, .markup, .unrenderable, .overflow, .runtime]

/-- The kind of failure that is reported under a name. -/
def ofName? (name : String) : Option Category :=
  (known.find? fun c => c.name == name).or
    (if h : name.toList.all isNameChar = true then some (.other ⟨name, h⟩) else none)

/-- This library's own kinds, the general one first. -/
def own : List Category :=
  [.constants, .unknownGroup, .unknownConstant, .integrity, .environment]

/-- Whether a kind of failure is this library's own. -/
def isOwn (c : Category) : Bool :=
  own.contains c

/-- The own kinds that a kind of failure falls under: itself and the general one. -/
def within (c : Category) : List Category :=
  own.filter fun k => c.isOwn && (k == .constants || k == c)

end Category

/-- The line that gives the known names of something, or says that there are none.  It goes
    by the text of the list, so a single empty name counts as none. -/
def knownLine (label listed : String) : String :=
  if listed.isEmpty then "No " ++ label ++ " are defined." else "Known " ++ label ++ ": " ++ listed

/-- The line that lists the given names. -/
def knownNames (label : String) (names : List String) : String :=
  knownLine label (String.intercalate ", " names)

/-- The sequences that can be asked for the item at an index. -/
inductive SequenceKind where
  | text
  | list
  | tuple
  | bytes
  deriving DecidableEq, Repr

/-- What is said about an index that a sequence does not have. -/
def SequenceKind.outOfRange : SequenceKind → String
  | .text => "string index out of range"
  | .list => "list index out of range"
  | .tuple => "tuple index out of range"
  | .bytes => "index out of range"

/-- What is said about a text in the place of an index. -/
def SequenceKind.notAnIndex : SequenceKind → String
  | .text => "string indices must be integers, not 'str'"
  | .list => "list indices must be integers or slices, not str"
  | .tuple => "tuple indices must be integers or slices, not str"
  | .bytes => "byte indices must be integers or slices, not str"

/-- Why an operation failed. -/
inductive Failure where
  /-- A failure that is given from outside, with its message and hint. -/
  | given (category : Category) (text : String) (hint : Option String)
  | unknownGroup (asked : Value) (known : List Value)
  | unknownConstant (asked group : Value) (known : List Value)
  | duplicateGroup (name : String)
  | rendererMissing
  | noMember (name : String)
  | noKey (key : Value)
  | noMemberOfValue (value : Value) (className : String)
  | noAttribute (name : String)
  /-- A group class has only members with this attribute, and is asked for its own. -/
  | attributeOfMembers (className name : String)
  /-- A group class declares a name twice. -/
  | memberRedefined (name : String) (value : Value)
  /-- More values than the three are declared from which a text can be made. -/
  | tooManyArguments (count : Nat)
  /-- An argument from which a text is to be made is no text. -/
  | argumentNotText (role type : String)
  | nullCharacter
  /-- Only bytes can be decoded; the type is missing where a text is given. -/
  | notDecodable (type : Option String)
  | unknownEncoding (name : String)
  | memberAssigned (name : String)
  | memberDeleted (className name : String)
  | nothingToDelete (className name : String)
  | noOperation (type operation : String)
  /-- Only a text can be put between texts. -/
  | notConcatenable (type : String)
  /-- Only a text can be looked for in a text. -/
  | notSearchable (type : String)
  /-- Only a text can be looked for at an end of a text. -/
  | notAnEnd (operation type : String)
  | unordered (left right : String)
  | noLength (type : String)
  /-- An item of a sequence of texts is no text. -/
  | itemNotText (index : Nat) (type : String)
  | notASequence
  | unhashable (type : String)
  /-- A field of a finished record cannot be assigned. -/
  | fieldAssigned (field : String)
  /-- A field of a finished record cannot be deleted. -/
  | fieldDeleted (field : String)
  | tableAssigned
  | tableDeleted
  | registryAssigned (name : String)
  | registryReplaced (name : String)
  | notSerializable (type : String)
  | keyNotSerializable (type : String)
  /-- A cell of a ruled table is neither text nor empty. -/
  | notRenderable (type : String)
  | noLayout (type : String)
  | layout (fault : Text.LayoutFault)
  | template (fault : Text.TemplateFault)
  | outOfRange (kind : SequenceKind)
  | notAnIndex (kind : SequenceKind)
  | noItems (type : String)
  /-- A template asks for a value that it is not given. -/
  | noArgument (index : Nat)
  /-- A template asks for a named value that it is not given. -/
  | noNamedArgument (name : String)
  /-- A template numbers its places both itself and by default. -/
  | mixedNumbering (toDefault : Bool)
  | templateTooDeep
  /-- A template asks for a form that does not exist. -/
  | unknownConversion (conversion : Char)
  | tooFewValues
  | valueLeftOver
  /-- A size in a template is to be taken from something that is no integer. -/
  | sizeNotInteger
  | integerRequired (kind : Char) (type : String)
  | numberRequired (kind : Char) (type : String)
  /-- A template asks for a number in a form with a point. -/
  | pointNumberRequired (type : String)
  | characterRequired
  /-- A template names a form that does not exist. -/
  | unknownForm (kind : Char) (position : Nat)
  /-- Markup cannot be rendered. -/
  | markup (fault : Markup.Fault)

namespace Failure

/-- The kind of a failure. -/
def category : Failure → Category
  | .given category _ _ => category
  | .unknownGroup .. => .unknownGroup
  | .unknownConstant .. => .unknownConstant
  | .duplicateGroup _ => .integrity
  | .rendererMissing => .environment
  | .noMember _ | .noKey _ | .noNamedArgument _ => .key
  | .template .needsMapping => .type
  | .layout fault => if fault.isOverflow then .overflow else .value
  | .noMemberOfValue .. | .template _ | .mixedNumbering _ | .templateTooDeep
  | .unknownConversion _ | .unknownForm .. => .value
  | .noAttribute _ | .attributeOfMembers .. | .memberAssigned _ | .memberDeleted .. | .nothingToDelete ..
  | .noOperation .. | .registryAssigned _ | .registryReplaced _ => .attribute
  | .nullCharacter => .value
  | .unknownEncoding _ => .other ⟨"LookupError", by decide⟩
  | .memberRedefined .. | .tooManyArguments _ | .argumentNotText .. | .notDecodable _
  | .notConcatenable _ | .notSearchable _ | .notAnEnd .. | .unordered .. | .noLength _
  | .itemNotText .. | .notASequence | .unhashable _ | .tableAssigned | .tableDeleted
  | .notSerializable _ | .keyNotSerializable _ | .noLayout _ | .tooFewValues | .valueLeftOver
  | .notAnIndex _ | .noItems _ | .sizeNotInteger | .integerRequired .. | .numberRequired .. | .pointNumberRequired _
  | .characterRequired => .type
  | .fieldAssigned _ | .fieldDeleted _ => .frozen
  | .notRenderable _ => .unrenderable
  | .noArgument _ | .outOfRange _ => .index
  | .markup .noNumber => .value
  | .markup _ => .markup

/-- A text in single quotation marks, as it is. -/
def named (s : String) : String :=
  "'" ++ s ++ "'"

/-- The quoted form of a text. -/
def quotedText (s : String) : String :=
  (Value.text s).quoted

/-- What a failure says. -/
def message : Failure → String
  | .given category text _ => if category = .key then quotedText text else text
  | .unknownGroup asked _ => "Unknown constant group " ++ asked.quoted ++ "."
  | .unknownConstant asked group _ =>
      "Unknown constant " ++ asked.quoted ++ " in group " ++ group.quoted ++ "."
  | .duplicateGroup name =>
      "Constant group " ++ quotedText name ++ " is defined more than once."
  | .rendererMissing => "rich is not installed."
  | .noMember name => quotedText name
  | .noKey key => key.quoted
  | .noMemberOfValue value className => value.quoted ++ " is not a valid " ++ className
  | .noAttribute name => name
  | .attributeOfMembers className name =>
      "<enum " ++ quotedText className ++ "> has no attribute " ++ quotedText name
  | .memberRedefined name value => quotedText name ++ " already defined as " ++ value.quoted
  | .tooManyArguments count =>
      "str() takes at most 3 arguments (" ++ toString count ++ " given)"
  | .argumentNotText role type =>
      "str() argument " ++ named role ++ " must be str, not " ++ type
  | .nullCharacter => "embedded null character"
  | .notDecodable none => "decoding str is not supported"
  | .notDecodable (some type) =>
      "decoding to str: need a bytes-like object, " ++ type ++ " found"
  | .unknownEncoding name => "unknown encoding: " ++ name
  | .memberAssigned name => "cannot reassign member " ++ quotedText name
  | .memberDeleted className name =>
      quotedText className ++ " cannot delete member " ++ quotedText name ++ "."
  | .nothingToDelete className name =>
      "type object " ++ named className ++ " has no attribute " ++ named name
  | .noOperation type operation =>
      named type ++ " object has no attribute " ++ named operation
  | .notConcatenable type =>
      "can only concatenate str (not \"" ++ type ++ "\") to str"
  | .notSearchable type => "'in <string>' requires string as left operand, not " ++ type
  | .notAnEnd operation type =>
      operation ++ " first arg must be str or a tuple of str, not " ++ type
  | .unordered left right =>
      "'<' not supported between instances of " ++ named left ++ " and " ++ named right
  | .noLength type => "object of type " ++ named type ++ " has no len()"
  | .itemNotText index type =>
      "sequence item " ++ toString index ++ ": expected str instance, " ++ type ++ " found"
  | .notASequence => "can only join an iterable"
  | .unhashable type => "unhashable type: " ++ named type
  | .fieldAssigned field => "cannot assign to field " ++ quotedText field
  | .fieldDeleted field => "cannot delete field " ++ quotedText field
  | .tableAssigned => "'mappingproxy' object does not support item assignment"
  | .tableDeleted => "'mappingproxy' object does not support item deletion"
  | .registryAssigned name => "'ConstantRegistry' object has no attribute " ++ named name
  | .registryReplaced name => "'ConstantRegistry' object attribute " ++ named name ++
      " is read-only"
  | .notSerializable type => "Object of type " ++ type ++ " is not JSON serializable"
  | .keyNotSerializable type =>
      "keys must be str, int, float, bool or None, not " ++ type
  | .notRenderable type =>
      "unable to render " ++ type ++ "; a string or other renderable object is required"
  | .noLayout type => "unsupported format string passed to " ++ type ++ ".__format__"
  | .layout fault => fault.message
  | .template fault => fault.message
  | .outOfRange kind => kind.outOfRange
  | .notAnIndex kind => kind.notAnIndex
  | .noItems type => named type ++ " object is not subscriptable"
  | .noArgument index =>
      "Replacement index " ++ toString index ++ " out of range for positional args tuple"
  | .noNamedArgument name => quotedText name
  | .mixedNumbering true =>
      "cannot switch from manual field specification to automatic field numbering"
  | .mixedNumbering false =>
      "cannot switch from automatic field numbering to manual field specification"
  | .templateTooDeep => "Max string recursion exceeded"
  | .unknownConversion conversion =>
      "Unknown conversion specifier " ++ Text.showKind conversion
  | .tooFewValues => "not enough arguments for format string"
  | .valueLeftOver => "not all arguments converted during string formatting"
  | .sizeNotInteger => "* wants int"
  | .integerRequired kind type =>
      "%" ++ String.ofList [kind] ++ " format: an integer is required, not " ++ type
  | .numberRequired kind type =>
      "%" ++ String.ofList [kind] ++ " format: a real number is required, not " ++ type
  | .pointNumberRequired type => "must be real number, not " ++ type
  | .characterRequired => "%c requires int or char"
  | .unknownForm kind position =>
      "unsupported format character '" ++
        (if 31 ≤ kind.toNat ∧ kind.toNat < 127 then String.ofList [kind] else "?") ++ "' (0x" ++
        String.ofList (Nat.toDigits 16 kind.toNat) ++ ") at index " ++ toString position
  | .markup fault => fault.message

/-- The quoted form of a failure: its kind with its message. -/
def quoted (f : Failure) : String :=
  f.category.name ++ "(" ++ quotedText f.message ++ ")"

/-- What may help the user, for a failure of this library's own. -/
def hint : Failure → Option String
  | .given category _ hint => if category.isOwn then hint else none
  | .unknownGroup _ known => some (knownNames "groups" (known.map Value.display))
  | .unknownConstant _ group known =>
      some (knownNames (group.display ++ " constants") (known.map Value.display))
  | .rendererMissing => some "Install with: pip install rich"
  | _ => none

end Failure

end NamedConstants
