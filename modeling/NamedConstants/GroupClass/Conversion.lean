import NamedConstants.Failure

/-!
# Conversion of declared values

A class built on text makes a text of every value that is declared.  A tuple is taken for the
arguments of the conversion: nothing at all, a value, or bytes with the name of their encoding
and maybe that of the way to treat errors.  Any other value is the only argument.

Which encodings there are is a matter of the interpreter (`Codec`).
-/

namespace NamedConstants

/-- How bytes are decoded, given the names of the encoding and of the way to treat errors. -/
abbrev Codec :=
  List UInt8 → String → Option String → Except Failure String

/-- The codec that knows no encoding. -/
def Codec.none : Codec :=
  fun _ encoding _ => .error (.unknownEncoding encoding)

/-- The text of an argument that has to be one, without null characters. -/
def textArgument (role : String) (v : Value) : Except Failure String :=
  match v.asText? with
  | some s => if s.toList.contains '\x00' then .error .nullCharacter else .ok s
  | none => .error (.argumentNotText role (if v matches .null then "None" else v.typeName))

/-- Decodes a value, which has to be made of bytes.  Without bytes the encoding does not matter. -/
def decodeValue (codec : Codec) (v : Value) (encoding : String) (errors : Option String) :
    Except Failure String :=
  match v with
  | .bytes [] => .ok ""
  | .bytes bs => codec bs encoding errors
  | v => .error (.notDecodable (if v.isText then none else some v.typeName))

/-- The text that is made of several arguments. -/
def textOfArguments (codec : Codec) : List Value → Except Failure String
  | [] => .ok ""
  | [v] => .ok v.display
  | [v, encoding] => do
      let encoding ← textArgument "encoding" encoding
      decodeValue codec v encoding none
  | [v, encoding, errors] => do
      let encoding ← textArgument "encoding" encoding
      let errors ← textArgument "errors" errors
      decodeValue codec v encoding (some errors)
  | arguments => .error (.tooManyArguments arguments.length)

/-- The text that is made of a declared value. -/
def textOfDeclared (codec : Codec) : Value → Except Failure String
  | .tuple arguments => textOfArguments codec arguments
  | v => .ok v.display

/-- The form in which a class of this base keeps a declared value. -/
def Base.build (base : Base) (codec : Codec) (v : Value) : Except Failure Value :=
  if base.isText then (textOfDeclared codec v).map .text else .ok v

/-- Why the first of several declared values that cannot be converted cannot be, if there is such
    a value. -/
def Base.fault? (base : Base) (codec : Codec) (declared : List (String × Value)) :
    Option Failure :=
  declared.findSome? fun e =>
    match base.build codec e.2 with
    | .ok _ => none
    | .error failure => some failure

end NamedConstants
