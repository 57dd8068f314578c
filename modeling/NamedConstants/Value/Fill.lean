import NamedConstants.Decimal.Field
import NamedConstants.Value.TextOperations

/-!
# Filling templates

Puts a value into the places of a brace template or of a percent template.  A value is laid
out under the name of its type; a member that shows itself by class and name counts as a
plain text there.
-/

namespace NamedConstants.Value

open Text

/-- Lays a value out in a field.  Texts, members and numbers have layouts of their own; the
    other values know the empty layout only. -/
def layOut (v : Value) (layout : List Char) : Except Failure (List Char) :=
  let asText (type : String) : Except Failure (List Char) :=
    (Text.layOut type layout v.display.toList).mapError .layout
  let asNumber (unset : Char) (render : Layout → Except LayoutFault (List Char)) :
      Except Failure (List Char) :=
    ((Layout.read v.typeName unset layout).bind render).mapError .layout
  if layout.isEmpty then .ok v.display.toList
  else match v with
    | .text _ => asText "str"
    | .member className .literal _ _ => asText className
    | .member _ _ _ _ => asText "str"
    | .bool b =>
        asNumber integerKind fun l => Decimal.layOutInteger v.typeName l (if b then 1 else 0)
    | .int i => asNumber integerKind fun l => Decimal.layOutInteger v.typeName l i
    | .float x => asNumber pointKind fun l => Decimal.layOutPoint v.typeName l x
    | _ => .error (.noLayout v.typeName)

/-- How the places of a brace template are counted. -/
inductive Numbering where
  | undecided
  | byDefault (next : Nat)
  | explicit
  deriving DecidableEq, Repr

/-- The value that the name of a place asks for, and how places are counted after it. -/
def argument (v : Value) (numbering : Numbering) (name : List Char) :
    Except Failure (Value × Numbering) :=
  let take (n : Nat) (numbering : Numbering) : Except Failure (Value × Numbering) :=
    if n = 0 then .ok (v, numbering) else .error (.noArgument n)
  if name.isEmpty then
    match numbering with
    | .explicit => .error (.mixedNumbering true)
    | .undecided => take 0 (.byDefault 1)
    | .byDefault n => take n (.byDefault (n + 1))
  else
    match placeNumber? name with
    | .error fault => .error (.template fault)
    | .ok none => .error (.noNamedArgument (String.ofList name))
    | .ok (some n) =>
        match numbering with
        | .byDefault _ => .error (.mixedNumbering false)
        | _ => take n .explicit

/-- An attribute of a value: members have a name and a value. -/
def memberField (v : Value) (name : List Char) : Except Failure Value :=
  match v, String.ofList name with
  | .member _ _ memberName _, "name" => .ok (.text memberName)
  | .member _ _ _ value, "value" => .ok value
  | _, name => .error (.noOperation v.typeName name)

/-- The item of a value at an index, or at a number that is a key. -/
def item (v : Value) (i : Nat) : Except Failure Value :=
  let at? (kind : SequenceKind) (found : Option Value) : Except Failure Value :=
    match found with
    | some w => .ok w
    | none => .error (.outOfRange kind)
  match v.asText? with
  | some s => at? .text (s.toList[i]?.map fun c => .text (String.ofList [c]))
  | none =>
      match v with
      | .list items => at? .list items[i]?
      | .tuple items => at? .tuple items[i]?
      | .bytes bs => at? .bytes (bs[i]?.map fun b => .int b.toNat)
      | .dict entries => getKey (.int i) entries
      | _ => .error (.noItems v.typeName)

/-- What a value holds at a text that is a key; a sequence has none. -/
def itemNamed (v : Value) (key : List Char) : Except Failure Value :=
  match v.asText? with
  | some _ => .error (.notAnIndex .text)
  | none =>
      match v with
      | .list _ => .error (.notAnIndex .list)
      | .tuple _ => .error (.notAnIndex .tuple)
      | .bytes _ => .error (.notAnIndex .bytes)
      | .dict entries => getKey (.text (String.ofList key)) entries
      | _ => .error (.noItems v.typeName)

/-- The part of a value to which a step leads. -/
def follow (v : Value) : PathStep → Except Failure Value
  | .attribute name => memberField v name
  | .index i => item v i
  | .key name => itemNamed v name
  | .broken fault => .error (.template fault)

/-- A value in the form that a conversion letter asks for. -/
def convert (v : Value) : Option Char → Except Failure Value
  | none => .ok v
  | some 's' => .ok (.text v.display)
  | some 'r' => .ok (.text v.quoted)
  | some 'a' => .ok (.text (String.ofList (asciiOnly v.quotedChars)))
  | some c => .error (.unknownConversion c)

/-- What stands in a place, given how its layout is filled. -/
def fillField (v : Value) (fillLayout : Numbering → List Char → Except Failure (List Char × Numbering))
    (numbering : Numbering) (place : BraceField) : Except Failure (List Char × Numbering) := do
  let (found, numbering) ← argument v numbering place.head
  let found ← place.path.foldlM follow found
  let found ← convert found place.conversion
  let (layout, numbering) ←
    if place.layout.contains '\x7b' then fillLayout numbering place.layout
    else pure (place.layout, numbering)
  return (← layOut found layout, numbering)

/-- Fills the pieces of a brace template. -/
def fillPieces (fill : Numbering → BraceField → Except Failure (List Char × Numbering))
    (numbering : Numbering) : List BracePiece → Except Failure (List Char × Numbering)
  | [] => .ok ([], numbering)
  | .literal s :: rest => do
      let (after, numbering) ← fillPieces fill numbering rest
      return (s ++ after, numbering)
  | .broken fault :: _ => .error (.template fault)
  | .field place :: rest => do
      let (shown, numbering) ← fill numbering place
      let (after, numbering) ← fillPieces fill numbering rest
      return (shown ++ after, numbering)

/-- Fills a brace template whose layouts may hold places down to a depth. -/
def fillTo (v : Value) : Nat → Numbering → List Char → Except Failure (List Char × Numbering)
  | 0, _, _ => .error .templateTooDeep
  | depth + 1, numbering, template =>
      fillPieces (v.fillField (v.fillTo depth)) numbering (bracePieces (.literal []) template)

/-- Puts a value into a brace template.  Layouts may hold places, whose layouts may not. -/
def fillBraces (v : Value) (template : String) : Except Failure String :=
  (v.fillTo 2 .undecided template.toList).map fun result => String.ofList result.1

/-- A value in the form that a letter of a percent template asks for. -/
def percentForm (v : Value) (place : PercentField) : Except Failure (List Char) :=
  match place.kind with
  | 's' => .ok v.display.toList
  | 'r' => .ok v.quotedChars
  | 'a' => .ok (asciiOnly v.quotedChars)
  | 'c' =>
      match v.asText?.map String.toList with
      | some [c] => .ok [c]
      | _ => .error .characterRequired
  | kind =>
      if ['o', 'x', 'X'].contains kind then .error (.integerRequired kind v.typeName)
      else if ['d', 'i', 'u'].contains kind then .error (.numberRequired kind v.typeName)
      else if "eEfFgG".toList.contains kind then .error (.pointNumberRequired v.typeName)
      else .error (.unknownForm kind place.position)

/-- Cuts a text to its greatest length and brings it to its least one. -/
def fitPercent (place : PercentField) (s : List Char) : List Char :=
  let shown := match place.precision with
    | some n => if place.kind = 'c' then s else s.take n
    | none => s
  pad (if place.left then .left else .right) ' ' place.width shown

/-- Fills the pieces of a percent template, given whether the value is still to be used. -/
def fillPercentPieces (v : Value) (unused : Bool) : List PercentPiece → Except Failure (List Char)
  | [] => if unused then .error .valueLeftOver else .ok []
  | .literal c :: rest => (fillPercentPieces v unused rest).map (c :: ·)
  | .broken fault :: _ => .error (.template fault)
  | .starred :: _ => .error (if unused then .sizeNotInteger else .tooFewValues)
  | .field place :: rest =>
      if unused then do
        let shown ← percentForm v place
        return fitPercent place shown ++ (← fillPercentPieces v false rest)
      else .error .tooFewValues

/-- Puts a value into a percent template, which must have exactly one place for it. -/
def fillPercent (v : Value) (template : String) : Except Failure String :=
  (fillPercentPieces v true (percentPieces 0 .literal template.toList)).map String.ofList

end NamedConstants.Value
