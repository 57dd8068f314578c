import NamedConstants.Text.Digit
import NamedConstants.Text.Padding

/-!
# Field layouts

The small language that says how a text is laid out in a field:

    [[fill]align][sign][z][#][0][width][grouping][.precision][kind]

It is shared with numbers, so `Layout.read` accepts settings that make sense for numbers
only, and `Layout.render` refuses them for a text.
-/

namespace NamedConstants.Text

/-- Where a content stands in its field. -/
inductive Placement where
  /-- The fill surrounds it. -/
  | around (alignment : Alignment)
  /-- The fill goes between its sign and its digits. -/
  | behindSign
  deriving DecidableEq, Repr

/-- A parsed layout. -/
structure Layout where
  fill : Option Char
  /-- Where the content stands, if it is said. -/
  placement : Option Placement
  sign : Option Char
  /-- Whether a negative zero is asked to lose its sign. -/
  dropsZeroSign : Bool
  alternate : Bool
  zeroFill : Bool
  width : Nat
  grouping : Option Char
  /-- The greatest number of characters, if there is one. -/
  precision : Option Nat
  kind : Char
  deriving DecidableEq, Repr

/-- The character that the field is filled with. -/
def Layout.filler (layout : Layout) : Char :=
  if layout.zeroFill then '0' else layout.fill.getD ' '

/-- The kind of a layout that says none, for a text. -/
def textKind : Char := 's'

/-- The kind of a layout that says none, for an integer. -/
def integerKind : Char := 'd'

/-- The kind of a layout that says none, for a number with a point. -/
def pointKind : Char := '\x00'

/-- Why a layout cannot be read or used. -/
inductive LayoutFault where
  /-- A number does not fit a machine word. -/
  | tooManyDigits
  | bothSeparators
  | missingPrecision
  | invalid (layout : List Char) (type : String)
  /-- The kind does not group its digits. -/
  | ungroupedKind (separator kind : Char)
  | unknownKind (kind : Char) (type : String)
  | spaceSign
  | sign
  | zeroSign
  | alternate
  | signAlignment
  | integerPrecision
  | integerZeroSign
  | characterSign
  | characterAlternate
  | precisionTooBig
  /-- An integer beyond the characters. -/
  | notACharacter
  /-- An integer beyond a machine word, to be shown as a character. -/
  | characterTooLarge
  /-- An integer beyond the numbers with a point. -/
  | integerTooLarge
  deriving DecidableEq, Repr

/-- How a kind is shown in a message: as itself if it is visible ASCII, otherwise by its
    code point. -/
def showKind (kind : Char) : String :=
  if 32 < kind.toNat ∧ kind.toNat < 128 then String.ofList [kind]
  else "\\x" ++ String.ofList (Nat.toDigits 16 kind.toNat)

/-- The text of a fault. -/
def LayoutFault.message : LayoutFault → String
  | .tooManyDigits => "Too many decimal digits in format string"
  | .bothSeparators => "Cannot specify both ',' and '_'."
  | .missingPrecision => "Format specifier missing precision"
  | .invalid layout type =>
      "Invalid format specifier '" ++ String.ofList layout ++ "' for object of type '" ++ type ++
        "'"
  | .ungroupedKind separator kind =>
      "Cannot specify '" ++ String.ofList [separator] ++ "' with '" ++ showKind kind ++ "'."
  | .unknownKind kind type =>
      "Unknown format code '" ++ showKind kind ++ "' for object of type '" ++ type ++ "'"
  | .spaceSign => "Space not allowed in string format specifier"
  | .sign => "Sign not allowed in string format specifier"
  | .zeroSign => "Negative zero coercion (z) not allowed in string format specifier"
  | .alternate => "Alternate form (#) not allowed in string format specifier"
  | .signAlignment => "'=' alignment not allowed in string format specifier"
  | .integerPrecision => "Precision not allowed in integer format specifier"
  | .integerZeroSign => "Negative zero coercion (z) not allowed in integer format specifier"
  | .characterSign => "Sign not allowed with integer format specifier 'c'"
  | .characterAlternate => "Alternate form (#) not allowed with integer format specifier 'c'"
  | .precisionTooBig => "precision too big"
  | .notACharacter => "%c arg not in range(0x110000)"
  | .characterTooLarge => "Python int too large to convert to C long"
  | .integerTooLarge => "int too large to convert to float"

/-- Whether a fault lies in the size of the number and not in the layout. -/
def LayoutFault.isOverflow : LayoutFault → Bool
  | .notACharacter | .characterTooLarge | .integerTooLarge => true
  | _ => false

/-- The placement that a character stands for. -/
def placementOf? : Char → Option Placement
  | '<' => some (.around .left)
  | '>' => some (.around .right)
  | '^' => some (.around .centre)
  | '=' => some .behindSign
  | _ => none

/-- The greatest number that a layout may hold. -/
def layoutNumberLimit : Nat := Nat.pow 2 63 - 1

/-- Reads an optional number and gives it with the text after it. -/
def readNumber? (s : List Char) : Except LayoutFault (Option Nat × List Char) :=
  match readDigits 0 s with
  | (0, _, rest) => .ok (none, rest)
  | (_, value, rest) =>
      if layoutNumberLimit < value then .error .tooManyDigits else .ok (some value, rest)

/-- Reads the fill and the placement, each if it is given. -/
def readPlacement : List Char → Option Char × Option Placement × List Char
  | [] => (none, none, [])
  | [c] =>
      match placementOf? c with
      | some p => (none, some p, [])
      | none => (none, none, [c])
  | c :: d :: rest =>
      match placementOf? d with
      | some p => (some c, some p, rest)
      | none =>
          match placementOf? c with
          | some p => (none, some p, d :: rest)
          | none => (none, none, c :: d :: rest)

/-- Reads one of the given characters, if it comes next. -/
def readOneOf (choices : List Char) : List Char → Option Char × List Char
  | [] => (none, [])
  | c :: rest => if choices.contains c then (some c, rest) else (none, c :: rest)

/-- Reads the group separator; the two of them exclude each other. -/
def readGrouping (s : List Char) : Except LayoutFault (Option Char × List Char) :=
  match s with
  | ',' :: '_' :: _ => .error .bothSeparators
  | '_' :: ',' :: _ => .error .bothSeparators
  | ',' :: rest => .ok (some ',', rest)
  | '_' :: rest => .ok (some '_', rest)
  | _ => .ok (none, s)

/-- Reads the precision behind its point. -/
def readPrecision (s : List Char) : Except LayoutFault (Option Nat × List Char) :=
  match s with
  | '.' :: rest =>
      match readNumber? rest with
      | .error fault => .error fault
      | .ok (none, _) => .error .missingPrecision
      | .ok (some n, rest) => .ok (some n, rest)
  | _ => .ok (none, s)

/-- Whether a kind may group its digits with this separator. -/
def groupsDigits (separator kind : Char) : Bool :=
  "deEfFgG%".toList.contains kind || kind == pointKind ||
    (separator == '_' && "boxX".toList.contains kind)

/-- Reads the layout of a value of the named type; `unset` is the kind of a layout that says
    none. -/
def Layout.read (type : String) (unset : Char) (layout : List Char) :
    Except LayoutFault Layout := do
  let (fill, placement, s) := readPlacement layout
  let (sign, s) := readOneOf [' ', '+', '-'] s
  let (dropsZeroSign, s) := readOneOf ['z'] s
  let (alternate, s) := readOneOf ['#'] s
  let (zeroFill, s) := if fill.isSome then (none, s) else readOneOf ['0'] s
  let (width, s) ← readNumber? s
  let (grouping, s) ← readGrouping s
  let (precision, s) ← readPrecision s
  let kind ← match s with
    | [] => pure unset
    | [k] => pure k
    | _ => throw (.invalid layout type)
  match grouping with
  | none => pure ()
  | some separator =>
      if groupsDigits separator kind then pure () else throw (.ungroupedKind separator kind)
  pure {
    fill := fill
    placement := placement
    sign := sign
    dropsZeroSign := dropsZeroSign.isSome
    alternate := alternate.isSome
    zeroFill := zeroFill.isSome
    width := width.getD 0
    grouping := grouping
    precision := precision
    kind := kind }

/-- Lays a text out: at most `precision` of its characters in a field of at least `width`.
    Settings for numbers are refused. -/
def Layout.render (layout : Layout) (type : String) (s : List Char) :
    Except LayoutFault (List Char) := do
  if layout.kind ≠ textKind then throw (.unknownKind layout.kind type)
  match layout.sign with
  | some ' ' => throw .spaceSign
  | some _ => throw .sign
  | none => pure ()
  if layout.dropsZeroSign then throw .zeroSign
  if layout.alternate then throw .alternate
  match layout.placement.getD (.around .left) with
  | .behindSign => throw .signAlignment
  | .around alignment =>
      let shown := match layout.precision with
        | some n => s.take n
        | none => s
      pure (pad alignment layout.filler layout.width shown)

/-- Lays out a text of the named type; the empty layout leaves it as it is. -/
def layOut (type : String) (layout s : List Char) : Except LayoutFault (List Char) := do
  if layout.isEmpty then pure s
  else (← Layout.read type textKind layout).render type s

end NamedConstants.Text
