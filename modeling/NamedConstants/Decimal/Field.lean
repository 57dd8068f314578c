import NamedConstants.Decimal.Notation
import NamedConstants.Decimal.Rounded
import NamedConstants.Text.Layout

/-!
# Numbers in fields

How a number is laid out in a field.  The layout's kind says how it is written: in which
base, with how many digits, with an exponent or without one.  Its digits in front of the
point may be grouped, and a field that is filled with zeros behind the sign is filled
inside the groups too.
-/

namespace NamedConstants.Decimal

open Text (Layout LayoutFault)

/-- The parts of a written number. -/
structure Written where
  negative : Bool
  /-- The mark of the base. -/
  mark : List Char
  /-- The digits in front of the point. -/
  digits : List Char
  /-- What stands behind these digits. -/
  rest : List Char
  deriving DecidableEq, Repr

/-- Groups digits from the right with a separator, `size` to a group, and brings them to a
    least number of characters with zeros in front.  All texts are reversed. -/
def groupReversed (separator : Char) (size : Nat) (digits : List Char) (least : Nat) :
    List Char :=
  let count := min (size + 1) (max (max digits.length least) 1)
  let group := digits.take count ++ List.replicate (count - digits.length) '0'
  if digits.length ≤ count ∧ least ≤ count then group
  else group ++ separator :: groupReversed separator size (digits.drop count) (least - count - 1)
termination_by digits.length + least
decreasing_by
  simp only [List.length_drop]
  omega

/-- Digits with their separators, brought to a least number of characters. -/
def groupDigits (grouping : Option Char) (size : Nat) (digits : List Char) (least : Nat) :
    List Char :=
  match grouping with
  | none => List.replicate (least - digits.length) '0' ++ digits
  | some separator => (groupReversed separator (size - 1) digits.reverse least).reverse

/-- The number of digits in a group: four in bases other than ten, otherwise three. -/
def groupSize (kind : Char) : Nat :=
  if "boxX".toList.contains kind then 4 else 3

/-- Lays a written number out.  Where the layout says nothing, it stands at the right, or
    fills its field with zeros behind the sign. -/
def Written.layOut (w : Written) (layout : Layout) : List Char :=
  let sign := if w.negative then ['-'] else match layout.sign with
    | some '+' => ['+']
    | some ' ' => [' ']
    | _ => []
  let placement := layout.placement.getD
    (if layout.zeroFill then .behindSign else .around .right)
  let others := sign.length + w.mark.length + w.rest.length
  let least :=
    if layout.filler = '0' ∧ placement = .behindSign then layout.width - others else 0
  let body :=
    if w.digits.isEmpty then []
    else groupDigits layout.grouping (groupSize layout.kind) w.digits least
  let size := others + body.length
  match placement with
  | .behindSign =>
      sign ++ w.mark ++ List.replicate (layout.width - size) layout.filler ++ body ++ w.rest
  | .around alignment =>
      Text.place alignment layout.filler size layout.width (sign ++ w.mark ++ body ++ w.rest)

/-- An exponent behind its mark. -/
def exponentPart (upper : Bool) (e : Int) : List Char :=
  (if upper then 'E' else 'e') :: exponentText e

/-- How the digits of a number with a point are set out. -/
structure Form where
  /-- Whether the mark of the exponent is a capital. -/
  upper : Bool
  /-- Whether a number without an exponent keeps a digit behind its point. -/
  keepsZero : Bool
  /-- Whether the point stays where no digit follows it. -/
  keepsPoint : Bool
  /-- Whether there is an exponent, behind one digit in front of the point. -/
  hasExponent : Bool
  deriving DecidableEq, Repr

/-- Writes the first `stop` digits, zeros behind the given ones, of which `point` stand in
    front of the point where there is no exponent. -/
def Form.write (f : Form) (negative : Bool) (digits : List Char) (point stop : Int) : Written :=
  let shift := point - 1
  let point := if f.hasExponent then 1 else point
  let stop := max stop (if f.keepsZero && !f.hasExponent then point + 1 else point)
  let start := if point ≤ 0 then point - 1 else 0
  let digitAt (i : Int) : Char := if i < 0 then '0' else digits.getD i.toNat '0'
  let run (first last : Int) : List Char :=
    (List.range (last - first).toNat).map fun k : Nat => digitAt (first + k)
  let fraction := run point stop
  { negative := negative
    mark := []
    digits := run start point
    rest :=
      (if fraction.isEmpty && !f.keepsPoint then [] else '.' :: fraction) ++
        (if f.hasExponent then exponentPart f.upper shift else []) }

/-- Writes a finite number, given by its sign and the exact value of its size, in the form of
    a kind with a precision if one is given. -/
def writeFinite (kind : Char) (precision : Option Nat) (alternate negative : Bool)
    (mantissa : Nat) (exponent : Int) : Written :=
  let upper := "EFG".toList.contains kind
  if kind = 'e' ∨ kind = 'E' then
    let count := precision.getD 6 + 1
    let (digits, point) := if mantissa = 0 then (0, 1) else significant count mantissa exponent
    Form.write ⟨upper, false, alternate, true⟩ negative (ofNat digits) point count
  else if kind = 'f' ∨ kind = 'F' ∨ kind = '%' then
    let count := precision.getD 6
    let digits := ofNat (places count mantissa exponent)
    Form.write ⟨upper, false, alternate, false⟩ negative digits (digits.length - count)
      digits.length
  else if kind = Text.pointKind ∧ precision = none then
    let (digits, point) := if mantissa = 0 then (['0'], 1) else
      let (digits, power) := shortest mantissa exponent
      (ofNat digits, (ofNat digits).length + power)
    Form.write ⟨upper, true, alternate, point ≤ -4 || 16 < point⟩ negative digits point
      digits.length
  else
    let count := max (precision.getD 6) 1
    let keepsZero := kind = Text.pointKind
    let (digits, point) := if mantissa = 0 then (['0'], 1) else
      let (digits, point) := significant count mantissa exponent
      (ofNat (dropZeros digits 0).1, point)
    let limit : Int := if keepsZero then count - 1 else count
    let length : Int := if alternate then count else digits.length
    Form.write ⟨upper, keepsZero, alternate, point ≤ -4 || limit < point⟩ negative digits point
      length

/-- Whether a written number is zero. -/
def Written.isZero (w : Written) : Bool :=
  (w.digits ++ (w.rest.takeWhile fun c => c == '.' || c.isDigit)).all fun c =>
    c == '.' || c == '0'

/-- Writes a number with a point in the form of a kind. -/
def writePoint (kind : Char) (precision : Option Nat) (alternate dropsZeroSign : Bool)
    (x : Binary64) : Written :=
  let x := if kind = '%' then x.hundredfold else x
  let word (s : String) : List Char :=
    (if "EFG".toList.contains kind then s.map Char.toUpper else s).toList
  let percent : List Char := if kind = '%' then ['%'] else []
  let w : Written := match x with
    | .nan => ⟨false, [], [], word "nan"⟩
    | .infinite negative => ⟨negative, [], [], word "inf"⟩
    | .finite negative mantissa exponent =>
        let w := writeFinite kind precision alternate negative mantissa exponent
        if dropsZeroSign && w.isZero then { w with negative := false } else w
  { w with rest := w.rest ++ percent }

/-- The greatest precision of a number with a point. -/
def precisionLimit : Nat := Nat.pow 2 31 - 1

/-- Lays a number with a point out. -/
def layOutPoint (type : String) (layout : Layout) (x : Binary64) :
    Except LayoutFault (List Char) := do
  if !("eEfFgGn%".toList.contains layout.kind || layout.kind == Text.pointKind) then
    throw (.unknownKind layout.kind type)
  match layout.precision with
  | some n => if precisionLimit < n then throw .precisionTooBig
  | none => pure ()
  let w := writePoint layout.kind layout.precision layout.alternate layout.dropsZeroSign x
  pure (w.layOut layout)

/-- The base in which a kind writes an integer, with its mark. -/
def baseOf (kind : Char) : Nat × List Char :=
  match kind with
  | 'b' => (2, ['0', 'b'])
  | 'o' => (8, ['0', 'o'])
  | 'x' => (16, ['0', 'x'])
  | 'X' => (16, ['0', 'X'])
  | _ => (10, [])

/-- Lays out the character whose code an integer is. -/
def layOutCode (layout : Layout) (i : Int) : Except LayoutFault (List Char) := do
  if layout.sign.isSome then throw .characterSign
  if layout.alternate then throw .characterAlternate
  let limit : Int := Nat.pow 2 63
  if i < -limit ∨ limit ≤ i then throw .characterTooLarge
  if i < 0 ∨ 0x110000 ≤ i then throw .notACharacter
  pure (Written.layOut ⟨false, [], [], [Char.ofNat i.toNat]⟩ layout)

/-- Lays an integer out. -/
def layOutInteger (type : String) (layout : Layout) (i : Int) :
    Except LayoutFault (List Char) := do
  let kind := layout.kind
  if "bcdoxXn".toList.contains kind then
    if layout.precision.isSome then throw .integerPrecision
    if layout.dropsZeroSign then throw .integerZeroSign
    if kind = 'c' then layOutCode layout i
    else
      let (base, mark) := baseOf kind
      let digits := Nat.toDigits base i.natAbs
      let digits := if kind = 'X' then digits.map Char.toUpper else digits
      pure (Written.layOut ⟨i < 0, if layout.alternate then mark else [], digits, []⟩ layout)
  else if "eEfFgG%".toList.contains kind then
    match Binary64.ofInt? i with
    | none => throw .integerTooLarge
    | some x => layOutPoint type layout x
  else throw (.unknownKind kind type)

end NamedConstants.Decimal
