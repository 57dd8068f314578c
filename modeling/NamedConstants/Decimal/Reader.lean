import NamedConstants.Decimal.Binary64
import NamedConstants.Text.Blank
import NamedConstants.Text.Digit

/-!
# Reading numbers

Reads a double-precision number from its decimal text: an optional sign, digits with an
optional point and an optional exponent, or one of the words for infinity and
not-a-number in any case.  Single underscores may stand between digits, and blank
characters around the number are skipped.
-/

namespace NamedConstants.Decimal

/-- Removes the underscores that stand between two digits; any other underscore makes the
    text no number. -/
def dropUnderscores : List Char → Option (List Char)
  | [] => some []
  | ['_'] => none
  | [c] => some [c]
  | c :: d :: rest =>
      if c = '_' then none
      else if d = '_' then
        match rest with
        | e :: _ =>
            if Text.isDigit c && Text.isDigit e then (dropUnderscores rest).map (c :: ·) else none
        | [] => none
      else (dropUnderscores (d :: rest)).map (c :: ·)

/-- Reads a sign, and whether it is the minus sign. -/
def readSign : List Char → Bool × List Char
  | '-' :: rest => (true, rest)
  | '+' :: rest => (false, rest)
  | s => (false, s)

/-- Reads an exponent, which takes all of the text. -/
def readExponent? : List Char → Option Int
  | [] => some 0
  | mark :: rest =>
      if mark = 'e' ∨ mark = 'E' then
        let (negative, rest) := readSign rest
        match Text.readDigits 0 rest with
        | (0, _, _) => none
        | (_, value, []) => some (if negative then -value else value)
        | (_, _, _ :: _) => none
      else none

/-- Reads an unsigned number, which takes all of the text. -/
def readUnsigned? (negative : Bool) (s : List Char) : Option Binary64 :=
  let (whole, value, rest) := Text.readDigits 0 s
  let (places, value, rest) := match rest with
    | '.' :: rest => Text.readDigits value rest
    | rest => (0, value, rest)
  if whole + places = 0 then none
  else (readExponent? rest).map fun e => Binary64.ofDecimal negative value (e - places)

/-- Reads a double-precision number. -/
def readBinary64? (s : List Char) : Option Binary64 := do
  let (negative, body) := readSign (Text.trim s)
  match String.ofList (body.map Char.toLower) with
  | "inf" | "infinity" => some (.infinite negative)
  | "nan" => some .nan
  | _ => readUnsigned? negative (← dropUnderscores body)

end NamedConstants.Decimal
