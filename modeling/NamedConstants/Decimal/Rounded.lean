import NamedConstants.Decimal.Shortest

/-!
# Rounded decimals

A number rounded to a given count of digits: behind the point (`places`) or in all
(`significant`).  Both round the exact value, a tie going to the even digit.
-/

namespace NamedConstants.Decimal

/-- The integer nearest to `mantissa * 2 ^ exponent * 10 ^ power`. -/
def scaledDecimal (mantissa : Nat) (exponent power : Int) : Nat :=
  let (binary, decimal) := scales exponent (-power)
  Binary64.divNearest (mantissa * binary) decimal

/-- A number rounded to a count of digits behind the point, in units of the last one. -/
def places (count mantissa : Nat) (exponent : Int) : Nat :=
  scaledDecimal mantissa exponent count

/-- A positive number rounded to a positive count of digits in all: the digits, and how many
    of them stand in front of the point.  Rounding up to a power of ten takes one more digit,
    a zero, which is dropped. -/
def significant (count mantissa : Nat) (exponent : Int) : Nat × Int :=
  let point := (Neighbourhood.of mantissa exponent).pointPosition
  let digits := scaledDecimal mantissa exponent (count - point)
  if digits = Nat.pow 10 count then (Nat.pow 10 (count - 1), point + 1) else (digits, point)

namespace Binary64

/-- The number a hundred times as big, rounded to the nearest. -/
def hundredfold : Binary64 → Binary64
  | .finite negative mantissa exponent =>
      if mantissa = 0 then .zero negative
      else if 0 ≤ exponent then ofRatio negative (100 * mantissa * Nat.pow 2 exponent.toNat) 1
      else ofRatio negative (100 * mantissa) (Nat.pow 2 (-exponent).toNat)
  | x => x

/-- The number nearest to an integer; beyond the greatest number there is none. -/
def ofInt? (i : Int) : Option Binary64 :=
  if i = 0 then some (.zero false)
  else match ofRatio (i < 0) i.natAbs 1 with
    | .infinite _ => none
    | x => some x

end Binary64

end NamedConstants.Decimal
