import NamedConstants.Decimal.Binary64

/-!
# Shortest decimals

The decimal of fewest digits that reads back as a given number, and among those the one
nearest to it.  The reals that round to a number form an interval around it, which holds
its ends exactly if the mantissa is even.  A grid of decimals with `n` digits meets the
interval exactly if one of the two grid points next to the number does, so it is enough to
test those two for `n = 1, 2, …`; seventeen digits always suffice.
-/

namespace NamedConstants.Decimal

/-- A positive number with the interval of reals that round to it, all three as multiples
    of one quarter of the unit `2 ^ exponent`. -/
structure Neighbourhood where
  /-- Four times the lower end. -/
  low : Nat
  /-- Four times the mantissa. -/
  centre : Nat
  /-- Four times the upper end. -/
  high : Nat
  /-- Whether the ends belong to the interval. -/
  closed : Bool
  /-- The exponent of the unit. -/
  exponent : Int

/-- The interval around a positive number.  Below a power of two the numbers lie twice as
    dense. -/
def Neighbourhood.of (mantissa : Nat) (exponent : Int) : Neighbourhood :=
  let narrow := mantissa = Nat.pow 2 52 ∧ Binary64.leastExponent < exponent
  { low := 4 * mantissa - (if narrow then 1 else 2)
    centre := 4 * mantissa
    high := 4 * mantissa + 2
    closed := mantissa % 2 = 0
    exponent := exponent - 2 }

/-- The pair of factors that brings `a * 2 ^ e` and `b * 10 ^ g` to integers of one
    scale. -/
def scales (e g : Int) : Nat × Nat :=
  (Nat.pow 2 e.toNat * Nat.pow 10 (-g).toNat, Nat.pow 2 (-e).toNat * Nat.pow 10 g.toNat)

/-- Whether `digits * 10 ^ power` rounds to the number. -/
def Neighbourhood.holds (n : Neighbourhood) (digits : Nat) (power : Int) : Bool :=
  let (binary, decimal) := scales n.exponent power
  let point := digits * decimal
  if n.closed then n.low * binary ≤ point && point ≤ n.high * binary
  else n.low * binary < point && point < n.high * binary

/-- The greatest grid point `digits * 10 ^ power` that does not exceed the number. -/
def Neighbourhood.below (n : Neighbourhood) (power : Int) : Nat :=
  let (binary, decimal) := scales n.exponent power
  n.centre * binary / decimal

/-- Whether the upper of two adjacent grid points is nearer; a tie goes to the even one. -/
def Neighbourhood.prefersUpper (n : Neighbourhood) (lower : Nat) (power : Int) : Bool :=
  let (binary, decimal) := scales n.exponent power
  let doubled := 2 * (n.centre * binary)
  let middle := (2 * lower + 1) * decimal
  if doubled = middle then lower % 2 = 1 else middle < doubled

/-- The grid point next to the number that rounds to it and is nearest, if there is one. -/
def Neighbourhood.hit? (n : Neighbourhood) (power : Int) : Option Nat :=
  let lower := n.below power
  match n.holds lower power, n.holds (lower + 1) power with
  | true, true => some (if n.prefersUpper lower power then lower + 1 else lower)
  | true, false => some lower
  | false, true => some (lower + 1)
  | false, false => none

/-- The number of decimal digits of a natural. -/
def digitCount (n : Nat) : Nat :=
  (Nat.toDigits 10 n).length

/-- The position of the decimal point: the `p` with `10 ^ (p - 1) ≤ x < 10 ^ p` for the
    positive number `x`. -/
def Neighbourhood.pointPosition (n : Neighbourhood) : Int :=
  let (binary, decimal) := scales n.exponent 0
  let centre := n.centre * binary
  if decimal ≤ centre then digitCount (centre / decimal)
  else 1 - (digitCount ((decimal - 1) / centre) : Int)

/-- The first hit among the grids of `count`, `count + 1`, … digits, `fuel` of them. -/
def Neighbourhood.search (n : Neighbourhood) (point : Int) : Nat → Nat → Nat × Int
  | 0, count => (n.below (point - count), point - count)
  | fuel + 1, count =>
      match n.hit? (point - count) with
      | some digits => (digits, point - count)
      | none => n.search point fuel (count + 1)

/-- Moves the zeros at the end of the digits into the power. -/
def dropZeros (digits : Nat) (power : Int) : Nat × Int :=
  if h : digits ≠ 0 ∧ digits % 10 = 0 then dropZeros (digits / 10) (power + 1)
  else (digits, power)
termination_by digits
decreasing_by omega

/-- The digits and the power of ten of the shortest decimal of a positive number. -/
def shortest (mantissa : Nat) (exponent : Int) : Nat × Int :=
  let n := Neighbourhood.of mantissa exponent
  let (digits, power) := n.search n.pointPosition 17 1
  dropZeros digits power

end NamedConstants.Decimal
