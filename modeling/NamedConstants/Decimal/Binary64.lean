/-!
# Double-precision numbers

Numbers of 53 significant bits with exponents from -1074 to 971, the two infinities and
one not-a-number, kept as exact data: a finite number is a sign, a mantissa and a power of
two.  `ofDecimal` rounds a decimal to the nearest such number, a tie going to the even
mantissa.
-/

namespace NamedConstants.Decimal

/-- A double-precision number.  The finite one stands for
    `± mantissa * 2 ^ exponent`. -/
inductive Binary64 where
  | nan
  | infinite (negative : Bool)
  | finite (negative : Bool) (mantissa : Nat) (exponent : Int)
  deriving DecidableEq, Repr

namespace Binary64

/-- The least exponent of a finite number. -/
def leastExponent : Int := -1074

/-- The greatest exponent of a finite number. -/
def greatestExponent : Int := 971

/-- The zero of each sign. -/
def zero (negative : Bool) : Binary64 := .finite negative 0 leastExponent

/-- The exact value of a finite number, counted in units of the least positive number. -/
def units? : Binary64 → Option Int
  | .finite negative mantissa exponent =>
      let size : Int := mantissa * Nat.pow 2 (exponent - leastExponent).toNat
      some (if negative then -size else size)
  | _ => none

/-- Numerical equality: the zeros are equal, and not-a-number differs from every number,
    itself included. -/
def same (x y : Binary64) : Bool :=
  match x, y with
  | .infinite s, .infinite t => s == t
  | x, y =>
      match x.units?, y.units? with
      | some m, some n => m == n
      | _, _ => false

/-- Whether a number equals an integer exactly. -/
def sameInt (x : Binary64) (i : Int) : Bool :=
  match x.units? with
  | some n => n == i * Nat.pow 2 (-leastExponent).toNat
  | none => false

/-- The quotient of two naturals rounded to the nearest, a tie going to the even one. -/
def divNearest (n d : Nat) : Nat :=
  let q := n / d
  let r := n % d
  if 2 * r < d then q
  else if d < 2 * r then q + 1
  else if q % 2 = 0 then q else q + 1

/-- The quotient `n / (d * 2 ^ e)` rounded to the nearest. -/
def scaledNearest (n d : Nat) (e : Int) : Nat :=
  if 0 ≤ e then divNearest n (d * Nat.pow 2 e.toNat)
  else divNearest (n * Nat.pow 2 (-e).toNat) d

/-- Whether `n / (d * 2 ^ e)` is below `2 ^ 53`. -/
def fits (n d : Nat) (e : Int) : Bool :=
  if 0 ≤ e then n < Nat.pow 2 53 * d * Nat.pow 2 e.toNat
  else n * Nat.pow 2 (-e).toNat < Nat.pow 2 53 * d

/-- The number nearest to the positive quotient `n / d`. -/
def ofRatio (negative : Bool) (n d : Nat) : Binary64 :=
  let estimate : Int := (n.log2 : Int) - d.log2 - 53
  let tight := if fits n d estimate then estimate else estimate + 1
  let e := max leastExponent tight
  let m := scaledNearest n d e
  let (m, e) := if m < Nat.pow 2 53 then (m, e) else (m / 2, e + 1)
  if greatestExponent < e then .infinite negative else .finite negative m e

/-- The number nearest to `digits * 10 ^ power`. -/
def ofDecimal (negative : Bool) (digits : Nat) (power : Int) : Binary64 :=
  let length : Int := (Nat.toDigits 10 digits).length
  if digits = 0 ∨ length + power < -330 then zero negative
  else if 320 < length + power then .infinite negative
  else if 0 ≤ power then ofRatio negative (digits * Nat.pow 10 power.toNat) 1
  else ofRatio negative digits (Nat.pow 10 (-power).toNat)

end Binary64

end NamedConstants.Decimal
