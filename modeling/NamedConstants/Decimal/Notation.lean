import NamedConstants.Decimal.Shortest

/-!
# Decimal notation

How numbers are written: integers by their digits, double-precision numbers by their
shortest decimal.  That decimal is written positionally if its point lies at most sixteen
places behind the first digit and at most three zeros separate it from the first digit
behind it; otherwise with one digit in front of the point and an exponent of at least two
digits.  A positional number always shows a digit behind its point.
-/

namespace NamedConstants.Decimal

/-- The digits of a natural number. -/
def ofNat (n : Nat) : List Char :=
  Nat.toDigits 10 n

/-- The digits of an integer behind its sign. -/
def ofInt (i : Int) : List Char :=
  if i < 0 then '-' :: ofNat i.natAbs else ofNat i.natAbs

/-- The positional form of the given digits with the decimal point after `point` of
    them. -/
def positional (digits : List Char) (point : Int) : List Char :=
  if point ≤ 0 then '0' :: '.' :: List.replicate (-point).toNat '0' ++ digits
  else if (digits.length : Int) ≤ point then
    digits ++ List.replicate (point.toNat - digits.length) '0' ++ ['.', '0']
  else digits.take point.toNat ++ '.' :: digits.drop point.toNat

/-- An exponent with its sign and at least two digits. -/
def exponentText (e : Int) : List Char :=
  let digits := ofNat e.natAbs
  (if e < 0 then '-' else '+') :: List.replicate (2 - digits.length) '0' ++ digits

/-- The form with one digit in front of the point and an exponent. -/
def scientific (digits : List Char) (point : Int) : List Char :=
  let fraction := digits.drop 1
  digits.take 1 ++ (if fraction.isEmpty then [] else '.' :: fraction) ++
    'e' :: exponentText (point - 1)

/-- The digits of a positive number in the form that suits its size. -/
def ofShortest (digits : Nat) (power : Int) : List Char :=
  let text := ofNat digits
  let point := text.length + power
  if -4 < point ∧ point ≤ 16 then positional text point else scientific text point

/-- The text of a double-precision number. -/
def ofBinary64 : Binary64 → List Char
  | .nan => ['n', 'a', 'n']
  | .infinite negative => (if negative then ['-'] else []) ++ ['i', 'n', 'f']
  | .finite negative mantissa exponent =>
      (if negative then ['-'] else []) ++
        (if mantissa = 0 then ['0', '.', '0']
         else
           let (digits, power) := shortest mantissa exponent
           ofShortest digits power)

end NamedConstants.Decimal
