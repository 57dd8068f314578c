/-!
# Ranges of characters

Classes of characters are given as lists of closed ranges of code points.
-/

namespace NamedConstants.Text

/-- The first and the last code point of a range. -/
abbrev CharRange := Nat × Nat

/-- Whether a character lies in one of the ranges. -/
def inRanges (ranges : List CharRange) (c : Char) : Bool :=
  ranges.any fun range => range.1 ≤ c.toNat && c.toNat ≤ range.2

end NamedConstants.Text
