/-!
# Padding

Texts are brought to a least length by fill characters.  A text that is already longer is
left alone, never cut.
-/

namespace NamedConstants.Text

/-- Where a text stands inside its field. -/
inductive Alignment where
  | left
  | right
  | centre
  deriving DecidableEq, Repr

/-- Splits the room that is left over into what stands before and after the text; an odd
    cell of a centred text goes behind it. -/
def Alignment.share (a : Alignment) (room : Nat) : Nat × Nat :=
  match a with
  | .left => (0, room)
  | .right => (room, 0)
  | .centre => (room / 2, room - room / 2)

/-- Surrounds a text of known size with the fill that its alignment asks for. -/
def place (a : Alignment) (fill : Char) (size least : Nat) (s : List Char) : List Char :=
  let share := a.share (least - size)
  List.replicate share.1 fill ++ s ++ List.replicate share.2 fill

/-- Brings a text to a least number of characters. -/
def pad (a : Alignment) (fill : Char) (least : Nat) (s : List Char) : List Char :=
  place a fill s.length least s

/-- Brings a text to a least number of characters with spaces behind it. -/
def padRight (least : Nat) (s : List Char) : List Char :=
  s ++ List.replicate (least - s.length) ' '

end NamedConstants.Text
