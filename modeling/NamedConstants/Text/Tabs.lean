import NamedConstants.Text.CellWidth
import NamedConstants.Text.Search

/-!
# Tab stops

A tab advances to the next multiple of eight cells, by one cell at least.
-/

namespace NamedConstants.Text

/-- The cells between two tab stops. -/
def tabStop : Nat := 8

/-- Puts the parts of a line together that stood between its tabs, the first of them in the
    given column: each but the last is brought to the next tab stop. -/
def joinTabbed (column : Nat) : List (List Char) → List Char
  | [] => []
  | [part] => part
  | part :: parts =>
      let reached := column + width (part ++ [' '])
      let room := (tabStop - reached % tabStop) % tabStop
      part ++ ' ' :: List.replicate room ' ' ++ joinTabbed (reached + room) parts

/-- Replaces the tabs of one line by spaces. -/
def expandTabs (line : List Char) : List Char :=
  joinTabbed 0 (splitAtChar '\t' line)

/-- A text without the mark is its own only part. -/
theorem splitAtChar_of_not_mem {mark : Char} {s : List Char} (h : mark ∉ s) :
    splitAtChar mark s = [s] := by
  induction s with
  | nil => rfl
  | cons c s ih =>
      have hc : c ≠ mark := fun e => h (by simp [e])
      have hs : mark ∉ s := fun e => h (by simp [e])
      simp [splitAtChar, hc, ih hs]

/-- A line without tabs is left as it is. -/
theorem expandTabs_of_not_mem {line : List Char} (h : '\t' ∉ line) : expandTabs line = line := by
  rw [expandTabs, splitAtChar_of_not_mem h, joinTabbed]

end NamedConstants.Text
