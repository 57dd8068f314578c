import Mathlib.Algebra.GroupWithZero.Nat
import NamedConstants.Text.CellWidth

/-!
# Laws of cell widths

Without the characters that act on their neighbours the width of a text is the sum over its
characters (`width_eq_sum`).
-/

namespace NamedConstants.Text

theorem widthAfter_selector (last : Option Char) (rest : List Char) :
    widthAfter last (emojiSelector :: rest) =
      (if last.any (inRanges emojiFormRanges) then 1 else 0) + widthAfter none rest := by
  rw [widthAfter.eq_def]
  simp [show emojiSelector ≠ joiner by decide]

theorem widthAfter_of_zero {c : Char} (hj : c ≠ joiner) (he : c ≠ emojiSelector)
    (h0 : cellWidth c = 0) (last : Option Char) (rest : List Char) :
    widthAfter last (c :: rest) = widthAfter last rest := by
  rw [widthAfter.eq_def]
  simp [hj, he, h0]

theorem widthAfter_of_cell {c : Char} (hj : c ≠ joiner) (he : c ≠ emojiSelector)
    (h0 : cellWidth c ≠ 0) (last : Option Char) (rest : List Char) :
    widthAfter last (c :: rest) = cellWidth c + widthAfter (some c) rest := by
  rw [widthAfter.eq_def]
  simp [hj, he, h0]

/-- Where nothing alters widths, the width is the sum over the characters. -/
theorem widthAfter_eq_sum {s : List Char} (h : ∀ c ∈ s, altersWidth c = false)
    (last : Option Char) : widthAfter last s = (s.map cellWidth).sum := by
  induction s generalizing last with
  | nil => rfl
  | cons c s ih =>
      have hc : altersWidth c = false := h c List.mem_cons_self
      have hs : ∀ d ∈ s, altersWidth d = false := fun d hd => h d (List.mem_cons_of_mem c hd)
      simp only [altersWidth, Bool.or_eq_false_iff, beq_eq_false_iff_ne] at hc
      rw [widthAfter.eq_def, List.map_cons, List.sum_cons]
      simp only
      rw [if_neg hc.1, if_neg hc.2]
      by_cases h0 : cellWidth c = 0
      · rw [if_pos h0, ih hs, h0, Nat.zero_add]
      · rw [if_neg h0, ih hs]

/-- Where nothing alters widths, the width is the sum over the characters. -/
theorem width_eq_sum {s : List Char} (h : ∀ c ∈ s, altersWidth c = false) :
    width s = (s.map cellWidth).sum :=
  widthAfter_eq_sum h none

end NamedConstants.Text
