import Mathlib.Algebra.BigOperators.Group.List.Basic
import Mathlib.Data.List.TakeWhile
import NamedConstants.Proofs.Text.Blank
import NamedConstants.Proofs.Text.CellWidth
import NamedConstants.Text.Wrap

/-!
# Lines that fit their column

A line that is no wider than its column is not broken and not cut (`wrap_of_width_le`): at
most blank characters at its end are dropped, and those only if some character of the line
takes no cell of its own (`trimExcess_eq_self`).

Widths add up along a cut in front of anything but what a joiner takes in, and the words of a
line never end in a joiner, so the words together are not wider than the line
(`sum_width_words_le`).
-/

namespace NamedConstants.Text

/-! ## Widths of parts -/

/-- A character before a text never makes it narrower. -/
theorem widthAfter_none_le (last : Option Char) (s : List Char) :
    widthAfter none s ≤ widthAfter last s := by
  fun_induction widthAfter last s with
  | case1 => exact Nat.le_refl _
  | case2 => exact Nat.le_refl _
  | case3 last d rest ih => exact ih
  | case4 last rest h ih =>
      rw [widthAfter_selector]
      exact Nat.add_le_add_right (Nat.zero_le _) _
  | case5 last c rest hj he h0 ih => rwa [widthAfter_of_zero hj he h0]
  | case6 last c rest hj he h0 ih => rw [widthAfter_of_cell hj he h0]

theorem widthAfter_le_append (last : Option Char) (s t : List Char) :
    widthAfter last s ≤ widthAfter last (s ++ t) := by
  fun_induction widthAfter last s with
  | case1 => exact Nat.zero_le _
  | case2 => exact Nat.zero_le _
  | case3 last d rest ih => exact ih
  | case4 last rest h ih =>
      rw [List.cons_append, widthAfter_selector]
      exact Nat.add_le_add_left ih _
  | case5 last c rest hj he h0 ih => rwa [List.cons_append, widthAfter_of_zero hj he h0]
  | case6 last c rest hj he h0 ih =>
      rw [List.cons_append, widthAfter_of_cell hj he h0]
      exact Nat.add_le_add_left ih _

/-- The front part of a text is not wider than the text. -/
theorem width_le_append (s t : List Char) : width s ≤ width (s ++ t) :=
  widthAfter_le_append none s t

theorem widthAfter_add_le (last : Option Char) {s : List Char} (h : s.getLast? ≠ some joiner)
    (t : List Char) : widthAfter last s + width t ≤ widthAfter last (s ++ t) := by
  have hrest : ∀ {c : Char} {rest : List Char}, (c :: rest).getLast? ≠ some joiner →
      rest.getLast? ≠ some joiner := by
    intro c rest h hr
    rw [List.getLast?_cons, hr] at h
    exact h rfl
  fun_induction widthAfter last s with
  | case1 last =>
      rw [Nat.zero_add]
      exact widthAfter_none_le last t
  | case2 => exact absurd rfl h
  | case3 last d rest ih => exact ih (hrest (hrest h))
  | case4 last rest hj ih =>
      rw [List.cons_append, widthAfter_selector, Nat.add_assoc]
      exact Nat.add_le_add_left (ih (hrest h)) _
  | case5 last c rest hj he h0 ih =>
      rw [List.cons_append, widthAfter_of_zero hj he h0]
      exact ih (hrest h)
  | case6 last c rest hj he h0 ih =>
      rw [List.cons_append, widthAfter_of_cell hj he h0, Nat.add_assoc]
      exact Nat.add_le_add_left (ih (hrest h)) _

/-- Two texts together are at least as wide as each by itself, unless a joiner takes in the
    front of the second one. -/
theorem width_add_le {s : List Char} (h : s.getLast? ≠ some joiner) (t : List Char) :
    width s + width t ≤ width (s ++ t) :=
  widthAfter_add_le none h t

theorem width_trimEnd_le (s : List Char) : width (trimEnd s) ≤ width s := by
  obtain ⟨rest, h⟩ := trimEnd_isPrefix s
  calc width (trimEnd s) ≤ width (trimEnd s ++ rest) := width_le_append _ _
    _ = width s := by rw [h]

/-! ## Words of a line -/

/-- The words that are read from some point on are not wider than what they are read from. -/
theorem sum_width_wordsFrom_le (phase : WordPhase) (read s : List Char)
    (h : phase = .after → read.head? ≠ some joiner) :
    ((wordsFrom phase read s).map width).sum ≤ width (read.reverse ++ s) := by
  induction s generalizing phase read with
  | nil =>
      rw [wordsFrom]
      split
      · exact Nat.zero_le _
      · simp
  | cons c s ih =>
      have hmove : read.reverse ++ c :: s = (c :: read).reverse ++ s := by simp
      by_cases hc : isBlank c
      · rw [wordsFrom, if_pos hc, hmove]
        apply ih
        intro _ hj
        obtain rfl : c = joiner := by simpa using hj
        exact absurd hc (by decide)
      · by_cases ha : phase = .after
        · have hlast : read.reverse.getLast? ≠ some joiner := by
            rw [List.getLast?_reverse]
            exact h ha
          have hword := ih .inside [c] (by intro hp; cases hp)
          have hwhole := width_add_le hlast (c :: s)
          rw [wordsFrom, if_neg hc, if_pos ha, List.map_cons, List.sum_cons]
          rw [List.reverse_singleton, List.singleton_append] at hword
          omega
        · rw [wordsFrom, if_neg hc, if_neg ha, hmove]
          apply ih
          intro hp
          cases hp

theorem sum_width_words_le (line : List Char) : ((words line).map width).sum ≤ width line :=
  sum_width_wordsFrom_le .before [] line (by intro hp; cases hp)

/-- A line of blank characters has no words. -/
theorem words_of_blank {line : List Char} (h : ∀ c ∈ line, isBlank c = true) : words line = [] := by
  have key : ∀ read : List Char, wordsFrom .before read line = [] := by
    induction line with
    | nil =>
        intro read
        rfl
    | cons c line ih =>
        intro read
        rw [wordsFrom, if_pos (h c (List.mem_cons_self ..)), if_pos rfl]
        exact ih (fun d hd => h d (List.mem_cons_of_mem _ hd)) _
  exact key []

/-- Words that have room together make one line. -/
theorem fillLines_of_fits {column used : Nat} {found : List (List Char)} (line : List Char)
    (h : used + (found.map width).sum ≤ column) :
    fillLines column line used found = [line ++ found.flatten] := by
  induction found generalizing line used with
  | nil => simp [fillLines]
  | cons word found ih =>
      rw [List.map_cons, List.sum_cons] at h
      have htrim := width_trimEnd_le word
      have hroom : used + width (trimEnd word) ≤ column := by omega
      rw [fillLines]
      simp only [hroom, if_true]
      rw [ih _ (by omega), List.flatten_cons, List.append_assoc]

/-- A line that fits its column is not broken. -/
theorem breakLine_of_width_le {column : Nat} {line : List Char} (h : width line ≤ column) :
    breakLine column line = [line] := by
  unfold breakLine
  split
  · rfl
  · rename_i found hne
    have hsum := sum_width_words_le line
    have hword : ∃ c ∈ line, isBlank c = false := by
      by_contra hall
      push Not at hall
      apply hne
      exact words_of_blank fun c hc => by simpa using hall c hc
    rw [fillLines_of_fits [] (by omega), List.nil_append, flatten_words hword]

/-! ## Lines in a column -/

theorem width_trimExcess_le (column : Nat) (line : List Char) :
    width (trimExcess column line) ≤ width line := by
  obtain ⟨rest, h⟩ := List.take_prefix
    (line.length - min (line.length - (trimEnd line).length) (line.length - column)) line
  calc width (trimExcess column line) ≤ width (trimExcess column line ++ rest) :=
        width_le_append _ _
    _ = width line := by rw [trimExcess]; exact congrArg width h

/-- A line that fits its column stays one line, which is not cut. -/
theorem wrap_of_width_le {column : Nat} {line : List Char} (h : width line ≤ column) :
    wrap column line = [trimExcess column line] := by
  have htrim := width_trimExcess_le column line
  rw [wrap, breakLine_of_width_le h, List.map_singleton, ellipsize, if_pos (by omega)]

/-- Nothing but blank characters at the end is dropped. -/
theorem trimExcess_append (column : Nat) (line : List Char) :
    ∃ blanks, line = trimExcess column line ++ blanks ∧ ∀ c ∈ blanks, isBlank c = true := by
  obtain ⟨blanks, hsplit, hblanks⟩ := exists_trimEnd_append line
  have hlength : (trimEnd line).length ≤ line.length := (trimEnd_isPrefix line).length_le
  refine ⟨line.drop (line.length - min (line.length - (trimEnd line).length)
    (line.length - column)), (List.take_append_drop ..).symm, ?_⟩
  intro c hc
  have hmem : c ∈ line.drop (trimEnd line).length :=
    (List.drop_sublist_drop_left line (by omega)).mem hc
  have hdrop : line.drop (trimEnd line).length = blanks := by
    have hdrop := congrArg (List.drop (trimEnd line).length) hsplit
    rwa [List.drop_left] at hdrop
  rw [hdrop] at hmem
  exact hblanks c hmem

/-- A character does not take a cell of its own, or changes those of its neighbours. -/
def takesNoCell (c : Char) : Bool :=
  cellWidth c == 0 || altersWidth c

/-- A line whose characters all take cells of their own is left alone if it fits. -/
theorem trimExcess_eq_self {column : Nat} {line : List Char} (h : width line ≤ column)
    (hcells : ∀ c ∈ line, takesNoCell c = false) : trimExcess column line = line := by
  have halone : ∀ c ∈ line, altersWidth c = false := by
    intro c hc
    exact (Bool.or_eq_false_iff.mp (hcells c hc)).2
  have hlength : line.length ≤ (line.map cellWidth).sum := by
    rw [← List.length_map cellWidth]
    apply List.length_le_sum_of_one_le
    intro n hn
    obtain ⟨c, hc, rfl⟩ := List.mem_map.mp hn
    have hc := (Bool.or_eq_false_iff.mp (hcells c hc)).1
    have : cellWidth c ≠ 0 := by simpa using hc
    omega
  rw [width_eq_sum halone] at h
  rw [trimExcess]
  apply List.take_of_length_le
  omega

end NamedConstants.Text
