import NamedConstants.Text.Blank
import NamedConstants.Text.CellWidth

/-!
# Wrapping

Fits a line into a column of a given width.  The line breaks in front of a word that has no
room left; what still does not fit is cut off and ends in an ellipsis.

Words keep the blank characters behind them, and the first word also those in front of it,
so the words of a line that is not all blank put together are the line (`flatten_words`).
-/

namespace NamedConstants.Text

/-- Where the reader of words stands: before the first word, in a word, or in the blank
    characters behind it. -/
inductive WordPhase where
  | before
  | inside
  | after
  deriving DecidableEq, Repr

/-- The words of a line, given the phase and what has been read of the current word, last
    character first. -/
def wordsFrom (phase : WordPhase) (read : List Char) : List Char → List (List Char)
  | [] => if phase = .before then [] else [read.reverse]
  | c :: rest =>
      if isBlank c then wordsFrom (if phase = .before then .before else .after) (c :: read) rest
      else if phase = .after then read.reverse :: wordsFrom .inside [c] rest
      else wordsFrom .inside (c :: read) rest

/-- The words of a line, each with its blank characters; a blank line has none. -/
def words (line : List Char) : List (List Char) :=
  wordsFrom .before [] line

/-- The lines that words make in a column, given the line so far and the cells it takes.
    A word that fits in no line starts a line of its own. -/
def fillLines (column : Nat) (line : List Char) (used : Nat) : List (List Char) → List (List Char)
  | [] => [line]
  | word :: rest =>
      let size := width (trimEnd word)
      if used + size ≤ column then fillLines column (line ++ word) (used + width word) rest
      else if line.isEmpty then fillLines column word (width word) rest
      else line :: fillLines column word (width word) rest

/-- Breaks a line in front of the words that have no room left; a blank line stays one. -/
def breakLine (column : Nat) (line : List Char) : List (List Char) :=
  match words line with
  | [] => [line]
  | found => fillLines column [] 0 found

/-- Drops blank characters at the end of a line as far as it is too long. -/
def trimExcess (column : Nat) (line : List Char) : List Char :=
  let blanks := line.length - (trimEnd line).length
  line.take (line.length - min blanks (line.length - column))

/-- The longest front part of a line that takes no more than the given cells. -/
def takeWidth (room : Nat) : List Char → List Char
  | [] => []
  | c :: rest => if cellWidth c ≤ room then c :: takeWidth (room - cellWidth c) rest else []

/-- Cuts a line that is too wide and ends it in an ellipsis, which keeps to the last cell of
    the column. -/
def ellipsize (column : Nat) (line : List Char) : List Char :=
  if width line ≤ column then line
  else
    let kept := takeWidth (column - 1) line
    kept ++ List.replicate (column - 1 - width kept) ' ' ++ ['…']

/-- The lines that a line makes in a column. -/
def wrap (column : Nat) (line : List Char) : List (List Char) :=
  (breakLine column line).map fun part => ellipsize column (trimExcess column part)

/-- Nothing is lost of what is read behind the start of the first word. -/
theorem flatten_wordsFrom_of_ne {phase : WordPhase} (h : phase ≠ .before) (read s : List Char) :
    (wordsFrom phase read s).flatten = read.reverse ++ s := by
  induction s generalizing phase read with
  | nil => simp [wordsFrom, h]
  | cons c s ih =>
      by_cases hc : isBlank c
      · rw [wordsFrom, if_pos hc, if_neg h, ih (by decide)]
        simp
      · by_cases ha : phase = .after
        · rw [wordsFrom, if_neg hc, if_pos ha, List.flatten_cons, ih (by decide)]
          simp
        · rw [wordsFrom, if_neg hc, if_neg ha, ih (by decide)]
          simp

/-- The words of a line with a character that is not blank put together are the line. -/
theorem flatten_words {line : List Char} (h : ∃ c ∈ line, isBlank c = false) :
    (words line).flatten = line := by
  have key : ∀ read s : List Char, (∃ c ∈ s, isBlank c = false) →
      (wordsFrom .before read s).flatten = read.reverse ++ s := by
    intro read s hs
    induction s generalizing read with
    | nil => simp at hs
    | cons c s ih =>
        by_cases hc : isBlank c
        · rw [wordsFrom, if_pos hc, if_pos rfl, ih (c :: read) (exists_not_isBlank_of_cons hc hs)]
          simp
        · rw [wordsFrom, if_neg hc, if_neg (by decide), flatten_wordsFrom_of_ne (by decide)]
          simp
  exact key [] line h

end NamedConstants.Text
