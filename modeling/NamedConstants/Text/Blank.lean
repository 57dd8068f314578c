/-!
# Blank characters and line ends

Two classes of characters and the cuts made along them.  `trim` removes the blank
characters at both ends of a text; `splitLines` cuts a text at its line ends and drops
them, where a carriage return followed by a line feed is one line end and a final line
end opens no further line.

Every line end is blank (`isBlank_of_isLineEnd`), so a trimmed text that is not empty
starts with a character of its first line.
-/

namespace NamedConstants.Text

/-- Characters that trimming removes: the white space of Unicode and the four
    information separators. -/
def isBlank (c : Char) : Bool :=
  let n := c.toNat
  (9 ≤ n && n ≤ 13) || (28 ≤ n && n ≤ 32) || n == 0x85 || n == 0xA0 || n == 0x1680 ||
    (0x2000 ≤ n && n ≤ 0x200A) || n == 0x2028 || n == 0x2029 || n == 0x202F ||
    n == 0x205F || n == 0x3000

/-- The ten characters that end a line: line feed, vertical tab, form feed, carriage
    return, the file, group and record separators, next line, and the line and paragraph
    separators. -/
def isLineEnd (c : Char) : Bool :=
  let n := c.toNat
  (10 ≤ n && n ≤ 13) || (28 ≤ n && n ≤ 30) || n == 0x85 || n == 0x2028 || n == 0x2029

/-- A line end is always blank. -/
theorem isBlank_of_isLineEnd {c : Char} (h : isLineEnd c = true) : isBlank c = true := by
  simp only [isLineEnd, isBlank, Bool.or_eq_true, Bool.and_eq_true, decide_eq_true_eq,
    beq_iff_eq] at h ⊢
  omega

theorem exists_not_isBlank_of_cons {c : Char} {s : List Char} (hc : isBlank c = true)
    (h : ∃ d ∈ c :: s, isBlank d = false) : ∃ d ∈ s, isBlank d = false := by
  obtain ⟨d, hmem, hd⟩ := h
  rcases List.mem_cons.mp hmem with rfl | hmem
  · rw [hc] at hd
    cases hd
  · exact ⟨d, hmem, hd⟩

/-- Removes the blank characters at the front. -/
def trimStart (s : List Char) : List Char :=
  s.dropWhile isBlank

/-- Removes the blank characters at the back. -/
def trimEnd (s : List Char) : List Char :=
  (s.reverse.dropWhile isBlank).reverse

/-- Removes the blank characters at both ends. -/
def trim (s : List Char) : List Char :=
  trimEnd (trimStart s)

/-- Puts a character in front of the first line. -/
def consLine (c : Char) : List (List Char) → List (List Char)
  | [] => [[c]]
  | line :: rest => (c :: line) :: rest

/-- The lines of a text without their line ends. -/
def splitLines : List Char → List (List Char)
  | [] => []
  | '\r' :: '\n' :: rest => [] :: splitLines rest
  | c :: rest => if isLineEnd c then [] :: splitLines rest else consLine c (splitLines rest)

end NamedConstants.Text
