import NamedConstants.Proofs.Text.Blank
import NamedConstants.Proofs.Text.Lines

/-!
# First lines

The first line of a text is its longest front part without line ends (`isFirstLine_untilLineEnd`).
Every line end is blank, so a trimmed text has none in front of its first character: its first line
starts with the first character of the text that is not blank (`head?_untilLineEnd_trim`).  It is
the first line of the untrimmed text that is not blank, apart from blank characters around it
(`exists_find?_splitLines`).
-/

namespace NamedConstants.Text

/-- The characters that end a line. -/
def lineEnds : List Char :=
  ['\n', '\x0b', '\x0c', '\r', '\x1c', '\x1d', '\x1e', '\x85', '\u2028', '\u2029']

theorem isLineEnd_iff {c : Char} : isLineEnd c = true ↔ c ∈ lineEnds := by
  constructor
  · intro h
    have hcodes : lineEnds.map Char.toNat =
        [10, 11, 12, 13, 28, 29, 30, 0x85, 0x2028, 0x2029] := rfl
    have hcode : c.toNat ∈ lineEnds.map Char.toNat := by
      simp only [isLineEnd, Bool.or_eq_true, Bool.and_eq_true, decide_eq_true_eq, beq_iff_eq] at h
      simp only [hcodes, List.mem_cons, List.not_mem_nil, or_false]
      omega
    obtain ⟨d, hd, hsame⟩ := List.mem_map.mp hcode
    rwa [← Char.toNat_inj.mp hsame]
  · exact List.all_eq_true.mp rfl c

/-- The longest front part of a text without line ends: every other one is a front part of it. -/
structure IsFirstLine (s line : List Char) : Prop where
  front : line <+: s
  noLineEnd : ∀ c ∈ line, c ∉ lineEnds
  longest : ∀ other, other <+: s → (∀ c ∈ other, c ∉ lineEnds) → other <+: line

/-- The front of a text up to its first line end. -/
def untilLineEnd (s : List Char) : List Char :=
  s.takeWhile fun c => !isLineEnd c

theorem untilLineEnd_cons {c : Char} (h : isLineEnd c = false) (s : List Char) :
    untilLineEnd (c :: s) = c :: untilLineEnd s :=
  List.takeWhile_cons_of_pos (by simp [h])

theorem isFirstLine_untilLineEnd (s : List Char) : IsFirstLine s (untilLineEnd s) where
  front := List.takeWhile_prefix _
  noLineEnd := by
    intro c hc hend
    have hkept := List.mem_takeWhile_imp hc
    rw [isLineEnd_iff.mpr hend] at hkept
    cases hkept
  longest := by
    rintro other ⟨rest, rfl⟩ h
    have hkeep : ∀ c ∈ other, (!isLineEnd c) = true := by
      intro c hc
      simpa using mt isLineEnd_iff.mp (h c hc)
    rw [untilLineEnd, List.takeWhile_append_of_pos hkeep]
    exact List.prefix_append ..

/-- The first of the lines of a text; only an empty text has none. -/
theorem headD_splitLines (s : List Char) : (splitLines s).headD [] = untilLineEnd s := by
  fun_induction splitLines s with
  | case1 => rfl
  | case2 rest => rfl
  | case3 c rest _ hc => simp [untilLineEnd, hc]
  | case4 c rest _ hc ih =>
      rw [untilLineEnd_cons (by simpa using hc), ← ih]
      cases splitLines rest <;> rfl

/-! ## The first line of a trimmed text -/

theorem isLineEnd_of_not_isBlank {c : Char} (h : isBlank c = false) : isLineEnd c = false := by
  cases hend : isLineEnd c with
  | false => rfl
  | true =>
      rw [isBlank_of_isLineEnd hend] at h
      cases h

/-- The first line of a trimmed text starts with the first character that is not blank. -/
theorem head?_untilLineEnd_trim (s : List Char) :
    (untilLineEnd (trim s)).head? = s.find? fun c => !isBlank c := by
  rw [← head?_trim]
  cases hs : trim s with
  | nil => rfl
  | cons c rest =>
      have hc : isBlank c = false := (isTrimmed_trim s).head c (by simp [hs])
      rw [untilLineEnd_cons (isLineEnd_of_not_isBlank hc)]
      rfl

theorem untilLineEnd_trim_eq_nil_iff {s : List Char} :
    untilLineEnd (trim s) = [] ↔ ∀ c ∈ s, isBlank c = true := by
  rw [← List.head?_eq_none_iff, head?_untilLineEnd_trim, List.find?_eq_none]
  simp

/-! ## The first line that is not blank -/

/-- Whether a line holds a character that is not blank. -/
def isFilled (line : List Char) : Bool :=
  line.any fun c => !isBlank c

section ConsLine

variable {c : Char} {lines : List (List Char)}

/-- A blank character in front does not change which line is the first that is not blank. -/
theorem exists_find?_consLine (hc : isBlank c = true) {line : List Char}
    (h : lines.find? isFilled = some line) :
    ∃ before, (consLine c lines).find? isFilled = some (before ++ line) ∧
      ∀ d ∈ before, isBlank d = true := by
  cases lines with
  | nil => cases h
  | cons first lines =>
      have hfilled : isFilled (c :: first) = isFilled first := by simp [isFilled, hc]
      rw [List.find?_cons] at h
      rw [consLine, List.find?_cons, hfilled]
      cases hfirst : isFilled first with
      | true =>
          rw [hfirst] at h
          refine ⟨[c], ?_, by simpa using hc⟩
          rw [← Option.some.inj h, List.singleton_append]
      | false =>
          rw [hfirst] at h
          exact ⟨[], h, by simp⟩

theorem find?_consLine (hc : isBlank c = false) :
    (consLine c lines).find? isFilled = some (c :: lines.headD []) := by
  cases lines <;> simp [consLine, isFilled, hc]

end ConsLine

/-- The first line that is not blank ends with the first line of what is left when the blank
    characters at the front of the text are taken away. -/
theorem exists_find?_splitLines_trimStart {s : List Char} (h : ∃ c ∈ s, isBlank c = false) :
    ∃ before, (splitLines s).find? isFilled = some (before ++ untilLineEnd (trimStart s)) ∧
      ∀ c ∈ before, isBlank c = true := by
  have hskip : ∀ lines : List (List Char), ([] :: lines).find? isFilled = lines.find? isFilled :=
    fun _ => rfl
  fun_induction splitLines s with
  | case1 => simp at h
  | case2 rest ih =>
      -- Both characters of the line end are blank.
      rw [hskip]
      exact ih (exists_not_isBlank_of_cons rfl (exists_not_isBlank_of_cons rfl h))
  | case3 c rest _ hc ih =>
      have hblank : isBlank c = true := isBlank_of_isLineEnd hc
      rw [hskip, trimStart_cons hblank]
      exact ih (exists_not_isBlank_of_cons hblank h)
  | case4 c rest _ hc ih =>
      cases hblank : isBlank c with
      | true =>
          obtain ⟨before, hfind, hbefore⟩ := ih (exists_not_isBlank_of_cons hblank h)
          obtain ⟨front, hline, hfront⟩ := exists_find?_consLine hblank hfind
          refine ⟨front ++ before, ?_, List.forall_mem_append.mpr ⟨hfront, hbefore⟩⟩
          rw [hline, trimStart_cons hblank, List.append_assoc]
      | false =>
          refine ⟨[], ?_, by simp⟩
          rw [find?_consLine hblank, headD_splitLines, trimStart,
            List.dropWhile_cons_of_neg (by simp [hblank]),
            untilLineEnd_cons (isLineEnd_of_not_isBlank hblank)]
          rfl

/-- Blank characters behind a text add nothing but blank characters to its first line. -/
theorem exists_untilLineEnd_append (s : List Char) {blanks : List Char}
    (h : ∀ c ∈ blanks, isBlank c = true) :
    ∃ after, untilLineEnd (s ++ blanks) = untilLineEnd s ++ after ∧
      ∀ c ∈ after, isBlank c = true := by
  induction s with
  | nil =>
      refine ⟨untilLineEnd blanks, rfl, ?_⟩
      intro c hc
      exact h c ((List.takeWhile_prefix _).mem hc)
  | cons c s ih =>
      cases hc : isLineEnd c with
      | true => exact ⟨[], by simp [untilLineEnd, hc], by simp⟩
      | false =>
          obtain ⟨after, heq, hafter⟩ := ih
          refine ⟨after, ?_, hafter⟩
          rw [List.cons_append, untilLineEnd_cons hc, untilLineEnd_cons hc, heq, List.cons_append]

/-- The first line that is not blank is the first line of the trimmed text, apart from blank
    characters around it. -/
theorem exists_find?_splitLines {s : List Char} (h : ∃ c ∈ s, isBlank c = false) :
    ∃ before after,
      (splitLines s).find? isFilled = some (before ++ untilLineEnd (trim s) ++ after) ∧
      (∀ c ∈ before, isBlank c = true) ∧ ∀ c ∈ after, isBlank c = true := by
  obtain ⟨before, hfind, hbefore⟩ := exists_find?_splitLines_trimStart h
  obtain ⟨blanks, hsplit, hblanks⟩ := exists_trimEnd_append (trimStart s)
  obtain ⟨after, hline, hafter⟩ := exists_untilLineEnd_append (trim s) hblanks
  refine ⟨before, after, ?_, hbefore, hafter⟩
  rw [hfind, List.append_assoc, ← hline, trim, ← hsplit]

end NamedConstants.Text
