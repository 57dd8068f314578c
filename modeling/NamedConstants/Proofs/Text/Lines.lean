import NamedConstants.Text.Blank
import NamedConstants.Text.Printable
import NamedConstants.Text.Search

/-!
# Lines

Texts of one line, which are their own only line (`splitLines_of_isOneLine`), and the last line
of a text of several.
-/

namespace NamedConstants.Text

/-- No control character is printable. -/
theorem isControl_of_isPrintable {c : Char} (h : isPrintable c = true) : isControl c = false := by
  have hcodes : (List.range 160).all (fun n =>
      !(isControl (Char.ofNat n) && isPrintable (Char.ofNat n))) = true := by decide +kernel
  cases hc : isControl c with
  | false => rfl
  | true =>
      have hlow : c.toNat < 160 := by
        simp only [isControl, Bool.or_eq_true, Bool.and_eq_true, decide_eq_true_eq] at hc
        omega
      have hboth := List.all_eq_true.mp hcodes c.toNat (List.mem_range.mpr hlow)
      simp [h, hc] at hboth

/-- That a text holds no control characters can be tested. -/
theorem isControl_of_all {s : List Char} (h : s.all (fun c => !isControl c) = true) :
    ∀ c ∈ s, isControl c = false := by
  simpa using h

/-- A text holds no line ends and no control characters. -/
def IsOneLine (s : List Char) : Prop :=
  ∀ c ∈ s, isLineEnd c = false ∧ isControl c = false

instance (s : List Char) : Decidable (IsOneLine s) :=
  List.decidableBAll (fun c => isLineEnd c = false ∧ isControl c = false) s

/-- No line end is printable. -/
theorem isLineEnd_of_isPrintable {c : Char} (h : isPrintable c = true) : isLineEnd c = false := by
  have hcontrol := isControl_of_isPrintable h
  have hseparator : c ≠ '\u2028' ∧ c ≠ '\u2029' := by
    constructor <;> rintro rfl <;> exact absurd h (by decide +kernel)
  have hcode : ∀ d : Char, c ≠ d → c.toNat ≠ d.toNat := fun d hne he => hne (Char.toNat_inj.mp he)
  have hline : c.toNat ≠ 0x2028 := hcode '\u2028' hseparator.1
  have hparagraph : c.toNat ≠ 0x2029 := hcode '\u2029' hseparator.2
  simp only [isControl, Bool.or_eq_false_iff, Bool.and_eq_false_iff, decide_eq_false_iff_not]
    at hcontrol
  simp only [isLineEnd, Bool.or_eq_false_iff, Bool.and_eq_false_iff, decide_eq_false_iff_not,
    beq_eq_false_iff_ne]
  omega

theorem isOneLine_of_isPrintable {s : List Char} (h : ∀ c ∈ s, isPrintable c = true) :
    IsOneLine s :=
  fun c hc => ⟨isLineEnd_of_isPrintable (h c hc), isControl_of_isPrintable (h c hc)⟩

theorem IsOneLine.append {s t : List Char} (hs : IsOneLine s) (ht : IsOneLine t) :
    IsOneLine (s ++ t) :=
  List.forall_mem_append.mpr ⟨hs, ht⟩

/-- A text of one line lacks every line end and every control character. -/
theorem IsOneLine.not_mem {s : List Char} (hs : IsOneLine s) {c : Char}
    (hc : (isLineEnd c || isControl c) = true) : c ∉ s := by
  intro hmem
  obtain ⟨he, hn⟩ := hs c hmem
  simp [he, hn] at hc

theorem splitLines_cons {c : Char} (h : isLineEnd c = false) (rest : List Char) :
    splitLines (c :: rest) = consLine c (splitLines rest) := by
  have hc : c ≠ '\r' := by
    rintro rfl
    exact absurd h (by decide)
  rw [splitLines]
  · simp [h]
  · intro _ hr
    exact absurd hr hc

/-- A text that is not empty has a first line. -/
theorem splitLines_ne_nil {s : List Char} (h : s ≠ []) : splitLines s ≠ [] := by
  fun_cases splitLines s with
  | case1 => exact absurd rfl h
  | case2 => exact List.cons_ne_nil _ _
  | case3 => exact List.cons_ne_nil _ _
  | case4 c rest =>
      cases splitLines rest with
      | nil => exact List.cons_ne_nil _ _
      | cons line lines => exact List.cons_ne_nil _ _

theorem splitLines_of_isOneLine {s : List Char} (hs : IsOneLine s) (hne : s ≠ []) :
    splitLines s = [s] := by
  induction s with
  | nil => exact absurd rfl hne
  | cons c s ih =>
      obtain ⟨⟨hc, -⟩, hrest⟩ := List.forall_mem_cons.mp hs
      rw [splitLines_cons hc]
      cases s with
      | nil => rfl
      | cons d s =>
          rw [ih hrest (List.cons_ne_nil d s)]
          rfl

/-! ## Parts between marks -/

section Split

variable (mark : Char) (s : List Char)

theorem splitAtChar_ne_nil : splitAtChar mark s ≠ [] := by
  cases s with
  | nil => simp [splitAtChar]
  | cons c s =>
      rw [splitAtChar]
      by_cases hc : c = mark
      · simp [hc]
      · rw [if_neg hc]
        cases splitAtChar mark s <;> simp

/-- A text is its parts between the marks, put together with the mark. -/
theorem joinWith_splitAtChar : joinWith [mark] (splitAtChar mark s) = s := by
  induction s with
  | nil => rfl
  | cons c s ih =>
      obtain ⟨part, parts, hsplit⟩ := List.exists_cons_of_ne_nil (splitAtChar_ne_nil mark s)
      rw [hsplit] at ih
      rw [splitAtChar, hsplit]
      by_cases hc : c = mark
      · simp [hc, joinWith, ih]
      · rw [if_neg hc, ← ih]
        cases parts <;> simp [joinWith]

variable {mark s}

theorem mem_of_mem_splitAtChar {part : List Char} (h : part ∈ splitAtChar mark s) {c : Char}
    (hc : c ∈ part) : c ∈ s := by
  induction s generalizing part with
  | nil => simp_all [splitAtChar]
  | cons d s ih =>
      obtain ⟨first, parts, hsplit⟩ := List.exists_cons_of_ne_nil (splitAtChar_ne_nil mark s)
      rw [hsplit] at ih
      rw [splitAtChar, hsplit] at h
      by_cases hd : d = mark
      · rw [if_pos hd] at h
        rcases List.mem_cons.mp h with rfl | h
        · cases hc
        · exact List.mem_cons_of_mem _ (ih h hc)
      · rw [if_neg hd] at h
        rcases List.mem_cons.mp h with rfl | h
        · rcases List.mem_cons.mp hc with rfl | hc
          · exact List.mem_cons_self ..
          · exact List.mem_cons_of_mem _ (ih (List.mem_cons_self ..) hc)
        · exact List.mem_cons_of_mem _ (ih (List.mem_cons_of_mem _ h) hc)

end Split

/-- Lines written one below the other. -/
def unlines (lines : List (List Char)) : List Char :=
  lines.flatMap fun line => line ++ ['\n']

theorem unlines_append (lines others : List (List Char)) :
    unlines (lines ++ others) = unlines lines ++ unlines others :=
  List.flatMap_append

/-- The part in front of the first mark comes first. -/
theorem splitAtChar_append_mark {mark : Char} {part : List Char} (h : mark ∉ part)
    (rest : List Char) :
    splitAtChar mark (part ++ mark :: rest) = part :: splitAtChar mark rest := by
  induction part with
  | nil => rw [List.nil_append, splitAtChar, if_pos rfl]
  | cons c part ih =>
      simp only [List.mem_cons, not_or] at h
      rw [List.cons_append, splitAtChar, if_neg (Ne.symm h.1), ih h.2]

/-- Lines that hold no line feeds are found again in what they are written as. -/
theorem splitAtChar_unlines {lines : List (List Char)} (h : ∀ line ∈ lines, '\n' ∉ line) :
    splitAtChar '\n' (unlines lines) = lines ++ [[]] := by
  induction lines with
  | nil => rfl
  | cons line lines ih =>
      obtain ⟨hline, hlines⟩ := List.forall_mem_cons.mp h
      have hfirst : unlines (line :: lines) = line ++ '\n' :: unlines lines := by simp [unlines]
      rw [hfirst, splitAtChar_append_mark hline, ih hlines, List.cons_append]

/-- A text with a line feed falls into its first line and the rest in one way only. -/
theorem firstLine_inj {line other rest rest' : List Char} (h : '\n' ∉ line) (h' : '\n' ∉ other)
    (heq : line ++ '\n' :: rest = other ++ '\n' :: rest') : line = other ∧ rest = rest' := by
  have hfirst : ∀ {l : List Char} (r : List Char), '\n' ∉ l →
      (l ++ '\n' :: r).takeWhile (fun c => c != '\n') = l := by
    intro l r hl
    have hkeep : ∀ c ∈ l, (c != '\n') = true := by
      intro c hc
      exact bne_iff_ne.mpr fun he => hl (he ▸ hc)
    rw [List.takeWhile_append_of_pos hkeep]
    simp
  have hline : line = other := by rw [← hfirst rest h, heq, hfirst rest' h']
  subst hline
  simpa using heq

/-- The last line of a text that ends in a line feed. -/
def lastLine (s : String) : String :=
  String.ofList ((s.toList.reverse.tail.takeWhile fun c => c != '\n').reverse)

/-- The last of several lines is found again. -/
theorem lastLine_unlines {lines : List (List Char)} (hne : lines ≠ []) {line : List Char}
    (h : '\n' ∉ line) :
    lastLine (String.ofList (unlines (lines ++ [line]))) = String.ofList line := by
  have hline : ∀ c ∈ line.reverse, (c != '\n') = true := by
    intro c hc
    exact bne_iff_ne.mpr fun he => h (he ▸ List.mem_reverse.mp hc)
  obtain ⟨before, last, rfl⟩ : ∃ before last, lines = before ++ [last] :=
    ⟨_, _, (List.dropLast_concat_getLast hne).symm⟩
  have hshape : (unlines (before ++ [last] ++ [line])).reverse.tail =
      line.reverse ++ '\n' :: (unlines before ++ last).reverse := by
    simp [unlines]
  rw [lastLine, String.toList_ofList, hshape, List.takeWhile_append_of_pos hline]
  simp

end NamedConstants.Text
