import NamedConstants.Proofs.Text.Wrap

/-!
# Widths of texts put together

A text that ends in a joiner takes in the first character of what follows it, which then takes no
room (`exists_widthAfter_append`).  The only other thing that goes from one text to the next is
a character with an emoji form, and spaces have none.  So spaces behind a text take a cell each,
the first one apart if it is taken in (`width_append_spaces`).
-/

namespace NamedConstants.Text

/-- A text ends in a joiner that takes in the next character; a joiner that is taken in itself
    takes in nothing. -/
def joinsNext : List Char → Bool
  | [] => false
  | c :: rest =>
      if c = joiner then
        match rest with
        | [] => true
        | _ :: rest => joinsNext rest
      else joinsNext rest

theorem joinsNext_joiner (d : Char) (rest : List Char) :
    joinsNext (joiner :: d :: rest) = joinsNext rest := by
  rw [joinsNext, if_pos rfl]

theorem joinsNext_of_ne {c : Char} (h : c ≠ joiner) (rest : List Char) :
    joinsNext (c :: rest) = joinsNext rest := by
  rw [joinsNext.eq_def]
  simp [h]

/-- A text without joiners takes in nothing. -/
theorem joinsNext_of_not_mem {s : List Char} (h : joiner ∉ s) : joinsNext s = false := by
  induction s with
  | nil => rfl
  | cons c s ih =>
      simp only [List.mem_cons, not_or] at h
      rw [joinsNext_of_ne (Ne.symm h.1), ih h.2]

/-- What is left of a text behind another one that may take in its first character. -/
def leftBehind (s t : List Char) : List Char :=
  if joinsNext s then t.tail else t

theorem joinsNext_append (s : List Char) {t : List Char} (h : t ≠ []) :
    joinsNext (s ++ t) = joinsNext (leftBehind s t) := by
  fun_induction joinsNext s with
  | case1 => rfl
  | case2 =>
      obtain ⟨d, rest, rfl⟩ := List.exists_cons_of_ne_nil h
      exact joinsNext_joiner d rest
  | case3 d rest ih =>
      rw [List.cons_append, List.cons_append, joinsNext_joiner, ih, leftBehind, leftBehind,
        joinsNext_joiner]
  | case4 c rest hc ih =>
      rw [List.cons_append, joinsNext_of_ne hc, ih, leftBehind, leftBehind, joinsNext_of_ne hc]

/-- Widths add up, apart from the character that is taken in and from what the last character of
    the first text does to an emoji selector. -/
theorem exists_widthAfter_append (last : Option Char) (s : List Char) :
    ∃ l, ∀ t, widthAfter last (s ++ t) = widthAfter last s + widthAfter l (leftBehind s t) := by
  have hbehind : ∀ {c : Char} {rest : List Char}, c ≠ joiner →
      leftBehind (c :: rest) = leftBehind rest := by
    intro c rest hc
    funext t
    rw [leftBehind, joinsNext_of_ne hc, leftBehind]
  fun_induction widthAfter last s with
  | case1 last => exact ⟨last, fun t => (Nat.zero_add _).symm⟩
  | case2 last =>
      refine ⟨last, fun t => ?_⟩
      cases t with
      | nil => rfl
      | cons d t => exact (Nat.zero_add _).symm
  | case3 last d rest ih =>
      obtain ⟨l, hl⟩ := ih
      refine ⟨l, fun t => ?_⟩
      rw [leftBehind, joinsNext_joiner, ← leftBehind]
      exact hl t
  | case4 last rest hj ih =>
      obtain ⟨l, hl⟩ := ih
      refine ⟨l, fun t => ?_⟩
      rw [List.cons_append, widthAfter_selector, hl t, hbehind hj, Nat.add_assoc]
  | case5 last c rest hj he h0 ih =>
      obtain ⟨l, hl⟩ := ih
      refine ⟨l, fun t => ?_⟩
      rw [List.cons_append, widthAfter_of_zero hj he h0, hl t, hbehind hj]
  | case6 last c rest hj he h0 ih =>
      obtain ⟨l, hl⟩ := ih
      refine ⟨l, fun t => ?_⟩
      rw [List.cons_append, widthAfter_of_cell hj he h0, hl t, hbehind hj, Nat.add_assoc]

/-! ## Characters that stand alone -/

/-- A character takes one cell, whatever stands around it, and has no emoji form. -/
def standsAlone (c : Char) : Bool :=
  cellWidth c == 1 && !altersWidth c && !inRanges emojiFormRanges c

theorem standsAlone_space : standsAlone ' ' = true := by decide

/-- What is in front of a character that stands alone does not matter to what is behind it. -/
theorem widthAfter_of_standsAlone {c : Char} (h : standsAlone c = true) (last : Option Char)
    (t : List Char) : widthAfter last (c :: t) = 1 + width t := by
  simp only [standsAlone, Bool.and_eq_true, beq_iff_eq, Bool.not_eq_true', altersWidth,
    Bool.or_eq_false_iff, beq_eq_false_iff_ne] at h
  obtain ⟨⟨hone, hj, he⟩, hform⟩ := h
  have hcongr : widthAfter (some c) t = widthAfter none t := by
    have key : ∀ last last' : Option Char, last.any (inRanges emojiFormRanges) =
        last'.any (inRanges emojiFormRanges) → widthAfter last t = widthAfter last' t := by
      intro last last' hany
      fun_induction widthAfter last t with
      | case1 => rfl
      | case2 => rfl
      | case3 last d rest ih => exact ih hany
      | case4 last rest hj ih => rw [widthAfter_selector, hany]
      | case5 last d rest hj he h0 ih => rw [widthAfter_of_zero hj he h0, ih hany]
      | case6 last d rest hj he h0 ih => rw [widthAfter_of_cell hj he h0]
    exact key _ _ hform
  rw [widthAfter_of_cell hj he (by omega), hone, hcongr, width]

/-- Characters that stand alone take a cell each. -/
theorem width_eq_length {s : List Char} (h : ∀ c ∈ s, standsAlone c = true) :
    width s = s.length := by
  induction s with
  | nil => rfl
  | cons c s ih =>
      obtain ⟨hc, hs⟩ := List.forall_mem_cons.mp h
      rw [width, widthAfter_of_standsAlone hc, ih hs, List.length_cons, Nat.add_comm]

theorem standsAlone_of_mem_spaces {n : Nat} : ∀ c ∈ List.replicate n ' ', standsAlone c = true := by
  intro c hc
  rw [List.eq_of_mem_replicate hc]
  exact standsAlone_space

/-- Behind anything, characters that stand alone take a cell each, but for the one that is taken
    in. -/
theorem width_append_of_standsAlone (s : List Char) {t : List Char}
    (h : ∀ c ∈ t, standsAlone c = true) : width (s ++ t) = width s + (leftBehind s t).length := by
  obtain ⟨l, hl⟩ := exists_widthAfter_append none s
  have hsub : ∀ c ∈ leftBehind s t, standsAlone c = true := by
    intro c hc
    unfold leftBehind at hc
    split at hc
    · exact h c (List.mem_of_mem_tail hc)
    · exact h c hc
  have hbehind : widthAfter l (leftBehind s t) = (leftBehind s t).length := by
    cases hleft : leftBehind s t with
    | nil => rfl
    | cons c rest =>
        rw [hleft] at hsub
        obtain ⟨hc, hrest⟩ := List.forall_mem_cons.mp hsub
        rw [widthAfter_of_standsAlone hc, width_eq_length hrest, List.length_cons, Nat.add_comm]
  rw [width, hl t, hbehind, width]

theorem leftBehind_spaces (s : List Char) (n : Nat) :
    leftBehind s (List.replicate n ' ') =
      List.replicate (if joinsNext s then n - 1 else n) ' ' := by
  unfold leftBehind
  split
  · exact List.tail_replicate
  · rfl

/-- Spaces behind a text take a cell each, the first one apart if it is taken in. -/
theorem width_append_spaces (s : List Char) (n : Nat) :
    width (s ++ List.replicate n ' ') = width s + (if joinsNext s then n - 1 else n) := by
  rw [width_append_of_standsAlone s standsAlone_of_mem_spaces, leftBehind_spaces,
    List.length_replicate]

/-- With a space behind it a text takes in nothing more. -/
theorem joinsNext_append_spaces (s : List Char) (n : Nat) :
    joinsNext (s ++ List.replicate n ' ') = (joinsNext s && n == 0) := by
  cases n with
  | zero => simp
  | succ n =>
      have hspaces : joiner ∉ leftBehind s (List.replicate (n + 1) ' ') := by
        rw [leftBehind_spaces]
        intro hmem
        exact absurd (List.eq_of_mem_replicate hmem) (by decide)
      rw [joinsNext_append s (by simp), joinsNext_of_not_mem hspaces]
      simp

end NamedConstants.Text
