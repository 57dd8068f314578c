import Mathlib.Data.List.DropRight
import NamedConstants.Text.Blank

/-!
# Trimmed texts

Trimming takes the blank characters at both ends of a text away and nothing else
(`isTrimmed_trim`): what is left starts with the first character that is not blank
(`head?_trim`).
-/

namespace NamedConstants.Text

theorem trimStart_cons {c : Char} (h : isBlank c = true) (s : List Char) :
    trimStart (c :: s) = trimStart s :=
  List.dropWhile_cons_of_pos h

/-- Nothing but blank characters is taken away at the back. -/
theorem exists_trimEnd_append (s : List Char) :
    ∃ blanks, s = trimEnd s ++ blanks ∧ ∀ c ∈ blanks, isBlank c = true := by
  refine ⟨s.rtakeWhile isBlank, List.rdropWhile_append_rtakeWhile.symm, ?_⟩
  intro c hc
  exact List.mem_rtakeWhile_imp hc

/-- Trimming leaves the front part of a text. -/
theorem trimEnd_isPrefix (s : List Char) : trimEnd s <+: s :=
  List.rdropWhile_prefix isBlank s

theorem trimEnd_concat {s : List Char} {c : Char} (h : isBlank c = false) :
    trimEnd (s ++ [c]) = s ++ [c] :=
  List.rdropWhile_concat_neg isBlank s c (by simp [h])

/-- A text that does not start with a blank character keeps its start. -/
theorem head?_trimEnd {s : List Char} (h : ∀ c ∈ s.head?, isBlank c = false) :
    (trimEnd s).head? = s.head? := by
  cases s with
  | nil => rfl
  | cons c s =>
      have hc : isBlank c = false := h c rfl
      have hne : trimEnd (c :: s) ≠ [] := by
        intro hnil
        have hblank := List.rdropWhile_eq_nil_iff.mp hnil c (List.mem_cons_self ..)
        simp [hc] at hblank
      obtain ⟨d, rest, hcons⟩ := List.exists_cons_of_ne_nil hne
      have hfront := trimEnd_isPrefix (c :: s)
      rw [hcons, List.cons_prefix_cons] at hfront
      rw [hcons, hfront.1]
      rfl

/-- A trimmed text starts with the first character that is not blank. -/
theorem head?_trim (s : List Char) : (trim s).head? = s.find? fun c => !isBlank c := by
  have hstart : (trimStart s).head? = s.find? fun c => !isBlank c :=
    (List.find?_not_eq_head?_dropWhile isBlank s).symm
  rw [trim, head?_trimEnd, hstart]
  intro c hc
  rw [hstart] at hc
  simpa using List.find?_some hc

/-- What is left of a text when the blank characters at both ends are taken away. -/
structure IsTrimmed (s trimmed : List Char) : Prop where
  parts : ∃ before after, s = before ++ trimmed ++ after ∧
    (∀ c ∈ before, isBlank c = true) ∧ ∀ c ∈ after, isBlank c = true
  head : ∀ c ∈ trimmed.head?, isBlank c = false
  last : ∀ c ∈ trimmed.getLast?, isBlank c = false

theorem isTrimmed_trim (s : List Char) : IsTrimmed s (trim s) where
  parts := by
    obtain ⟨after, hsplit, hafter⟩ := exists_trimEnd_append (trimStart s)
    refine ⟨s.takeWhile isBlank, after, ?_, fun c hc => List.mem_takeWhile_imp hc, hafter⟩
    rw [List.append_assoc, trim, ← hsplit]
    exact List.takeWhile_append_dropWhile.symm
  head := by
    intro c hc
    rw [head?_trim] at hc
    simpa using List.find?_some hc
  last := by
    intro c hc
    obtain ⟨hne, rfl⟩ := List.mem_getLast?_eq_getLast hc
    exact Bool.eq_false_iff.mpr (List.rdropWhile_last_not isBlank (trimStart s) hne)

end NamedConstants.Text
