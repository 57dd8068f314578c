import NamedConstants.Text.Quoted

/-!
# Laws of quoted text

Every character between quotation marks is written as itself, as two backslashes or as an
escape (`quoteChar_cases`), so all characters of quoted text are printable
(`isPrintable_of_mem_quote`).
-/

namespace NamedConstants.Text

/-- What holds of all sixteen digits holds of all digits of a number. -/
theorem forall_hexDigits {P : Char → Prop} (h : ∀ n < 16, P (Nat.digitChar n)) (count n : Nat) :
    ∀ c ∈ hexDigits count n, P c := by
  induction count generalizing n with
  | zero =>
      intro c hc
      cases hc
  | succ count ih =>
      intro c hc
      rcases List.mem_append.mp hc with hc | hc
      · exact ih (n / 16) c hc
      · rw [List.mem_singleton.mp hc]
        exact h _ (Nat.mod_lt _ (by decide))

/-- A printable character that is neither a backslash nor a square bracket. -/
def IsBare (c : Char) : Prop :=
  isPrintable c = true ∧ c ≠ '\\' ∧ c ≠ '[' ∧ c ≠ ']'

instance (c : Char) : Decidable (IsBare c) :=
  inferInstanceAs (Decidable (isPrintable c = true ∧ c ≠ '\\' ∧ c ≠ '[' ∧ c ≠ ']'))

/-- All characters of a text are bare. -/
def IsBareText (s : List Char) : Prop :=
  ∀ c ∈ s, IsBare c

instance (s : List Char) : Decidable (IsBareText s) :=
  List.decidableBAll IsBare s

theorem IsBareText.cons {c : Char} {s : List Char} (hc : IsBare c) (hs : IsBareText s) :
    IsBareText (c :: s) :=
  List.forall_mem_cons.mpr ⟨hc, hs⟩

theorem IsBareText.append {s t : List Char} (hs : IsBareText s) (ht : IsBareText t) :
    IsBareText (s ++ t) :=
  List.forall_mem_append.mpr ⟨hs, ht⟩

theorem isBare_digitChar : ∀ n < 16, IsBare (Nat.digitChar n) := by
  decide

/-- The escape of a character by its code is a backslash before bare characters. -/
theorem codeEscape_eq (c : Char) :
    ∃ d w, codeEscape c = '\\' :: d :: w ∧ IsBareText (d :: w) := by
  have hdigits : ∀ d count, IsBare d → IsBareText (d :: hexDigits count c.toNat) := by
    intro d count hd
    exact IsBareText.cons hd (forall_hexDigits isBare_digitChar count c.toNat)
  unfold codeEscape
  split
  · exact ⟨'x', _, rfl, hdigits 'x' 2 (by decide)⟩
  · split
    · exact ⟨'u', _, rfl, hdigits 'u' 4 (by decide)⟩
    · exact ⟨'U', _, rfl, hdigits 'U' 8 (by decide)⟩

/-- The quotation mark of a text is a single or a double one. -/
theorem quoteMark_cases (s : List Char) :
    quoteMark s = singleQuote ∨ quoteMark s = doubleQuote := by
  unfold quoteMark
  split
  · exact Or.inr rfl
  · exact Or.inl rfl

theorem isBare_of_mark {mark : Char} (hm : mark = singleQuote ∨ mark = doubleQuote) :
    IsBare mark := by
  rcases hm with rfl | rfl <;> decide

/-- What a character is written as between quotation marks: itself, two backslashes for one, or
    a backslash before bare characters for a mark or an unprintable character. -/
theorem quoteChar_cases {mark : Char} (hm : IsBare mark) (c : Char) :
    (quoteChar mark c = [c] ∧ isPrintable c = true ∧ c ≠ '\\') ∨
      (quoteChar mark c = ['\\', '\\'] ∧ c = '\\') ∨
      (∃ d w, quoteChar mark c = '\\' :: d :: w ∧ IsBareText (d :: w)) ∧
        (c = mark ∨ isPrintable c = false) := by
  unfold quoteChar
  by_cases hs : c = '\\'
  · subst hs
    exact Or.inr (Or.inl ⟨rfl, rfl⟩)
  by_cases hc : c = mark
  · subst hc
    rw [if_pos (Or.inr rfl)]
    exact Or.inr (Or.inr ⟨⟨c, [], rfl, IsBareText.cons hm (by decide)⟩, Or.inl rfl⟩)
  rw [if_neg (by simp [hs, hc])]
  by_cases hn : c = '\n'
  · subst hn
    exact Or.inr (Or.inr ⟨⟨'n', [], rfl, by decide⟩, Or.inr rfl⟩)
  by_cases hr : c = '\r'
  · subst hr
    exact Or.inr (Or.inr ⟨⟨'r', [], rfl, by decide⟩, Or.inr rfl⟩)
  by_cases ht : c = '\t'
  · subst ht
    exact Or.inr (Or.inr ⟨⟨'t', [], rfl, by decide⟩, Or.inr rfl⟩)
  rw [if_neg hn, if_neg hr, if_neg ht]
  cases hp : isPrintable c with
  | true => exact Or.inl ⟨rfl, rfl, hs⟩
  | false => exact Or.inr (Or.inr ⟨codeEscape_eq c, Or.inr rfl⟩)

/-- All characters of quoted text are printable. -/
theorem isPrintable_of_mem_quote {s : List Char} : ∀ c ∈ quote s, isPrintable c = true := by
  have hmark := isBare_of_mark (quoteMark_cases s)
  intro c hc
  rcases List.mem_append.mp hc with hc | hc
  · rcases List.mem_cons.mp hc with rfl | hc
    · exact hmark.1
    · obtain ⟨d, -, hd⟩ := List.mem_flatMap.mp hc
      rcases quoteChar_cases hmark d with ⟨h, hp, -⟩ | ⟨h, -⟩ | ⟨⟨e, w, h, hbare⟩, -⟩
      · rw [h] at hd
        rw [List.mem_singleton.mp hd]
        exact hp
      · have hslashes : ∀ e ∈ ['\\', '\\'], isPrintable e = true := List.all_eq_true.mp rfl
        rw [h] at hd
        exact hslashes c hd
      · rw [h] at hd
        rcases List.mem_cons.mp hd with rfl | hd
        · decide
        · exact (hbare c hd).1
  · rw [List.mem_singleton.mp hc]
    exact hmark.1

end NamedConstants.Text
