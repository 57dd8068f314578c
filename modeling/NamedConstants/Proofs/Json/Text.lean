import NamedConstants.Json.Text
import NamedConstants.Json.Token
import NamedConstants.Proofs.Text.Quoted

/-!
# Reading JSON strings back

A text that is written as a JSON string is pure ASCII and is read as itself
(`readString?_string`).  The argument goes character by character: each is written as
itself, as a letter behind a backslash, as one sixteen-bit unit or as a surrogate pair.
-/

namespace NamedConstants.Json

open Text (hexDigits doubleQuote)

/-- All characters of a text are ASCII. -/
def IsAscii (s : List Char) : Prop :=
  ∀ c ∈ s, c.toNat < 128

instance (s : List Char) : Decidable (IsAscii s) :=
  List.decidableBAll (fun c : Char => c.toNat < 128) s

theorem IsAscii.append {s t : List Char} (hs : IsAscii s) (ht : IsAscii t) : IsAscii (s ++ t) := by
  intro c hc
  rcases List.mem_append.mp hc with hc | hc
  · exact hs c hc
  · exact ht c hc

theorem hexValue?_digitChar : ∀ n < 16, hexValue? (Nat.digitChar n) = some n := by
  decide

theorem isAscii_hexDigits (count n : Nat) : IsAscii (hexDigits count n) :=
  Text.forall_hexDigits (by decide) count n

theorem isAscii_unitEscape (unit : Nat) : IsAscii (unitEscape unit) := by
  have hmark : IsAscii ['\\', 'u'] := by decide
  exact hmark.append (isAscii_hexDigits 4 unit)

/-- Four hexadecimal digits are read as the unit that they are written for. -/
theorem readUnit?_hexDigits {unit : Nat} (h : unit < 0x10000) (rest : List Char) :
    readUnit? (hexDigits 4 unit ++ rest) = some (unit, rest) := by
  have hd : ∀ n, hexValue? (Nat.digitChar (n % 16)) = some (n % 16) := by
    intro n
    exact hexValue?_digitChar _ (Nat.mod_lt _ (by decide))
  simp only [hexDigits, List.nil_append, List.cons_append, readUnit?, hd]
  have hunit : ((unit / 16 / 16 / 16 % 16 * 16 + unit / 16 / 16 % 16) * 16 +
      unit / 16 % 16) * 16 + unit % 16 = unit := by
    omega
  rw [hunit]

/-- The codes of characters leave out the units of surrogate pairs. -/
theorem toNat_range (c : Char) : c.toNat < 0xD800 ∨ 0xE000 ≤ c.toNat ∧ c.toNat < 0x110000 := by
  have h : c.toNat < 0xD800 ∨ 0xDFFF < c.toNat ∧ c.toNat < 0x110000 := c.valid
  omega

/-- A character of the basic plane is read back from its unit. -/
theorem readCode?_unit {c : Char} (h : c.toNat < 0x10000) (rest : List Char) :
    readCode? (hexDigits 4 c.toNat ++ rest) = some (c, rest) := by
  have hc := toNat_range c
  have hr : c.toNat < 0xD800 ∨ 0xE000 ≤ c.toNat := by omega
  simp only [readCode?, readUnit?_hexDigits h, if_pos hr, Char.ofNat_toNat]

/-- A character beyond the basic plane is read back from its surrogate pair. -/
theorem readCode?_pair {c : Char} (h : 0x10000 ≤ c.toNat) (rest : List Char) :
    readCode? (hexDigits 4 (0xD800 + (c.toNat - 0x10000) / 0x400) ++
      (unitEscape (0xDC00 + (c.toNat - 0x10000) % 0x400) ++ rest)) = some (c, rest) := by
  have hc := toNat_range c
  have hlead : 0xD800 + (c.toNat - 0x10000) / 0x400 < 0xDC00 := by omega
  have htrail : 0xDC00 + (c.toNat - 0x10000) % 0x400 < 0xE000 := by omega
  have hl : ¬(0xD800 + (c.toNat - 0x10000) / 0x400 < 0xD800 ∨
      0xE000 ≤ 0xD800 + (c.toNat - 0x10000) / 0x400) := by
    omega
  have ht : 0xDC00 ≤ 0xDC00 + (c.toNat - 0x10000) % 0x400 ∧
      0xDC00 + (c.toNat - 0x10000) % 0x400 < 0xE000 := by
    omega
  have hsum : 0x10000 + (0xD800 + (c.toNat - 0x10000) / 0x400 - 0xD800) * 0x400 +
      (0xDC00 + (c.toNat - 0x10000) % 0x400 - 0xDC00) = c.toNat := by
    omega
  rw [readCode?, readUnit?_hexDigits (by omega)]
  simp only [if_neg hl, if_pos hlead, unitEscape, List.cons_append, readTrail?,
    readUnit?_hexDigits (show 0xDC00 + (c.toNat - 0x10000) % 0x400 < 0x10000 by omega),
    if_pos ht, hsum, Char.ofNat_toNat]

theorem readChar?_code (s : List Char) : readChar? ('\\' :: 'u' :: s) = readCode? s := rfl

/-- A character is read back from what it is written as inside a string. -/
theorem readChar?_stringChar (c : Char) (rest : List Char) :
    readChar? (stringChar c ++ rest) = some (c, rest) := by
  unfold stringChar
  by_cases hq : c = doubleQuote ∨ c = '\\'
  · rcases hq with rfl | rfl <;> rfl
  by_cases hn : c = '\n'
  · subst hn; rfl
  by_cases hr : c = '\r'
  · subst hr; rfl
  by_cases ht : c = '\t'
  · subst ht; rfl
  by_cases hf : c = '\x0c'
  · subst hf; rfl
  by_cases hb : c = '\x08'
  · subst hb; rfl
  rw [if_neg hq, if_neg hn, if_neg hr, if_neg ht, if_neg hf, if_neg hb]
  split
  · rename_i hp
    have hslash : c ≠ '\\' := fun h => hq (.inr h)
    have hlow : ¬c.toNat < 32 := by omega
    simp only [List.cons_append, List.nil_append, readChar?, if_neg hslash, if_neg hlow]
  · split
    · rename_i hbasic
      rw [unitEscape, List.cons_append, List.cons_append, readChar?_code]
      exact readCode?_unit hbasic rest
    · rename_i hbasic
      rw [List.append_assoc, unitEscape, List.cons_append, List.cons_append, readChar?_code]
      exact readCode?_pair (Nat.le_of_not_lt hbasic) rest

/-- No character is written so that it begins with the mark that ends a string. -/
theorem stringChar_eq_cons (c : Char) : ∃ d s, stringChar c = d :: s ∧ d ≠ doubleQuote := by
  unfold stringChar
  split
  · exact ⟨'\\', [c], rfl, by decide⟩
  · rename_i hq
    repeat' split
    any_goals exact ⟨'\\', _, rfl, by decide⟩
    exact ⟨c, [], rfl, fun h => hq (.inl h)⟩

theorem isAscii_stringChar (c : Char) : IsAscii (stringChar c) := by
  unfold stringChar
  by_cases hq : c = doubleQuote ∨ c = '\\'
  · rcases hq with rfl | rfl <;> decide
  rw [if_neg hq]
  by_cases hp : 32 ≤ c.toNat ∧ c.toNat < 0x7F
  · have hc : IsAscii [c] := by
      intro d hd
      rw [List.mem_singleton.mp hd]
      omega
    rw [if_pos hp]
    repeat' split
    any_goals decide
    exact hc
  · rw [if_neg hp]
    repeat' split
    any_goals decide
    · exact isAscii_unitEscape _
    · exact (isAscii_unitEscape _).append (isAscii_unitEscape _)

theorem isAscii_string (s : List Char) : IsAscii (string s) := by
  have hs : IsAscii (s.flatMap stringChar) := by
    intro d hd
    obtain ⟨c, -, hc⟩ := List.mem_flatMap.mp hd
    exact isAscii_stringChar c d hc
  have hmark : IsAscii [doubleQuote] := by decide
  exact (hmark.append hs).append hmark

/-- A character at the front of a string that does not end it is read before the rest. -/
theorem readString?_of_readChar? {c : Char} {s after : List Char} (hs : s.head? ≠ some doubleQuote)
    (h : readChar? s = some (c, after)) :
    readString? s = (readString? after).map fun (text, rest) => (c :: text, rest) := by
  cases s with
  | nil => cases h
  | cons d s =>
      have hd : d ≠ doubleQuote := fun h => hs (congrArg some h)
      rw [readString?, if_neg hd]
      split
      · rename_i e after' he
        obtain ⟨rfl, rfl⟩ := Prod.mk.injEq .. ▸ Option.some.inj (he.symm.trans h)
        rfl
      · rename_i he
        cases he.symm.trans h

/-- A text is read back from the string that it is written as. -/
theorem readString?_string (s rest : List Char) :
    readString? (s.flatMap stringChar ++ doubleQuote :: rest) = some (s, rest) := by
  induction s with
  | nil => simp [readString?]
  | cons c s ih =>
      have hc := readChar?_stringChar c (s.flatMap stringChar ++ doubleQuote :: rest)
      have hne : (stringChar c ++ (s.flatMap stringChar ++ doubleQuote :: rest)).head? ≠
          some doubleQuote := by
        obtain ⟨d, t, hd, hne⟩ := stringChar_eq_cons c
        rw [hd]
        exact fun h => hne (Option.some.inj h)
      rw [List.flatMap_cons, List.append_assoc, readString?_of_readChar? hne hc, ih]
      rfl

end NamedConstants.Json
