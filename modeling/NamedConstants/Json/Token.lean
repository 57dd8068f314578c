import NamedConstants.Decimal.Reader
import NamedConstants.Text.Quoted
import NamedConstants.Value.Equality

/-!
# JSON tokens

The pieces that a JSON text is made of: brackets, commas, colons and the values that hold no
others.  Integers are read exactly, other numbers to the nearest one of double precision;
`NaN` and `Infinity` count as numbers.  Half of a surrogate pair is no character and makes a
text no JSON.
-/

namespace NamedConstants.Json

open Text (doubleQuote)

/-- Characters that may stand between tokens. -/
def isGap (c : Char) : Bool :=
  c == ' ' || c == '\t' || c == '\n' || c == '\r'

def hexValue? (c : Char) : Option Nat :=
  if '0'.toNat ≤ c.toNat ∧ c.toNat ≤ '9'.toNat then some (c.toNat - '0'.toNat)
  else if 'a'.toNat ≤ c.toNat ∧ c.toNat ≤ 'f'.toNat then some (c.toNat - 'a'.toNat + 10)
  else if 'A'.toNat ≤ c.toNat ∧ c.toNat ≤ 'F'.toNat then some (c.toNat - 'A'.toNat + 10)
  else none

/-- Reads a sixteen-bit unit of four hexadecimal digits. -/
def readUnit? : List Char → Option (Nat × List Char)
  | a :: b :: c :: d :: rest =>
      match hexValue? a, hexValue? b, hexValue? c, hexValue? d with
      | some i, some j, some k, some l => some (((i * 16 + j) * 16 + k) * 16 + l, rest)
      | _, _, _, _ => none
  | _ => none

/-- Reads the second unit of a surrogate pair, given the first. -/
def readTrail? (lead : Nat) : List Char → Option (Char × List Char)
  | '\\' :: 'u' :: rest =>
      match readUnit? rest with
      | some (trail, rest) =>
          if 0xDC00 ≤ trail ∧ trail < 0xE000 then
            some (Char.ofNat (0x10000 + (lead - 0xD800) * 0x400 + (trail - 0xDC00)), rest)
          else none
      | none => none
  | _ => none

/-- Reads the character whose code stands behind an escape mark. -/
def readCode? (s : List Char) : Option (Char × List Char) :=
  match readUnit? s with
  | some (unit, rest) =>
      if unit < 0xD800 ∨ 0xE000 ≤ unit then some (Char.ofNat unit, rest)
      else if unit < 0xDC00 then readTrail? unit rest
      else none
  | none => none

/-- The character that a letter stands for behind an escape mark. -/
def letterEscape? (c : Char) : Option Char :=
  if c = doubleQuote ∨ c = '\\' ∨ c = '/' then some c
  else if c = 'b' then some '\x08'
  else if c = 'f' then some '\x0c'
  else if c = 'n' then some '\n'
  else if c = 'r' then some '\r'
  else if c = 't' then some '\t'
  else none

/-- Reads one character of a string. -/
def readChar? : List Char → Option (Char × List Char)
  | [] => none
  | c :: rest =>
      if c = '\\' then
        match rest with
        | [] => none
        | e :: rest => if e = 'u' then readCode? rest else (letterEscape? e).map (·, rest)
      else if c.toNat < 32 then none
      else some (c, rest)

theorem readUnit?_length {s rest : List Char} {unit : Nat} (h : readUnit? s = some (unit, rest)) :
    rest.length < s.length := by
  unfold readUnit? at h
  split at h
  · split at h
    · simp only [Option.some.injEq, Prod.mk.injEq] at h
      rw [← h.2]
      simp only [List.length_cons]
      omega
    · cases h
  · cases h

theorem readTrail?_length {s rest : List Char} {lead : Nat} {c : Char}
    (h : readTrail? lead s = some (c, rest)) : rest.length < s.length := by
  unfold readTrail? at h
  split at h
  · split at h
    · rename_i hu
      have hl := readUnit?_length hu
      split at h
      · simp only [Option.some.injEq, Prod.mk.injEq] at h
        rw [← h.2]
        simp only [List.length_cons]
        omega
      · cases h
    · cases h
  · cases h

theorem readCode?_length {s rest : List Char} {c : Char} (h : readCode? s = some (c, rest)) :
    rest.length < s.length := by
  unfold readCode? at h
  split at h
  · rename_i hu
    have hl := readUnit?_length hu
    split at h
    · simp only [Option.some.injEq, Prod.mk.injEq] at h
      rw [← h.2]
      exact hl
    · split at h
      · exact Nat.lt_trans (readTrail?_length h) hl
      · cases h
  · cases h

/-- What stands behind a character is shorter than the text that starts with it. -/
theorem readChar?_length {s rest : List Char} {c : Char} (h : readChar? s = some (c, rest)) :
    rest.length < s.length := by
  unfold readChar? at h
  split at h
  · cases h
  · split at h
    · split at h
      · cases h
      · split at h
        · have hl := readCode?_length h
          simp only [List.length_cons]
          omega
        · obtain ⟨d, -, hd⟩ := Option.map_eq_some_iff.mp h
          obtain ⟨-, rfl⟩ := Prod.mk.injEq .. ▸ hd
          simp only [List.length_cons]
          omega
    · split at h
      · cases h
      · simp only [Option.some.injEq, Prod.mk.injEq] at h
        rw [← h.2]
        exact Nat.lt_succ_self _

set_option linter.unusedVariables false in
/-- Reads the rest of a string up to its closing mark. -/
def readString? : List Char → Option (List Char × List Char)
  | [] => none
  | c :: rest =>
      if c = doubleQuote then some ([], rest)
      else match h : readChar? (c :: rest) with
        | some (d, rest) => (readString? rest).map fun (s, rest) => (d :: s, rest)
        | none => none
termination_by s => s.length
decreasing_by exact readChar?_length h

theorem readString?_length {s text rest : List Char} (h : readString? s = some (text, rest)) :
    rest.length < s.length := by
  fun_induction readString? s generalizing text with
  | case1 => cases h
  | case2 s =>
      simp only [Option.some.injEq, Prod.mk.injEq] at h
      rw [← h.2]
      exact Nat.lt_succ_self _
  | case3 c s hc d after hd ih =>
      obtain ⟨⟨t, r⟩, ht, he⟩ := Option.map_eq_some_iff.mp h
      obtain ⟨-, rfl⟩ := Prod.mk.injEq .. ▸ he
      exact Nat.lt_trans (ih ht) (readChar?_length hd)
  | case4 => cases h

def isDecimal (c : Char) : Bool :=
  '0'.toNat ≤ c.toNat && c.toNat ≤ '9'.toNat

/-- The number that decimal digits stand for. -/
def decimal (digits : List Char) : Nat :=
  digits.foldl (fun n c => 10 * n + (c.toNat - '0'.toNat)) 0

/-- Splits off the decimal digits at the front, of which there must be some. -/
def readDigits? (s : List Char) : Option (List Char × List Char) :=
  if (s.takeWhile isDecimal).isEmpty then none
  else some (s.takeWhile isDecimal, s.dropWhile isDecimal)

theorem readDigits?_length {s digits rest : List Char} (h : readDigits? s = some (digits, rest)) :
    rest.length < s.length := by
  unfold readDigits? at h
  split at h
  · cases h
  · rename_i hne
    simp only [Option.some.injEq, Prod.mk.injEq] at h
    obtain ⟨rfl, rfl⟩ := h
    have hl := congrArg List.length (List.takeWhile_append_dropWhile (p := isDecimal) (l := s))
    rw [List.length_append] at hl
    have hpos := List.length_pos_iff.mpr (mt List.isEmpty_iff.mpr hne)
    omega

/-- Reads the digits of a number in front of its point: a zero is the only one. -/
def readWhole? : List Char → Option (List Char × List Char)
  | '0' :: rest => some (['0'], rest)
  | s => readDigits? s

theorem readWhole?_length {s digits rest : List Char} (h : readWhole? s = some (digits, rest)) :
    rest.length < s.length := by
  unfold readWhole? at h
  split at h
  · simp only [Option.some.injEq, Prod.mk.injEq] at h
    rw [← h.2]
    exact Nat.lt_succ_self _
  · exact readDigits?_length h

/-- Reads the digits behind the point of a number, if there are any. -/
def readPlaces (s : List Char) : List Char × List Char :=
  match s with
  | '.' :: rest => (readDigits? rest).getD ([], s)
  | _ => ([], s)

theorem readPlaces_length (s : List Char) : (readPlaces s).2.length ≤ s.length := by
  unfold readPlaces
  split
  · rename_i rest
    cases hd : readDigits? rest with
    | none => exact Nat.le_refl _
    | some found =>
        have hl := readDigits?_length hd
        simp only [Option.getD_some, List.length_cons]
        omega
  · exact Nat.le_refl _

/-- Reads the exponent of a number, if there is one. -/
def readPower (s : List Char) : Option Int × List Char :=
  match s with
  | mark :: rest =>
      if mark = 'e' ∨ mark = 'E' then
        let (negative, rest) := Decimal.readSign rest
        match readDigits? rest with
        | some (digits, rest) =>
            (some (if negative then -(decimal digits : Int) else decimal digits), rest)
        | none => (none, s)
      else (none, s)
  | [] => (none, s)

theorem readSign_length (s : List Char) : (Decimal.readSign s).2.length ≤ s.length := by
  unfold Decimal.readSign
  split
  · exact Nat.le_succ _
  · exact Nat.le_succ _
  · exact Nat.le_refl _

theorem readPower_length (s : List Char) : (readPower s).2.length ≤ s.length := by
  unfold readPower
  split
  · rename_i mark rest
    split
    · have hs := readSign_length rest
      dsimp only
      split
      · rename_i hd
        have hl := readDigits?_length hd
        simp only [List.length_cons]
        omega
      · exact Nat.le_refl _
    · exact Nat.le_refl _
  · exact Nat.le_refl _

/-- Reads a number without its sign. -/
def readUnsigned? (negative : Bool) (s : List Char) : Option (Value × List Char) :=
  (readWhole? s).map fun (whole, rest) =>
    let (places, rest) := readPlaces rest
    let (power, rest) := readPower rest
    if places.isEmpty && power.isNone then
      (.int (if negative then -(decimal whole : Int) else decimal whole), rest)
    else
      (.float (.ofDecimal negative (decimal (whole ++ places)) (power.getD 0 - places.length)),
        rest)

theorem readUnsigned?_length {negative : Bool} {s rest : List Char} {v : Value}
    (h : readUnsigned? negative s = some (v, rest)) : rest.length < s.length := by
  obtain ⟨⟨whole, after⟩, hw, he⟩ := Option.map_eq_some_iff.mp h
  have hl := readWhole?_length hw
  have hp := readPlaces_length after
  have he' := readPower_length (readPlaces after).2
  have hrest : (readPower (readPlaces after).2).2 = rest := by
    dsimp only at he
    split at he
    · exact congrArg Prod.snd he
    · exact congrArg Prod.snd he
  rw [← hrest]
  omega

def readNumber? : List Char → Option (Value × List Char)
  | '-' :: rest => readUnsigned? true rest
  | s => readUnsigned? false s

theorem readNumber?_length {s rest : List Char} {v : Value} (h : readNumber? s = some (v, rest)) :
    rest.length < s.length := by
  unfold readNumber? at h
  split at h
  · exact Nat.lt_trans (readUnsigned?_length h) (Nat.lt_succ_self _)
  · exact readUnsigned?_length h

/-- The words that stand for values. -/
def words : List (List Char × Value) :=
  [("null".toList, .null), ("true".toList, .bool true), ("false".toList, .bool false),
    ("NaN".toList, .float .nan), ("Infinity".toList, .float (.infinite false)),
    ("-Infinity".toList, .float (.infinite true))]

/-- Reads a value that holds no others. -/
def readScalar? (s : List Char) : Option (Value × List Char) :=
  match s with
  | [] => none
  | c :: rest =>
      if c = doubleQuote then
        (readString? rest).map fun (text, rest) => (.text (String.ofList text), rest)
      else match words.find? fun w => w.1.isPrefixOf s with
        | some (word, v) => some (v, s.drop word.length)
        | none => readNumber? s

theorem readScalar?_length {s rest : List Char} {v : Value} (h : readScalar? s = some (v, rest)) :
    rest.length < s.length := by
  unfold readScalar? at h
  split at h
  · cases h
  · split at h
    · obtain ⟨⟨text, after⟩, ht, he⟩ := Option.map_eq_some_iff.mp h
      obtain rfl : after = rest := congrArg Prod.snd he
      exact Nat.lt_succ_of_lt (readString?_length ht)
    · split at h
      · rename_i word w hw
        have hword : ∀ w ∈ words, w.1 ≠ [] := by decide
        have hpos : 0 < word.length :=
          List.length_pos_iff.mpr (hword _ (List.mem_of_find?_eq_some hw))
        obtain rfl := congrArg Prod.snd (Option.some.inj h)
        simp only [List.length_drop, List.length_cons]
        omega
      · exact readNumber?_length h

/-- A token of JSON. -/
inductive Token where
  | openArray
  | closeArray
  | openObject
  | closeObject
  | comma
  | colon
  /-- A value that holds no others. -/
  | scalar (v : Value)

/-- The token that is a character of its own. -/
def markToken? (c : Char) : Option Token :=
  if c = '[' then some .openArray
  else if c = ']' then some .closeArray
  else if c = '\x7b' then some .openObject
  else if c = '\x7d' then some .closeObject
  else if c = ',' then some .comma
  else if c = ':' then some .colon
  else none

def readToken? (s : List Char) : Option (Token × List Char) :=
  match s with
  | [] => none
  | c :: rest =>
      match markToken? c with
      | some token => some (token, rest)
      | none => (readScalar? s).map fun (v, rest) => (.scalar v, rest)

/-- What stands behind a token is shorter than the text that starts with it. -/
theorem readToken?_length {s rest : List Char} {token : Token}
    (h : readToken? s = some (token, rest)) : rest.length < s.length := by
  unfold readToken? at h
  split at h
  · cases h
  · split at h
    · simp only [Option.some.injEq, Prod.mk.injEq] at h
      rw [← h.2]
      exact Nat.lt_succ_self _
    · obtain ⟨⟨v, after⟩, hv, he⟩ := Option.map_eq_some_iff.mp h
      obtain rfl : after = rest := congrArg Prod.snd he
      exact readScalar?_length hv

end NamedConstants.Json
