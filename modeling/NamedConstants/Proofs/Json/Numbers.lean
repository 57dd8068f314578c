import NamedConstants.Decimal.Notation
import NamedConstants.Proofs.Decimal.Shortest
import NamedConstants.Proofs.Json.Text

/-!
# Reading JSON numbers back

Integers and finite double-precision numbers are written as numerals: a sign, digits with no zero
too many in front, digits behind a point, and an exponent.  A numeral is read as its value if the
text behind it begins with nothing that could belong to a number
(`Numeral.readNumber?_append`).
-/

namespace NamedConstants.Json

/-! ## The characters of numbers -/

/-- The characters that numbers are written with. -/
def numberChars : List Char :=
  ['0', '1', '2', '3', '4', '5', '6', '7', '8', '9', '-', '+', '.', 'e', 'E']

theorem mem_numberChars_of_isDecimal {c : Char} (h : isDecimal c = true) : c ∈ numberChars := by
  have hcodes : ∀ n < 58, 48 ≤ n → Char.ofNat n ∈ numberChars := by decide
  obtain ⟨hlow, hhigh⟩ : 48 ≤ c.toNat ∧ c.toNat ≤ 57 := by simpa [isDecimal] using h
  have hc := hcodes c.toNat (by omega) hlow
  rwa [Char.ofNat_toNat] at hc

/-- The characters of numbers are ASCII, and a token that begins with one is no mark and no
    string. -/
theorem of_mem_numberChars {c : Char} (h : c ∈ numberChars) :
    c.toNat < 128 ∧ isGap c = false ∧ (markToken? c).isNone = true ∧ c ≠ Text.doubleQuote := by
  have hall : (numberChars.all fun c => decide (c.toNat < 128) &&
      (!isGap c && ((markToken? c).isNone && c != Text.doubleQuote))) = true := rfl
  simpa using List.all_eq_true.mp hall c h

/-- A text does not go on as a number would. -/
def EndsNumber (rest : List Char) : Prop :=
  ∀ c ∈ rest.head?, c ∉ numberChars

/-- A text does not begin with a decimal digit. -/
def EndsDigits (rest : List Char) : Prop :=
  ∀ c ∈ rest.head?, isDecimal c = false

theorem EndsNumber.endsDigits {rest : List Char} (h : EndsNumber rest) : EndsDigits rest := by
  intro c hc
  cases hd : isDecimal c with
  | false => rfl
  | true => exact absurd (mem_numberChars_of_isDecimal hd) (h c hc)

/-! ## Digits -/

/-- Decimal digits, at least one of them. -/
def IsDigits (digits : List Char) : Prop :=
  digits ≠ [] ∧ ∀ c ∈ digits, isDecimal c = true

theorem IsDigits.head?_append {digits : List Char} (h : IsDigits digits) (rest : List Char) :
    (digits ++ rest).head? = digits.head? := by
  cases digits with
  | nil => exact absurd rfl h.1
  | cons c digits => rfl

theorem readDigits?_append {digits rest : List Char} (h : IsDigits digits)
    (hrest : EndsDigits rest) : readDigits? (digits ++ rest) = some (digits, rest) := by
  obtain ⟨hne, hall⟩ := h
  have htake : (digits ++ rest).takeWhile isDecimal = digits := by
    rw [List.takeWhile_append_of_pos hall]
    cases rest with
    | nil => simp
    | cons c rest => simp [hrest c rfl]
  have hdrop : (digits ++ rest).dropWhile isDecimal = rest := by
    rw [List.dropWhile_append_of_pos hall]
    cases rest with
    | nil => rfl
    | cons c rest => simp [hrest c rfl]
  rw [readDigits?, htake, hdrop]
  simp [hne]

/-- The digits of a natural number. -/
theorem isDigits_ofNat (n : Nat) : IsDigits (Decimal.ofNat n) := by
  refine ⟨Nat.toDigits_ne_nil, ?_⟩
  intro c hc
  have hdigit := Nat.isDigit_of_mem_toDigits (by decide) (by decide) hc
  simpa [isDecimal] using Char.isDigit_iff_toNat.mp hdigit

theorem decimal_ofNat (n : Nat) : decimal (Decimal.ofNat n) = n := by
  rw [decimal, ← Nat.ofDigitChars_eq_foldl]
  exact Nat.ofDigitChars_ten_toDigits

theorem isDecimal_of_mem_zeros {count : Nat} : ∀ c ∈ List.replicate count '0', isDecimal c = true := by
  intro c hc
  rw [(List.mem_replicate.mp hc).2]
  rfl

theorem IsDigits.zeros_append {digits : List Char} (h : IsDigits digits) (count : Nat) :
    IsDigits (List.replicate count '0' ++ digits) :=
  ⟨List.append_ne_nil_of_right_ne_nil _ h.1,
    List.forall_mem_append.mpr ⟨isDecimal_of_mem_zeros, h.2⟩⟩

/-- Decimal digits that do not begin with a zero. -/
def IsPositive (digits : List Char) : Prop :=
  IsDigits digits ∧ digits.head? ≠ some '0'

theorem isPositive_ofNat {n : Nat} (h : n ≠ 0) : IsPositive (Decimal.ofNat n) := by
  refine ⟨isDigits_ofNat n, ?_⟩
  induction n using Nat.base_induction 10 (by decide) with
  | single m hm =>
      rw [Decimal.ofNat, Nat.toDigits_of_lt_base hm]
      simpa using h
  | digit m k hk hm ih =>
      have hdigits : Decimal.ofNat (10 * m + k) = Decimal.ofNat m ++ Nat.toDigits 10 k :=
        (Nat.toDigits_append_toDigits (by decide) hm hk).symm
      rw [hdigits, (isDigits_ofNat m).head?_append]
      exact ih (Nat.ne_of_gt hm)

theorem IsPositive.append_zeros {digits : List Char} (h : IsPositive digits) (count : Nat) :
    IsPositive (digits ++ List.replicate count '0') := by
  refine ⟨⟨List.append_ne_nil_of_left_ne_nil h.1.1 _,
    List.forall_mem_append.mpr ⟨h.1.2, isDecimal_of_mem_zeros⟩⟩, ?_⟩
  rw [h.1.head?_append]
  exact h.2

theorem IsPositive.take {digits : List Char} (h : IsPositive digits) {count : Nat}
    (hcount : count ≠ 0) : IsPositive (digits.take count) := by
  refine ⟨⟨?_, fun c hc => h.1.2 c (List.mem_of_mem_take hc)⟩, ?_⟩
  · rw [Ne, List.take_eq_nil_iff]
    exact not_or.mpr ⟨hcount, h.1.1⟩
  · rw [List.head?_take, if_neg hcount]
    exact h.2

/-! ## Numerals -/

/-- The parts of a number: whether it is negative, its digits in front of the point and behind
    it, and the sign and the digits of its exponent. -/
structure Numeral where
  negative : Bool
  whole : List Char
  places : List Char
  power : Option (Bool × List Char)
  /-- A zero in front stands alone. -/
  isWhole : IsPositive whole ∨ whole = ['0']
  isDecimal_places : ∀ c ∈ places, isDecimal c = true
  isDigits_power : ∀ p ∈ power, IsDigits p.2

namespace Numeral

theorem isDigits_whole (n : Numeral) : IsDigits n.whole := by
  rcases n.isWhole with h | h
  · exact h.1
  · rw [h]
    exact isDigits_ofNat 0

/-- Digits behind the point. -/
def placesText (places : List Char) : List Char :=
  if places.isEmpty then [] else '.' :: places

/-- An exponent, which always shows its sign. -/
def powerText : Option (Bool × List Char) → List Char
  | none => []
  | some (negative, digits) => 'e' :: (if negative then '-' else '+') :: digits

/-- What an exponent stands for. -/
def powerValue (power : Bool × List Char) : Int :=
  if power.1 then -(decimal power.2 : Int) else decimal power.2

/-- A numeral without its sign. -/
def unsigned (n : Numeral) : List Char :=
  n.whole ++ (placesText n.places ++ powerText n.power)

/-- How a numeral is written. -/
def text (n : Numeral) : List Char :=
  (if n.negative then ['-'] else []) ++ n.unsigned

/-- What a numeral stands for: an integer if it has neither a point nor an exponent. -/
def value (n : Numeral) : Value :=
  if n.places.isEmpty && n.power.isNone then
    .int (if n.negative then -(decimal n.whole : Int) else decimal n.whole)
  else
    .float (.ofDecimal n.negative (decimal (n.whole ++ n.places))
      ((n.power.map powerValue).getD 0 - n.places.length))

theorem exists_float_of_value {n : Numeral} (h : n.places ≠ [] ∨ n.power ≠ none) :
    ∃ y, n.value = .float y := by
  refine ⟨_, if_neg ?_⟩
  rcases h with h | h <;> simp [h]

/-! ## Reading numerals -/

theorem readWhole?_append (n : Numeral) {rest : List Char} (hrest : EndsDigits rest) :
    readWhole? (n.whole ++ rest) = some (n.whole, rest) := by
  rcases n.isWhole with ⟨hdigits, hzero⟩ | hzero
  · rw [← readDigits?_append hdigits hrest]
    apply readWhole?.eq_2
    intro after hafter
    rw [← hdigits.head?_append rest, hafter] at hzero
    exact hzero rfl
  · rw [hzero]
    rfl

theorem readPlaces_append {places rest : List Char} (h : ∀ c ∈ places, isDecimal c = true)
    (hrest : EndsDigits rest) (hpoint : rest.head? ≠ some '.') :
    readPlaces (placesText places ++ rest) = (places, rest) := by
  unfold placesText
  cases places with
  | nil =>
      cases rest with
      | nil => rfl
      | cons c rest =>
          have hc : c ≠ '.' := fun h => hpoint (congrArg some h)
          apply readPlaces.eq_2
          intro after hafter
          exact hc (List.cons.inj hafter).1
  | cons c places =>
      have hdigits := readDigits?_append ⟨List.cons_ne_nil c places, h⟩ hrest
      show (readDigits? (c :: places ++ rest)).getD _ = _
      rw [hdigits]
      rfl

theorem readPower_append {power : Option (Bool × List Char)} (h : ∀ p ∈ power, IsDigits p.2)
    {rest : List Char} (hrest : EndsNumber rest) :
    readPower (powerText power ++ rest) = (power.map powerValue, rest) := by
  cases power with
  | none =>
      cases rest with
      | nil => rfl
      | cons c rest =>
          have hc : ¬(c = 'e' ∨ c = 'E') := by
            rintro (rfl | rfl)
            · exact hrest 'e' rfl (by decide)
            · exact hrest 'E' rfl (by decide)
          simp [powerText, readPower, hc]
  | some p =>
      obtain ⟨negative, digits⟩ := p
      have hdigits := readDigits?_append (h _ rfl) hrest.endsDigits
      cases negative <;> simp [powerText, readPower, Decimal.readSign, hdigits, powerValue]

theorem mem_head?_powerText_append {power : Option (Bool × List Char)} {rest : List Char}
    {c : Char} (h : c ∈ (powerText power ++ rest).head?) : c = 'e' ∨ c ∈ rest.head? := by
  cases power with
  | none => exact Or.inr h
  | some p => exact Or.inl (Option.some.inj h).symm

theorem mem_head?_placesText_append {places rest : List Char} {c : Char}
    (h : c ∈ (placesText places ++ rest).head?) : c = '.' ∨ c ∈ rest.head? := by
  cases places with
  | nil => exact Or.inr h
  | cons d places => exact Or.inl (Option.some.inj h).symm

/-- A numeral is read without its sign as what it stands for with it. -/
theorem readUnsigned?_append (n : Numeral) {rest : List Char} (hrest : EndsNumber rest) :
    readUnsigned? n.negative (n.unsigned ++ rest) = some (n.value, rest) := by
  -- Each part ends where the next one begins, with a mark of its own or with the rest.
  have hpower : EndsDigits (powerText n.power ++ rest) := by
    intro c hc
    rcases mem_head?_powerText_append hc with rfl | hc
    · rfl
    · exact hrest.endsDigits c hc
  have hpoint : (powerText n.power ++ rest).head? ≠ some '.' := by
    intro hhead
    rcases mem_head?_powerText_append hhead with hc | hc
    · cases hc
    · exact hrest '.' hc (by decide)
  have hplaces : EndsDigits (placesText n.places ++ (powerText n.power ++ rest)) := by
    intro c hc
    rcases mem_head?_placesText_append hc with rfl | hc
    · rfl
    · exact hpower c hc
  rw [readUnsigned?, unsigned, List.append_assoc, List.append_assoc,
    n.readWhole?_append hplaces]
  simp only [Option.map_some, readPlaces_append n.isDecimal_places hpower hpoint,
    readPower_append n.isDigits_power hrest, Option.isNone_map]
  rw [value]
  split <;> rfl

/-- A numeral without its sign begins with a digit. -/
theorem unsigned_eq_cons (n : Numeral) : ∃ c s, n.unsigned = c :: s ∧ isDecimal c = true := by
  obtain ⟨hne, hall⟩ := n.isDigits_whole
  cases hw : n.whole with
  | nil => exact absurd hw hne
  | cons c whole =>
      refine ⟨c, whole ++ (placesText n.places ++ powerText n.power), by rw [unsigned, hw]; rfl, ?_⟩
      exact hall c (by rw [hw]; exact List.mem_cons_self ..)

/-- A numeral is read as what it stands for. -/
theorem readNumber?_append (n : Numeral) {rest : List Char} (hrest : EndsNumber rest) :
    readNumber? (n.text ++ rest) = some (n.value, rest) := by
  have hunsigned := n.readUnsigned?_append hrest
  rw [text]
  cases hnegative : n.negative with
  | true =>
      rw [hnegative] at hunsigned
      exact hunsigned
  | false =>
      rw [hnegative] at hunsigned
      obtain ⟨c, s, hs, hc⟩ := n.unsigned_eq_cons
      rw [← hunsigned, if_neg (by decide), List.nil_append]
      apply readNumber?.eq_2
      intro after hafter
      rw [hs] at hafter
      rw [(List.cons.inj hafter).1] at hc
      cases hc

/-- No word begins like a numeral: one of the first two characters of a numeral is a digit. -/
theorem find?_words (n : Numeral) (rest : List Char) :
    (words.find? fun w => w.1.isPrefixOf (n.text ++ rest)) = none := by
  have hwords : ∀ w ∈ words, ∃ a b s, w.1 = a :: b :: s ∧ isDecimal a = false ∧
      isDecimal b = false := by
    simp only [words, List.forall_mem_cons]
    exact ⟨⟨_, _, _, rfl, rfl, rfl⟩, ⟨_, _, _, rfl, rfl, rfl⟩, ⟨_, _, _, rfl, rfl, rfl⟩,
      ⟨_, _, _, rfl, rfl, rfl⟩, ⟨_, _, _, rfl, rfl, rfl⟩, ⟨_, _, _, rfl, rfl, rfl⟩, nofun⟩
  obtain ⟨c, s, hs, hc⟩ := n.unsigned_eq_cons
  rw [List.find?_eq_none]
  intro w hw
  obtain ⟨a, b, s', hword, ha, hb⟩ := hwords w hw
  have hca : a ≠ c := by
    rintro rfl
    rw [ha] at hc
    cases hc
  have hcb : b ≠ c := by
    rintro rfl
    rw [hb] at hc
    cases hc
  rw [hword, text, hs]
  cases n.negative <;> simp [hca, hcb]

theorem mem_numberChars_of_mem_text (n : Numeral) : ∀ c ∈ n.text, c ∈ numberChars := by
  have hdigits : ∀ digits : List Char, (∀ c ∈ digits, isDecimal c = true) →
      ∀ c ∈ digits, c ∈ numberChars :=
    fun digits h c hc => mem_numberChars_of_isDecimal (h c hc)
  intro c hc
  rw [text, unsigned, List.mem_append, List.mem_append, List.mem_append] at hc
  rcases hc with hc | hc | hc | hc
  · cases hnegative : n.negative <;> rw [hnegative] at hc
    · cases hc
    · rw [List.mem_singleton.mp hc]
      decide
  · exact hdigits _ n.isDigits_whole.2 c hc
  · unfold placesText at hc
    split at hc
    · cases hc
    · rcases List.mem_cons.mp hc with rfl | hc
      · decide
      · exact hdigits _ n.isDecimal_places c hc
  · cases hpower : n.power with
    | none =>
        rw [hpower] at hc
        cases hc
    | some p =>
        obtain ⟨negative, digits⟩ := p
        rw [hpower] at hc
        rcases List.mem_cons.mp hc with rfl | hc
        · decide
        · rcases List.mem_cons.mp hc with rfl | hc
          · cases negative <;> decide
          · exact hdigits _ (n.isDigits_power _ hpower).2 c hc

theorem isAscii_text (n : Numeral) : IsAscii n.text :=
  fun c hc => (of_mem_numberChars (n.mem_numberChars_of_mem_text c hc)).1

theorem text_eq_cons (n : Numeral) : ∃ c s, n.text = c :: s ∧ c ∈ numberChars := by
  obtain ⟨c, s, hs, -⟩ := n.unsigned_eq_cons
  cases htext : n.text with
  | nil => simp [text, hs] at htext
  | cons d t =>
      refine ⟨d, t, rfl, n.mem_numberChars_of_mem_text d ?_⟩
      rw [htext]
      exact List.mem_cons_self ..

/-- A numeral is a value that holds no others. -/
theorem readScalar?_append (n : Numeral) {rest : List Char} (hrest : EndsNumber rest) :
    readScalar? (n.text ++ rest) = some (n.value, rest) := by
  have hwords := n.find?_words rest
  have hnumber := n.readNumber?_append hrest
  obtain ⟨c, s, hs, hc⟩ := n.text_eq_cons
  obtain ⟨-, -, -, hquote⟩ := of_mem_numberChars hc
  rw [hs, List.cons_append] at hwords hnumber ⊢
  rw [readScalar?, if_neg hquote, hwords]
  exact hnumber

/-! ## The numerals of numbers -/

theorem isWhole_ofNat (n : Nat) :
    IsPositive (Decimal.ofNat n) ∨ Decimal.ofNat n = ['0'] := by
  by_cases hn : n = 0
  · exact Or.inr (by rw [hn]; rfl)
  · exact Or.inl (isPositive_ofNat hn)

/-- The numeral of an integer. -/
def ofInt (i : Int) : Numeral where
  negative := i < 0
  whole := Decimal.ofNat i.natAbs
  places := []
  power := none
  isWhole := isWhole_ofNat _
  isDecimal_places := nofun
  isDigits_power := nofun

theorem text_ofInt (i : Int) : (ofInt i).text = Decimal.ofInt i := by
  by_cases hi : i < 0 <;> simp [text, unsigned, placesText, powerText, ofInt, Decimal.ofInt, hi]

theorem value_ofInt (i : Int) : (ofInt i).value = .int i := by
  simp only [value, ofInt, decimal_ofNat, List.isEmpty_nil, Option.isNone_none, Bool.and_self,
    if_true, decide_eq_true_eq, Value.int.injEq]
  split <;> omega

/-- A numeral of a given sign is written as the given text behind it, and does not stand for an
    integer. -/
def IsFraction (n : Numeral) (negative : Bool) (unsigned : List Char) : Prop :=
  n.negative = negative ∧ n.unsigned = unsigned ∧ (n.places ≠ [] ∨ n.power ≠ none)

/-- Digits with a point among them, in front of them or behind them are a numeral. -/
theorem exists_positional {digits : List Char} (h : IsPositive digits) (negative : Bool)
    (point : Int) : ∃ n : Numeral, n.IsFraction negative (Decimal.positional digits point) := by
  unfold Decimal.positional
  -- The point stands in front of the digits, behind all of them or among them.
  by_cases hfront : point ≤ 0
  · have hplaces := h.1.zeros_append (-point).toNat
    rw [if_pos hfront]
    exact ⟨⟨negative, ['0'], _, none, Or.inr rfl, hplaces.2, nofun⟩, rfl,
      by simp [unsigned, placesText, powerText, hplaces.1], Or.inl hplaces.1⟩
  · rw [if_neg hfront]
    by_cases hbehind : (digits.length : Int) ≤ point
    · have hwhole := h.append_zeros (point.toNat - digits.length)
      rw [if_pos hbehind]
      exact ⟨⟨negative, _, ['0'], none, Or.inl hwhole, (isDigits_ofNat 0).2, nofun⟩, rfl,
        by simp [unsigned, placesText, powerText], Or.inl (isDigits_ofNat 0).1⟩
    · have hwhole : IsPositive (digits.take point.toNat) := h.take (by omega)
      have hplaces : digits.drop point.toNat ≠ [] := by
        rw [Ne, List.drop_eq_nil_iff]
        omega
      rw [if_neg hbehind]
      exact ⟨⟨negative, _, _, none, Or.inl hwhole,
        fun c hc => h.1.2 c (List.mem_of_mem_drop hc), nofun⟩, rfl,
        by simp [unsigned, placesText, powerText, hplaces], Or.inl hplaces⟩

/-- Digits with a point behind the first one and an exponent are a numeral. -/
theorem exists_scientific {digits : List Char} (h : IsPositive digits) (negative : Bool)
    (point : Int) : ∃ n : Numeral, n.IsFraction negative (Decimal.scientific digits point) := by
  let exponent := Decimal.ofNat (point - 1).natAbs
  have hpower : IsDigits (List.replicate (2 - exponent.length) '0' ++ exponent) :=
    (isDigits_ofNat _).zeros_append _
  refine ⟨⟨negative, digits.take 1, digits.drop 1,
    some (point - 1 < 0, List.replicate (2 - exponent.length) '0' ++ exponent),
    Or.inl (h.take (by decide)), fun c hc => h.1.2 c (List.mem_of_mem_drop hc), ?_⟩, rfl, ?_,
    Or.inr nofun⟩
  · intro p hp
    rw [← Option.some.inj hp]
    exact hpower
  · simp [unsigned, placesText, powerText, Decimal.scientific, Decimal.exponentText, exponent]

/-- A finite number is written as a numeral that stands for a double-precision number. -/
theorem exists_ofBinary64 (negative : Bool) (mantissa : Nat) (exponent : Int) :
    ∃ n : Numeral, Decimal.ofBinary64 (.finite negative mantissa exponent) = n.text ∧
      ∃ y, n.value = .float y := by
  obtain ⟨n, hnegative, hunsigned, hfraction⟩ : ∃ n : Numeral, n.IsFraction negative
      (if mantissa = 0 then ['0', '.', '0'] else
        Decimal.ofShortest (Decimal.shortest mantissa exponent).1
          (Decimal.shortest mantissa exponent).2) := by
    by_cases hzero : mantissa = 0
    · have hdigits := isDigits_ofNat 0
      rw [if_pos hzero]
      exact ⟨⟨negative, ['0'], ['0'], none, Or.inr rfl, hdigits.2, nofun⟩, rfl, rfl, Or.inl hdigits.1⟩
    · have hdigits := isPositive_ofNat (Decimal.shortest_ne_zero hzero exponent)
      rw [if_neg hzero]
      unfold Decimal.ofShortest
      dsimp only
      split
      · exact exists_positional hdigits negative _
      · exact exists_scientific hdigits negative _
  refine ⟨n, ?_, exists_float_of_value hfraction⟩
  rw [Decimal.ofBinary64, text, hnegative, hunsigned]

end Numeral

end NamedConstants.Json
