import Mathlib.Algebra.GroupWithZero.Nat
import NamedConstants.Decimal.Shortest

/-!
# The digits of a shortest decimal

The digits of the shortest decimal of a positive number are not zero (`shortest_ne_zero`), so that
they can stand at the front of a number.
-/

namespace NamedConstants.Decimal

theorem pow_digitCount_le {n : Nat} (h : n ≠ 0) : 10 ^ (digitCount n - 1) ≤ n := by
  by_cases hone : digitCount n ≤ 1
  · rw [Nat.sub_eq_zero_of_le hone]
    exact Nat.pos_of_ne_zero h
  · by_cases hn : n < 10 ^ (digitCount n - 1)
    · have hcount := (Nat.length_toDigits_le_iff (by decide) (by omega)).mpr hn
      unfold digitCount at hcount hone
      omega
    · exact Nat.le_of_not_lt hn

theorem lt_pow_digitCount (n : Nat) : n < 10 ^ digitCount n :=
  (Nat.length_toDigits_le_iff (by decide) Nat.length_toDigits_pos).mp (Nat.le_refl _)

/-! ## Scales -/

theorem scales_fst (e g : Int) : (scales e g).1 = (scales e 0).1 * 10 ^ (-g).toNat := by
  simp [scales]

theorem scales_snd (e g : Int) : (scales e g).2 = (scales e 0).2 * 10 ^ g.toNat := by
  simp [scales]

theorem scales_fst_pos (e g : Int) : 0 < (scales e g).1 :=
  Nat.mul_pos (Nat.pow_pos (by decide)) (Nat.pow_pos (by decide))

theorem scales_snd_pos (e g : Int) : 0 < (scales e g).2 :=
  Nat.mul_pos (Nat.pow_pos (by decide)) (Nat.pow_pos (by decide))

/-! ## What a search finds -/

namespace Neighbourhood

variable {n : Neighbourhood}

/-- Zero does not round to a positive number. -/
theorem ne_zero_of_holds (hlow : 0 < n.low) {digits : Nat} {power : Int}
    (h : n.holds digits power = true) : digits ≠ 0 := by
  rintro rfl
  have hpos : 0 < n.low * (scales n.exponent power).1 :=
    Nat.mul_pos hlow (scales_fst_pos n.exponent power)
  simp only [holds, Nat.zero_mul] at h
  split at h
  · rw [Bool.and_eq_true, decide_eq_true_eq] at h
    omega
  · rw [Bool.and_eq_true, decide_eq_true_eq] at h
    omega

theorem ne_zero_of_hit? (hlow : 0 < n.low) {digits : Nat} {power : Int}
    (h : n.hit? power = some digits) : digits ≠ 0 := by
  unfold hit? at h
  dsimp only at h
  split at h
  · rename_i hlower hupper
    have hne := ne_zero_of_holds hlow hlower
    obtain rfl := Option.some.inj h
    split
    · exact Nat.succ_ne_zero _
    · exact hne
  · rename_i hlower hupper
    obtain rfl := Option.some.inj h
    exact ne_zero_of_holds hlow hlower
  · obtain rfl := Option.some.inj h
    exact Nat.succ_ne_zero _
  · cases h

/-- The position of the point, as a lower bound of the number in powers of ten. -/
theorem pointPosition_cases (hcentre : 0 < n.centre) :
    (∃ p : Nat, n.pointPosition = p + 1 ∧
      (scales n.exponent 0).2 * 10 ^ p ≤ n.centre * (scales n.exponent 0).1) ∨
    ∃ p : Nat, n.pointPosition = 1 - p ∧
      (scales n.exponent 0).2 ≤ n.centre * (scales n.exponent 0).1 * 10 ^ p := by
  have hpos : 0 < n.centre * (scales n.exponent 0).1 :=
    Nat.mul_pos hcentre (scales_fst_pos n.exponent 0)
  have hdecimal := scales_snd_pos n.exponent 0
  have hpoint : n.pointPosition =
      if (scales n.exponent 0).2 ≤ n.centre * (scales n.exponent 0).1 then
        (digitCount (n.centre * (scales n.exponent 0).1 / (scales n.exponent 0).2) : Int)
      else 1 - (digitCount (((scales n.exponent 0).2 - 1) /
        (n.centre * (scales n.exponent 0).1))) := rfl
  generalize (scales n.exponent 0).2 = decimal at *
  generalize n.centre * (scales n.exponent 0).1 = centre at *
  by_cases hbig : decimal ≤ centre
  · have hquotient : centre / decimal ≠ 0 := Nat.ne_of_gt (Nat.div_pos hbig hdecimal)
    have hcount : 0 < digitCount (centre / decimal) := Nat.length_toDigits_pos
    refine Or.inl ⟨digitCount (centre / decimal) - 1, ?_, ?_⟩
    · rw [hpoint, if_pos hbig]
      omega
    · calc decimal * 10 ^ (digitCount (centre / decimal) - 1)
          ≤ decimal * (centre / decimal) := Nat.mul_le_mul_left _ (pow_digitCount_le hquotient)
        _ ≤ centre := Nat.mul_div_le centre decimal
  · refine Or.inr ⟨digitCount ((decimal - 1) / centre), ?_, ?_⟩
    · rw [hpoint, if_neg hbig]
    · have hlast := (Nat.div_lt_iff_lt_mul hpos).mp (lt_pow_digitCount ((decimal - 1) / centre))
      rw [Nat.mul_comm] at hlast
      omega

/-- A grid that is at least as fine as the first digit of a number has a point below the
    number. -/
theorem below_ne_zero (hcentre : 0 < n.centre) {count : Nat} (hcount : 0 < count) :
    n.below (n.pointPosition - count) ≠ 0 := by
  have hle : (scales n.exponent (n.pointPosition - count)).2 ≤
      n.centre * (scales n.exponent (n.pointPosition - count)).1 := by
    rw [scales_fst, scales_snd, ← Nat.mul_assoc]
    -- In either case the power of ten is at most that of the first digit.
    rcases pointPosition_cases hcentre with ⟨p, hpoint, hle⟩ | ⟨p, hpoint, hle⟩
    · calc (scales n.exponent 0).2 * 10 ^ (n.pointPosition - count).toNat
          ≤ (scales n.exponent 0).2 * 10 ^ p :=
            Nat.mul_le_mul_left _ (Nat.pow_le_pow_right (by decide) (by omega))
        _ ≤ n.centre * (scales n.exponent 0).1 := hle
        _ ≤ _ := Nat.le_mul_of_pos_right _ (Nat.pow_pos (by decide))
    · have hnone : (n.pointPosition - count).toNat = 0 := by omega
      calc (scales n.exponent 0).2 * 10 ^ (n.pointPosition - count).toNat
          = (scales n.exponent 0).2 := by rw [hnone, Nat.pow_zero, Nat.mul_one]
        _ ≤ n.centre * (scales n.exponent 0).1 * 10 ^ p := hle
        _ ≤ _ := Nat.mul_le_mul_left _ (Nat.pow_le_pow_right (by decide) (by omega))
  exact Nat.ne_of_gt (Nat.div_pos hle (scales_snd_pos _ _))

theorem search_ne_zero (hlow : 0 < n.low) (hcentre : 0 < n.centre) (fuel : Nat) {count : Nat}
    (hcount : 0 < count) : (n.search n.pointPosition fuel count).1 ≠ 0 := by
  induction fuel generalizing count with
  | zero => exact below_ne_zero hcentre hcount
  | succ fuel ih =>
      rw [search]
      split
      · rename_i digits hhit
        exact ne_zero_of_hit? hlow hhit
      · exact ih (Nat.succ_pos count)

end Neighbourhood

theorem dropZeros_ne_zero {digits : Nat} (h : digits ≠ 0) (power : Int) :
    (dropZeros digits power).1 ≠ 0 := by
  fun_induction dropZeros digits power with
  | case1 digits power hzero ih => exact ih (by omega)
  | case2 digits power hzero => exact h

/-- The shortest decimal of a positive number is not zero. -/
theorem shortest_ne_zero {mantissa : Nat} (h : mantissa ≠ 0) (exponent : Int) :
    (shortest mantissa exponent).1 ≠ 0 := by
  have hlow : 0 < (Neighbourhood.of mantissa exponent).low := by
    unfold Neighbourhood.of
    dsimp only
    split <;> omega
  have hcentre : 0 < (Neighbourhood.of mantissa exponent).centre :=
    Nat.mul_pos (by decide) (Nat.pos_of_ne_zero h)
  exact dropZeros_ne_zero (Neighbourhood.search_ne_zero hlow hcentre 17 (by decide)) _

end NamedConstants.Decimal
