/-
# Quotients truncated toward zero

A quotient of two integers is rounded to a number of the format first and truncated then.
What comes out is the integer part of the rounded quotient of the sizes, with the sign of
the quotient (`trunc?_ofQuotient`), so the sizes are all that there is to look at.

* Up to `2 ^ 53` the rounding has no say: the integer part of the rounded quotient is that of
  the quotient (`floor_rounded_eq_div`).  A quotient that is no integer stays below the next
  one, since the rounding errs by less than what is missing to it.
* Beyond it the error is less than one and a `2 ^ 53`-th of the quotient
  (`abs_floor_rounded_sub_lt`), and the order is kept (`rounded_mono`).
-/

import Mathlib.Algebra.Order.Floor.Semifield
import Mathlib.Data.Rat.Floor
import PowerSupply.Proofs.Number.Nearest

namespace PowerSupply
namespace Binary64

variable {num den : Nat}

/-! ### The integer part of a rounded quotient -/

/-- **The rounding does not carry a quotient up to the next integer**, as long as the number
that is divided is at most `2 ^ 53`. -/
theorem floor_rounded_eq_div (hd : 0 < den) (h : num ≤ 2 ^ 53) :
    ⌊rounded num den⌋₊ = num / den := by
  have hd' : (0 : ℚ) < den := by exact_mod_cast hd
  have hfloor : ((num / den : Nat) : ℚ) ≤ num / den := by
    rw [le_div_iff₀ hd']
    exact_mod_cast Nat.div_mul_le_self num den
  have hnext : (num : ℚ) + 1 ≤ ((num / den : Nat) + 1) * den := by
    have := Nat.lt_mul_of_div_lt (Nat.lt_succ_self (num / den)) hd
    exact_mod_cast (Nat.mul_comm den _ ▸ this : num < (num / den + 1) * den)
  rw [Nat.floor_eq_iff (rounded_nonneg num den)]
  refine ⟨le_rounded hd (representable_natCast ((Nat.div_le_self _ _).trans h)) hfloor, ?_⟩
  rcases lt_or_ge (num / den : ℚ) (2 ^ (-1022 : ℤ)) with hsmall | hlarge
  · -- a tiny quotient is rounded to a tiny number
    calc rounded num den ≤ 2 ^ (-1022 : ℤ) :=
          rounded_le hd (representable_two_zpow (by norm_num)) hsmall.le
      _ < 1 := zpow_lt_one_of_neg₀ one_lt_two (by norm_num)
      _ ≤ (num / den : Nat) + 1 := le_add_of_nonneg_left (Nat.cast_nonneg _)
  · have herror := (abs_lt.1 (abs_rounded_sub_lt hd hlarge)).2
    have hmissing : (num / den / 2 ^ 53 : ℚ) ≤ 1 / den := by
      have : (num : ℚ) ≤ 2 ^ 53 := by exact_mod_cast h
      rw [div_right_comm]
      gcongr
      rw [div_le_one (by positivity)]
      exact this
    calc rounded num den < num / den + 1 / den := by linarith
      _ = (num + 1) / den := by rw [add_div]
      _ ≤ (num / den : Nat) + 1 := by rwa [div_le_iff₀ hd']

/-- **The integer part of a rounded quotient errs by less than one**, and the `2 ^ 53`-th of
the quotient by which it was rounded. -/
theorem abs_floor_rounded_sub_lt (hd : 0 < den) :
    |(⌊rounded num den⌋₊ : ℚ) - num / den| < 1 + num / den / 2 ^ 53 := by
  have hfloor := Nat.floor_le (rounded_nonneg num den)
  have hnext := Nat.lt_floor_add_one (rounded num den)
  have hquotient : (0 : ℚ) ≤ num / den := by positivity
  rcases lt_or_ge (num / den : ℚ) (2 ^ (-1022 : ℤ)) with hsmall | hlarge
  · have htiny : (2 : ℚ) ^ (-1022 : ℤ) < 1 := zpow_lt_one_of_neg₀ one_lt_two (by norm_num)
    have hrounded : rounded num den ≤ 2 ^ (-1022 : ℤ) :=
      rounded_le hd (representable_two_zpow (by norm_num)) hsmall.le
    have hpart : (0 : ℚ) ≤ num / den / 2 ^ 53 := by positivity
    have hwhole : (0 : ℚ) ≤ ⌊rounded num den⌋₊ := Nat.cast_nonneg _
    rw [abs_lt]
    constructor <;> linarith
  · obtain ⟨hlow, hhigh⟩ := abs_lt.1 (abs_rounded_sub_lt hd hlarge)
    rw [abs_lt]
    constructor <;> linarith

/-! ### Truncation -/

/-- Truncating takes the integer part of the value. -/
theorem truncated_eq_floor (m : Nat) (e : ℤ) : truncated m e = ⌊(m : ℚ) * 2 ^ e⌋₊ := by
  unfold truncated
  split
  · rename_i he
    obtain ⟨n, rfl⟩ := Int.eq_ofNat_of_zero_le he
    have : (m : ℚ) * 2 ^ (n : ℤ) = ((m * 2 ^ n : ℕ) : ℚ) := by
      push_cast
      rw [zpow_natCast]
    rw [this, Nat.floor_natCast, Int.toNat_natCast]
    rfl
  · rename_i he
    obtain ⟨n, hn⟩ := Int.eq_ofNat_of_zero_le (show 0 ≤ -e by omega)
    have : (m : ℚ) * 2 ^ e = m / ((2 ^ n : ℕ) : ℚ) := by
      rw [show e = -(n : ℤ) by omega, zpow_neg, zpow_natCast, ← div_eq_mul_inv]
      push_cast
      rfl
    rw [this, Nat.floor_div_eq_div, hn, Int.toNat_natCast]
    rfl

/-- The nearest number to a quotient of integers, truncated toward zero: the integer part of
the rounded quotient of their sizes, with the sign of the quotient. -/
def wholeQuotient (a b : ℤ) : ℤ := a.sign * b.sign * ⌊rounded a.natAbs b.natAbs⌋₊

variable {a b : ℤ}

/-- **A quotient is truncated to the integer part of its size**, with its sign. -/
theorem trunc?_ofQuotient (hb : b ≠ 0) (h : a.natAbs.log2 < 1000) :
    (ofQuotient a b).trunc? = some (wholeQuotient a b) := by
  have hsize : 0 < b.natAbs := Int.natAbs_pos.2 hb
  obtain ⟨m, e, heq, hvalue, -⟩ :=
    exists_ofRatio (decide (a < 0) != decide (b < 0)) hsize h
  unfold ofQuotient wholeQuotient
  rw [heq, hvalue, ← truncated_eq_floor]
  unfold trunc?
  rcases lt_trichotomy a 0 with ha | rfl | ha
  · rcases lt_or_gt_of_ne hb with hb | hb
    · simp [ha, hb, Int.sign_eq_neg_one_of_neg]
    · simp [ha, hb.le, Int.sign_eq_neg_one_of_neg, Int.sign_eq_one_of_pos hb]
  · have hzero : truncated m e = 0 := by
      rw [truncated_eq_floor, ← hvalue, Int.natAbs_zero, rounded_zero hsize, Nat.floor_zero]
    simp [hzero]
  · rcases lt_or_gt_of_ne hb with hb | hb
    · simp [not_lt.2 ha.le, hb, Int.sign_eq_neg_one_of_neg, Int.sign_eq_one_of_pos ha]
    · simp [not_lt.2 ha.le, not_lt.2 hb.le, Int.sign_eq_one_of_pos ha, Int.sign_eq_one_of_pos hb]

theorem wholeQuotient_neg (a b : ℤ) : wholeQuotient (-a) b = -wholeQuotient a b := by
  unfold wholeQuotient
  rw [Int.sign_neg, Int.natAbs_neg]
  ring

theorem wholeQuotient_neg_right (a b : ℤ) : wholeQuotient a (-b) = -wholeQuotient a b := by
  unfold wholeQuotient
  rw [Int.sign_neg, Int.natAbs_neg]
  ring

theorem wholeQuotient_natCast (num : Nat) (hd : 0 < den) :
    wholeQuotient num den = ⌊rounded num den⌋₊ := by
  unfold wholeQuotient
  rw [Int.natAbs_natCast, Int.natAbs_natCast, Int.sign_eq_one_of_pos (Int.natCast_pos.2 hd)]
  rcases Nat.eq_zero_or_pos num with rfl | hn
  · simp [rounded_zero hd]
  · rw [Int.sign_eq_one_of_pos (Int.natCast_pos.2 hn), one_mul, one_mul]

/-- **Up to `2 ^ 53`** it is the quotient of the integers, truncated toward zero. -/
theorem wholeQuotient_eq_tdiv (hb : b ≠ 0) (h : a.natAbs ≤ 2 ^ 53) :
    wholeQuotient a b = Int.tdiv a b := by
  have hnat : ∀ {num den : Nat}, 0 < den → num ≤ 2 ^ 53 →
      wholeQuotient num den = Int.tdiv num den := fun hd hn => by
    rw [wholeQuotient_natCast _ hd, floor_rounded_eq_div hd hn]
    rfl
  obtain ⟨num, rfl | rfl⟩ := a.eq_nat_or_neg <;> obtain ⟨den, rfl | rfl⟩ := b.eq_nat_or_neg
  · exact hnat (by omega) (by omega)
  · rw [wholeQuotient_neg_right, Int.tdiv_neg, hnat (by omega) (by omega)]
  · rw [wholeQuotient_neg, Int.neg_tdiv, hnat (by omega) (by omega)]
  · rw [wholeQuotient_neg, wholeQuotient_neg_right, Int.neg_tdiv, Int.tdiv_neg,
      hnat (by omega) (by omega)]

/-- **It has the sign of the quotient**, or is zero. -/
theorem wholeQuotient_mul_nonneg (a b : ℤ) : 0 ≤ wholeQuotient a b * (a * b) := by
  have hsigns : wholeQuotient a b * (a * b) =
      a.natAbs * b.natAbs * (⌊rounded a.natAbs b.natAbs⌋₊ : ℤ) := by
    unfold wholeQuotient
    rw [← Int.sign_mul_self_eq_natAbs a, ← Int.sign_mul_self_eq_natAbs b]
    ring
  rw [hsigns]
  positivity

/-- **It grows with the first integer**, where the second is positive. -/
theorem wholeQuotient_mono {a' : ℤ} (hb : 0 < b) (h : a ≤ a') :
    wholeQuotient a b ≤ wholeQuotient a' b := by
  lift b to ℕ using hb.le
  have hd : 0 < b := Int.natCast_pos.1 hb
  have grows : ∀ {num num' : ℕ}, num ≤ num' → ⌊rounded num b⌋₊ ≤ ⌊rounded num' b⌋₊ :=
    fun hn => Nat.floor_le_floor (rounded_mono hd hn)
  obtain ⟨num, rfl | rfl⟩ := a.eq_nat_or_neg <;> obtain ⟨num', rfl | rfl⟩ := a'.eq_nat_or_neg <;>
    simp only [wholeQuotient_neg, wholeQuotient_natCast _ hd]
  · exact_mod_cast grows (by omega)
  · have : num = 0 ∧ num' = 0 := by omega
    simp [this, rounded_zero hd]
  · omega
  · have := grows (show num' ≤ num by omega)
    omega

/-- **Times the second integer it misses the first** by less than the size of the second, and
a `2 ^ 53`-th of the first. -/
theorem abs_wholeQuotient_mul_sub_lt (a : ℤ) (hb : b ≠ 0) :
    |(wholeQuotient a b : ℚ) * b - a| < |(b : ℚ)| + |(a : ℚ)| / 2 ^ 53 := by
  have hnat : ∀ (num : Nat) {den : Nat}, 0 < den →
      |(wholeQuotient num den : ℚ) * den - num| < den + num / 2 ^ 53 := fun num den hd => by
    have hd' : (0 : ℚ) < den := by exact_mod_cast hd
    have hsplit : (⌊rounded num den⌋₊ : ℚ) * den - num =
        (⌊rounded num den⌋₊ - num / den) * den := by
      field_simp
    rw [wholeQuotient_natCast _ hd, Int.cast_natCast, hsplit, abs_mul, abs_of_pos hd']
    calc |(⌊rounded num den⌋₊ : ℚ) - num / den| * den < (1 + num / den / 2 ^ 53) * den := by
          gcongr
          exact abs_floor_rounded_sub_lt hd
      _ = den + num / 2 ^ 53 := by field_simp
  obtain ⟨num, rfl | rfl⟩ := a.eq_nat_or_neg <;> obtain ⟨den, rfl | rfl⟩ := b.eq_nat_or_neg <;>
    have hmiss := hnat num (show 0 < den by omega) <;>
    simp only [wholeQuotient_neg, wholeQuotient_neg_right, Int.cast_neg, Int.cast_natCast, abs_neg,
      Nat.abs_cast]
  · exact hmiss
  · rwa [neg_mul_neg]
  · rwa [neg_mul, neg_sub_neg, abs_sub_comm]
  · rwa [neg_neg, mul_neg, neg_sub_neg, abs_sub_comm]

end Binary64
end PowerSupply
