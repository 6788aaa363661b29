/-
# Rounding to the nearest number

`rounded num den` is the exact value of what `num / den` is rounded to, and it is the
value of the finite number that `ofRatio` gives (`exists_ofRatio`).  The values of the
format are the `Representable` ones: a mantissa below `2 ^ 53`, and an exponent from
`-1074` on.

The quotient lies between two powers of two that are one apart (`magnitude_spec`).  So its
mantissa has 53 bits, or fewer where the exponent is at its least, and the numbers with a
smaller exponent are all below the quotient's own power of two.  Hence no value of the
format is nearer to the quotient than the rounded one (`rounded_nearest`), and of two that are
as near the rounded one has the even mantissa (`even_roundedMantissa`).  From the first of
these follows what is needed of the rounding:

* it does not pass over a value of the format (`rounded_le`, `le_rounded`);
* it keeps the order (`rounded_mono`);
* it errs by less than a `2 ^ 53`-th of the quotient, where that is not tiny
  (`abs_rounded_sub_lt`).
-/

import Mathlib.Algebra.Order.Field.Power
import Mathlib.Data.Rat.Cast.Order
import Mathlib.Tactic.FieldSimp
import Mathlib.Tactic.Linarith
import Mathlib.Tactic.NormNum
import Mathlib.Tactic.Positivity
import Mathlib.Tactic.Ring
import PowerSupply.Proofs.Number.Quotient

namespace PowerSupply

/-! ### Rounding to an integer -/

theorem abs_roundHalfEven_sub_le (n : Nat) {d : Nat} (hd : 0 < d) :
    |(roundHalfEven n d : ℚ) - n / d| ≤ 1 / 2 := by
  obtain ⟨hhigh, hlow⟩ := roundHalfEven_near n hd
  have hd' : (0 : ℚ) < d := by exact_mod_cast hd
  have hhigh' : 2 * ((roundHalfEven n d : ℚ) * d) ≤ 2 * n + d := by exact_mod_cast hhigh
  have hlow' : 2 * (n : ℚ) ≤ 2 * (roundHalfEven n d * d) + d := by exact_mod_cast hlow
  have hsplit : (roundHalfEven n d : ℚ) - n / d = (roundHalfEven n d * d - n) / d := by
    field_simp
  rw [hsplit, abs_div, abs_of_pos hd', div_le_iff₀ hd', abs_le]
  constructor <;> linarith

/-- Two integers are at least one apart, wherever the point between them is. -/
theorem one_le_abs_sub_add_abs_sub {j : ℤ} {n : Nat} (h : j ≠ n) (x : ℚ) :
    1 ≤ |(j : ℚ) - x| + |(n : ℚ) - x| := by
  have hapart : (1 : ℚ) ≤ |(j : ℚ) - n| := by
    have : (1 : ℤ) ≤ |j - n| := Int.one_le_abs (sub_ne_zero.2 h)
    exact_mod_cast this
  rw [abs_sub_comm (n : ℚ) x]
  exact hapart.trans (abs_sub_le (j : ℚ) x n)

/-- **No integer is nearer** than the rounded one, which is at most half a unit away. -/
theorem roundHalfEven_nearest (n : Nat) {d : Nat} (hd : 0 < d) (j : ℤ) :
    |(roundHalfEven n d : ℚ) - n / d| ≤ |(j : ℚ) - n / d| := by
  by_cases hj : j = roundHalfEven n d
  · rw [hj, Int.cast_natCast]
  · have hapart := one_le_abs_sub_add_abs_sub hj (n / d)
    have hhalf := abs_roundHalfEven_sub_le n hd
    linarith

/-- **A tie goes to the even integer.**  Where another integer is as near, both are half a unit
away, and the rounded one is even. -/
theorem even_roundHalfEven {n d : Nat} (hd : 0 < d) {j : ℤ} (hj : j ≠ roundHalfEven n d)
    (h : |(j : ℚ) - n / d| = |(roundHalfEven n d : ℚ) - n / d|) : Even (roundHalfEven n d) := by
  have hd' : (0 : ℚ) < d := by exact_mod_cast hd
  have hhalf : |(roundHalfEven n d : ℚ) - n / d| = 1 / 2 := by
    have hapart := one_le_abs_sub_add_abs_sub hj (n / d)
    exact le_antisymm (abs_roundHalfEven_sub_le n hd) (by linarith)
  have hsides : 2 * (roundHalfEven n d * d) = 2 * n + d ∨
      2 * (roundHalfEven n d * d) + d = 2 * n := by
    rcases (abs_eq (by norm_num)).1 hhalf with hside | hside <;> field_simp at hside
    · left
      have : 2 * ((roundHalfEven n d : ℚ) * d) = 2 * n + d := by linarith
      exact_mod_cast this
    · right
      have : 2 * ((roundHalfEven n d : ℚ) * d) + d = 2 * n := by linarith
      exact_mod_cast this
  have hq := Nat.div_add_mod n d
  have hr := Nat.mod_lt n hd
  have hc : d * (n / d) = n / d * d := Nat.mul_comm _ _
  rw [Nat.even_iff]
  unfold roundHalfEven at hsides ⊢
  split at hsides
  · omega
  split at hsides
  · rw [Nat.add_mul] at hsides
    omega
  · rw [if_neg ‹_›, if_neg ‹_›]
    omega

namespace Binary64

/-! ### The exponent of a quotient -/

/-- The fraction that stands for `num / (den · 2 ^ e)` has this value. -/
theorem scaled_div (num den : Nat) (e : ℤ) :
    ((scaled num den e).1 : ℚ) / (scaled num den e).2 = num / den / 2 ^ e := by
  unfold scaled
  split
  · rename_i he
    obtain ⟨n, rfl⟩ := Int.eq_ofNat_of_zero_le he
    simp [div_div]
  · rename_i he
    obtain ⟨n, hn⟩ := Int.eq_ofNat_of_zero_le (show 0 ≤ -e by omega)
    rw [show e = -(n : ℤ) by omega]
    simp [div_mul_eq_mul_div]

variable {num den : Nat}

/-- Comparing the two parts of this fraction compares the quotient with a power of two. -/
theorem scaled_le_iff (num : Nat) (hd : 0 < den) (e : ℤ) :
    (scaled num den e).2 ≤ (scaled num den e).1 ↔ (2 : ℚ) ^ e ≤ num / den := by
  have hpos : (0 : ℚ) < (scaled num den e).2 := by exact_mod_cast scaled_pos hd
  rw [← @Nat.cast_le ℚ, ← one_le_div₀ hpos, scaled_div, one_le_div₀ (by positivity)]

/-- The binary digits of both numbers place their quotient between two powers of two that are
two apart. -/
theorem log2_le_div (hn : 0 < num) (hd : 0 < den) :
    (2 : ℚ) ^ ((num.log2 : ℤ) - den.log2 - 1) ≤ num / den ∧
      (num / den : ℚ) < 2 ^ ((num.log2 : ℤ) - den.log2 + 1) := by
  have hd' : (0 : ℚ) < den := by exact_mod_cast hd
  have num_ge : (2 : ℚ) ^ num.log2 ≤ num := by exact_mod_cast Nat.log2_self_le hn.ne'
  have num_lt : (num : ℚ) < 2 ^ (num.log2 + 1) := by exact_mod_cast Nat.lt_log2_self
  have den_ge : (2 : ℚ) ^ den.log2 ≤ den := by exact_mod_cast Nat.log2_self_le hd.ne'
  have den_lt : (den : ℚ) < 2 ^ (den.log2 + 1) := by exact_mod_cast Nat.lt_log2_self
  constructor
  · rw [le_div_iff₀ hd']
    calc (2 : ℚ) ^ ((num.log2 : ℤ) - den.log2 - 1) * den
        ≤ 2 ^ ((num.log2 : ℤ) - den.log2 - 1) * 2 ^ (den.log2 + 1) := by gcongr
      _ = 2 ^ num.log2 := by
          rw [← zpow_natCast, ← zpow_natCast, ← zpow_add₀ two_ne_zero]
          congr 1
          push_cast
          ring
      _ ≤ num := num_ge
  · rw [div_lt_iff₀ hd']
    calc (num : ℚ) < 2 ^ (num.log2 + 1) := num_lt
      _ = 2 ^ ((num.log2 : ℤ) - den.log2 + 1) * 2 ^ den.log2 := by
          rw [← zpow_natCast, ← zpow_natCast, ← zpow_add₀ two_ne_zero]
          congr 1
          push_cast
          ring
      _ ≤ 2 ^ ((num.log2 : ℤ) - den.log2 + 1) * den := by gcongr

/-- **The order of magnitude of a quotient** is the power of two that it reaches. -/
theorem magnitude_spec (hn : 0 < num) (hd : 0 < den) :
    (2 : ℚ) ^ magnitude num den ≤ num / den ∧ (num / den : ℚ) < 2 ^ (magnitude num den + 1) := by
  obtain ⟨low, high⟩ := log2_le_div hn hd
  have compare := scaled_le_iff num hd ((num.log2 : ℤ) - den.log2)
  unfold magnitude
  dsimp only
  split
  · rename_i h
    exact ⟨compare.1 h, high⟩
  · rename_i h
    rw [sub_add_cancel]
    exact ⟨low, not_le.1 fun hle => h (compare.2 hle)⟩

/-- A quotient has at most 53 bits before its last place. -/
theorem div_lt_unit (hn : 0 < num) (hd : 0 < den) :
    (num / den : ℚ) < 2 ^ (unitExponent num den + 53) := by
  refine (magnitude_spec hn hd).2.trans_le (zpow_le_zpow_right₀ one_le_two ?_)
  unfold unitExponent
  omega

/-- It has all 53 of them, unless the exponent is at its least. -/
theorem unit_le_div (hn : 0 < num) (hd : 0 < den) (he : -1074 < unitExponent num den) :
    (2 : ℚ) ^ (unitExponent num den + 52) ≤ num / den := by
  refine le_trans (zpow_le_zpow_right₀ one_le_two ?_) (magnitude_spec hn hd).1
  unfold unitExponent at he ⊢
  omega

/-! ### The values of the format -/

/-- The values of the format, with any greatest exponent. -/
def Representable (y : ℚ) : Prop :=
  ∃ (m : Nat) (e : ℤ), m < 2 ^ 53 ∧ -1074 ≤ e ∧ y = m * 2 ^ e

theorem representable_two_zpow {e : ℤ} (he : -1074 ≤ e) : Representable (2 ^ e) :=
  ⟨1, e, by norm_num, he, by simp⟩

theorem representable_of_le {m : Nat} {e : ℤ} (hm : m ≤ 2 ^ 53) (he : -1074 ≤ e) :
    Representable (m * 2 ^ e) := by
  rcases Nat.lt_or_eq_of_le hm with hlt | rfl
  · exact ⟨m, e, hlt, he, rfl⟩
  · refine ⟨1, e + 53, by norm_num, by omega, ?_⟩
    rw [zpow_add₀ two_ne_zero]
    norm_num
    ring

theorem representable_natCast {m : Nat} (hm : m ≤ 2 ^ 53) : Representable m := by
  simpa using representable_of_le hm (show (-1074 : ℤ) ≤ 0 by norm_num)

/-! ### The rounded value -/

/-- The value to which `num / den` is rounded. -/
def rounded (num den : Nat) : ℚ := roundedMantissa num den * 2 ^ unitExponent num den

theorem rounded_nonneg (num den : Nat) : 0 ≤ rounded num den := by
  unfold rounded
  positivity

theorem rounded_zero (hd : 0 < den) : rounded 0 den = 0 := by
  have hzero : roundHalfEven 0 (scaled 0 den (unitExponent 0 den)).2 = 0 := by
    simpa using roundHalfEven_mul 0 (scaled_pos hd : 0 < (scaled 0 den (unitExponent 0 den)).2)
  have hnum : (scaled 0 den (unitExponent 0 den)).1 = 0 := by
    unfold scaled
    split
    · rfl
    · exact Nat.zero_mul _
  unfold rounded roundedMantissa
  dsimp only
  rw [hnum, hzero]
  simp

/-- The distance of a multiple of the last place from a quotient, in units of that place. -/
theorem abs_mul_zpow_sub (k x : ℚ) (e : ℤ) : |k * 2 ^ e - x| = |k - x / 2 ^ e| * 2 ^ e := by
  have hpos : (0 : ℚ) < 2 ^ e := by positivity
  have hsplit : k * 2 ^ e - x = (k - x / 2 ^ e) * 2 ^ e := by field_simp
  rw [hsplit, abs_mul, abs_of_pos hpos]

/-- **The error is at most half a unit** in the last place. -/
theorem abs_rounded_sub_le (num : Nat) (hd : 0 < den) :
    |rounded num den - num / den| ≤ 2 ^ unitExponent num den / 2 := by
  have hhalf := abs_roundHalfEven_sub_le (scaled num den (unitExponent num den)).1
    (scaled_pos hd : 0 < (scaled num den (unitExponent num den)).2)
  rw [scaled_div] at hhalf
  unfold rounded
  rw [abs_mul_zpow_sub]
  calc _ ≤ 1 / 2 * (2 : ℚ) ^ unitExponent num den :=
        mul_le_mul_of_nonneg_right hhalf (zpow_pos two_pos _).le
    _ = 2 ^ unitExponent num den / 2 := by ring

/-- No multiple of the last place is nearer. -/
theorem rounded_nearest_multiple (num : Nat) (hd : 0 < den) (j : ℤ) :
    |rounded num den - num / den| ≤ |(j : ℚ) * 2 ^ unitExponent num den - num / den| := by
  have hnear := roundHalfEven_nearest (scaled num den (unitExponent num den)).1
    (scaled_pos hd : 0 < (scaled num den (unitExponent num den)).2) j
  rw [scaled_div] at hnear
  unfold rounded
  rw [abs_mul_zpow_sub, abs_mul_zpow_sub]
  exact mul_le_mul_of_nonneg_right hnear (zpow_pos two_pos _).le

/-- A value of the format with an exponent that is not smaller is such a multiple. -/
theorem exists_multiple (m : Nat) {e u : ℤ} (h : u ≤ e) :
    ∃ j : ℤ, (m : ℚ) * 2 ^ e = j * 2 ^ u := by
  obtain ⟨n, hn⟩ := Int.eq_ofNat_of_zero_le (show 0 ≤ e - u by omega)
  refine ⟨((m * 2 ^ n : ℕ) : ℤ), ?_⟩
  rw [show e = n + u by omega, zpow_add₀ two_ne_zero, zpow_natCast]
  push_cast
  ring

/-- A value of the format is a multiple of the last place of a quotient, or it is not above
the power of two that the quotient reaches. -/
theorem multiple_or_le (hn : 0 < num) (hd : 0 < den) {y : ℚ} (hy : Representable y) :
    (∃ j : ℤ, y = j * 2 ^ unitExponent num den) ∨
      y ≤ 2 ^ (unitExponent num den + 52) ∧ (2 : ℚ) ^ (unitExponent num den + 52) ≤ num / den := by
  obtain ⟨m, e, hm, he, rfl⟩ := hy
  rcases le_or_gt (unitExponent num den) e with hle | hlt
  · exact .inl (exists_multiple m hle)
  · refine .inr ⟨?_, unit_le_div hn hd (by omega)⟩
    have hm' : (m : ℚ) ≤ 2 ^ 53 := by exact_mod_cast hm.le
    calc (m : ℚ) * 2 ^ e ≤ 2 ^ 53 * 2 ^ e := by gcongr
      _ = 2 ^ (53 + e) := by rw [zpow_add₀ two_ne_zero]; norm_num
      _ ≤ 2 ^ (unitExponent num den + 52) := zpow_le_zpow_right₀ one_le_two (by omega)

/-- The power of two that a quotient reaches is a multiple of its last place. -/
theorem two_zpow_multiple (u : ℤ) : ∃ j : ℤ, (2 : ℚ) ^ (u + 52) = j * 2 ^ u := by
  obtain ⟨j, hj⟩ := exists_multiple 1 (show u ≤ u + 52 by omega)
  exact ⟨j, by rw [← hj, Nat.cast_one, one_mul]⟩

/-- **No value of the format is nearer** to a quotient than the one it is rounded to. -/
theorem rounded_nearest (num : Nat) (hd : 0 < den) {y : ℚ} (hy : Representable y) :
    |rounded num den - num / den| ≤ |y - num / den| := by
  rcases Nat.eq_zero_or_pos num with rfl | hn
  · simp [rounded_zero hd]
  rcases multiple_or_le hn hd hy with ⟨j, rfl⟩ | ⟨hbelow, hpower⟩
  · exact rounded_nearest_multiple num hd j
  · -- the power of two is a multiple, and lies between `y` and the quotient
    obtain ⟨j, hj⟩ := two_zpow_multiple (unitExponent num den)
    have hnear := rounded_nearest_multiple num hd j
    rw [← hj, abs_of_nonpos (sub_nonpos.2 hpower)] at hnear
    rw [abs_of_nonpos (show y - num / den ≤ 0 by linarith)]
    linarith

/-- **A tie goes to the even mantissa**, where another value of the format is as near. -/
theorem even_roundedMantissa (hd : 0 < den) {y : ℚ} (hy : Representable y)
    (hne : y ≠ rounded num den) (h : |y - num / den| = |rounded num den - num / den|) :
    Even (roundedMantissa num den) := by
  rcases Nat.eq_zero_or_pos num with rfl | hn
  · refine absurd ?_ hne
    simpa [rounded_zero hd] using h
  -- a value as near that is not above the power of two is this power
  obtain ⟨j, rfl⟩ : ∃ j : ℤ, y = j * 2 ^ unitExponent num den := by
    rcases multiple_or_le hn hd hy with hmultiple | ⟨hbelow, hpower⟩
    · exact hmultiple
    · obtain ⟨j, hj⟩ := two_zpow_multiple (unitExponent num den)
      have hnear := rounded_nearest_multiple num hd j
      rw [← hj, ← h, abs_of_nonpos (sub_nonpos.2 hpower),
        abs_of_nonpos (show y - num / den ≤ 0 by linarith)] at hnear
      exact ⟨j, hj ▸ le_antisymm hbelow (by linarith)⟩
  have hpos : (0 : ℚ) < 2 ^ unitExponent num den := by positivity
  unfold rounded at h hne
  rw [abs_mul_zpow_sub, abs_mul_zpow_sub, mul_left_inj' hpos.ne', ← scaled_div] at h
  refine even_roundHalfEven (scaled_pos hd) (fun hj => hne ?_) h
  rw [hj, Int.cast_natCast]
  rfl

/-- **Rounding does not pass over a value of the format** that is above the quotient. -/
theorem rounded_le (hd : 0 < den) {y : ℚ} (hy : Representable y) (h : (num / den : ℚ) ≤ y) :
    rounded num den ≤ y := by
  have hnear := rounded_nearest num hd hy
  rw [abs_of_nonneg (sub_nonneg.2 h)] at hnear
  linarith [le_abs_self (rounded num den - num / den)]

/-- Nor over one that is below it. -/
theorem le_rounded (hd : 0 < den) {y : ℚ} (hy : Representable y) (h : y ≤ (num / den : ℚ)) :
    y ≤ rounded num den := by
  have hnear := rounded_nearest num hd hy
  rw [abs_of_nonpos (sub_nonpos.2 h)] at hnear
  linarith [neg_abs_le (rounded num den - num / den)]

theorem roundedMantissa_le (hn : 0 < num) (hd : 0 < den) : roundedMantissa num den ≤ 2 ^ 53 := by
  have hle : rounded num den ≤ 2 ^ (unitExponent num den + 53) := by
    refine rounded_le hd (representable_two_zpow ?_) (div_lt_unit hn hd).le
    have := unitExponent_ge num den
    omega
  have hpos : (0 : ℚ) < 2 ^ unitExponent num den := by positivity
  unfold rounded at hle
  rw [zpow_add₀ two_ne_zero, mul_comm ((2 : ℚ) ^ unitExponent num den)] at hle
  exact_mod_cast le_of_mul_le_mul_right hle hpos

theorem representable_rounded (num : Nat) (hd : 0 < den) : Representable (rounded num den) := by
  rcases Nat.eq_zero_or_pos num with rfl | hn
  · rw [rounded_zero hd]
    exact ⟨0, 0, by norm_num, by norm_num, by simp⟩
  · exact representable_of_le (roundedMantissa_le hn hd) (unitExponent_ge num den)

/-- A point that is as near to the higher of two points is not below their middle. -/
theorem middle_le {low high x : ℚ} (hlt : low < high) (h : |high - x| ≤ |low - x|) :
    low + high ≤ 2 * x := by
  rcases abs_cases (high - x) with ⟨h₁, _⟩ | ⟨h₁, _⟩ <;>
    rcases abs_cases (low - x) with ⟨h₂, _⟩ | ⟨h₂, _⟩ <;>
    linarith

/-- One that is as near to the lower of them is not above it. -/
theorem le_middle {low high x : ℚ} (hlt : low < high) (h : |low - x| ≤ |high - x|) :
    2 * x ≤ low + high := by
  rcases abs_cases (high - x) with ⟨h₁, _⟩ | ⟨h₁, _⟩ <;>
    rcases abs_cases (low - x) with ⟨h₂, _⟩ | ⟨h₂, _⟩ <;>
    linarith

/-- **Rounding keeps the order.**  The middle of two rounded values in the wrong order would
part their quotients, which are in the right one. -/
theorem rounded_mono {num' : Nat} (hd : 0 < den) (h : num ≤ num') :
    rounded num den ≤ rounded num' den := by
  rcases Nat.eq_or_lt_of_le h with rfl | hlt
  · exact le_rfl
  by_contra hwrong
  have hd' : (0 : ℚ) < den := by exact_mod_cast hd
  have hquotients : (num / den : ℚ) < num' / den := by gcongr
  have hlow := middle_le (not_le.1 hwrong) (rounded_nearest num hd (representable_rounded num' hd))
  have hhigh := le_middle (not_le.1 hwrong) (rounded_nearest num' hd (representable_rounded num hd))
  linarith

/-- **The error is less than a `2 ^ 53`-th** of a quotient that is not tiny.  A power of two
is rounded to itself, and every other quotient is above the one that it is measured by. -/
theorem abs_rounded_sub_lt (hd : 0 < den) (h : (2 : ℚ) ^ (-1022 : ℤ) ≤ num / den) :
    |rounded num den - num / den| < num / den / 2 ^ 53 := by
  have hquotient : (0 : ℚ) < num / den := lt_of_lt_of_le (by positivity) h
  have hn : 0 < num := by
    rcases Nat.eq_zero_or_pos num with rfl | hn
    · simp at hquotient
    · exact hn
  obtain ⟨hlow, hhigh⟩ := magnitude_spec hn hd
  have hmagnitude : -1022 < magnitude num den + 1 :=
    (zpow_lt_zpow_iff_right₀ one_lt_two).1 (h.trans_lt hhigh)
  have hunit : unitExponent num den = magnitude num den - 52 := by
    unfold unitExponent
    omega
  rcases eq_or_lt_of_le hlow with heq | hlt
  · have hnear := rounded_nearest num hd
      (representable_two_zpow (show -1074 ≤ magnitude num den by omega))
    rw [heq, sub_self, abs_zero] at hnear
    exact hnear.trans_lt (by positivity)
  · calc |rounded num den - num / den| ≤ 2 ^ unitExponent num den / 2 := abs_rounded_sub_le num hd
      _ = 2 ^ magnitude num den / 2 ^ 53 := by
          rw [hunit, zpow_sub₀ two_ne_zero]
          norm_num
          ring
      _ < num / den / 2 ^ 53 := by gcongr

/-! ### The number that has this value -/

/-- **What a quotient is rounded to** is a finite number with the rounded value, where the
first operand has less than a thousand binary digits.  A mantissa that was carried to the
next power of two is as even as it was. -/
theorem exists_ofRatio (negative : Bool) (hd : 0 < den) (h : num.log2 < 1000) :
    ∃ m e, ofRatio negative num den = .finite negative m e ∧ rounded num den = m * 2 ^ e ∧
      (Even (roundedMantissa num den) → Even m) := by
  have he := unitExponent_lt den h
  unfold ofRatio
  split
  · rename_i hzero
    exact ⟨0, -1074, rfl, by rw [hzero, rounded_zero hd]; simp, fun _ => Even.zero⟩
  · dsimp only
    split
    · rename_i hcarry
      rw [if_neg (by omega)]
      refine ⟨_, _, rfl, ?_, fun _ => show Even fullMantissa by decide⟩
      unfold rounded
      rw [hcarry, zpow_add_one₀ two_ne_zero]
      push_cast
      ring
    · rw [if_neg (by omega)]
      exact ⟨_, _, rfl, rfl, id⟩

end Binary64
end PowerSupply
