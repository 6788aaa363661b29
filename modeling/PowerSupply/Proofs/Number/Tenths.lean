/-
# Tenths in decimal

A number of tenths is shown by dividing it by ten, which rounds it to a number of the
format, and rounding that once more, to one decimal place.  The second rounding takes a
value back to the tenths that it came from as long as the first one errs by less than half
a tenth (`roundHalfEven_eq_of_abs_sub_lt`).

The error of the first rounding is at most half a unit in the last place, and below
`2 ^ 49` the last place is worth no more than a sixteenth (`abs_rounded_sub_le_of_lt`).  So
up to `2 ^ 52` tenths nothing is lost: what is shown is the decimal of the exact quotient
(`fixed_ofRatio_ten`).
-/

import PowerSupply.Number.Fixed
import PowerSupply.Proofs.Number.Nearest

namespace PowerSupply

/-- **An integer that is less than half a unit away** is the rounded one. -/
theorem roundHalfEven_eq_of_abs_sub_lt {n d k : Nat} (hd : 0 < d)
    (h : |(k : ℚ) - n / d| < 1 / 2) : roundHalfEven n d = k := by
  by_contra hne
  have hne' : (k : ℤ) ≠ roundHalfEven n d := fun he => hne (Int.ofNat.inj he).symm
  have hapart := one_le_abs_sub_add_abs_sub hne' (n / d)
  have hhalf := abs_roundHalfEven_sub_le n hd
  rw [Int.cast_natCast] at hapart
  linarith

namespace Binary64

variable {num den : Nat}

/-- The numerator and denominator of a value have this value. -/
theorem fraction_div (m : Nat) (e : ℤ) :
    ((fraction m e).1 : ℚ) / (fraction m e).2 = m * 2 ^ e := by
  unfold fraction
  split
  · rename_i he
    obtain ⟨n, rfl⟩ := Int.eq_ofNat_of_zero_le he
    simp
  · rename_i he
    obtain ⟨n, hn⟩ := Int.eq_ofNat_of_zero_le (show 0 ≤ -e by omega)
    rw [show e = -(n : ℤ) by omega]
    simp [div_eq_mul_inv]

theorem fraction_pos (m : Nat) (e : ℤ) : 0 < (fraction m e).2 := by
  unfold fraction
  split
  · exact Nat.one_pos
  · exact Nat.two_pow_pos _

/-- **Below a power of two** the error is at most half a unit of the last place that there is
below it. -/
theorem abs_rounded_sub_le_of_lt (hd : 0 < den) {e : ℤ} (he : -1074 ≤ e)
    (h : (num / den : ℚ) < 2 ^ (e + 53)) : |rounded num den - num / den| ≤ 2 ^ e / 2 := by
  rcases Nat.eq_zero_or_pos num with rfl | hn
  · rw [rounded_zero hd, Nat.cast_zero, zero_div, sub_zero, abs_zero]
    positivity
  · have hmagnitude : magnitude num den < e + 53 :=
      (zpow_lt_zpow_iff_right₀ one_lt_two).1 ((magnitude_spec hn hd).1.trans_lt h)
    have hunit : unitExponent num den ≤ e := by
      unfold unitExponent
      omega
    calc |rounded num den - num / den| ≤ 2 ^ unitExponent num den / 2 := abs_rounded_sub_le num hd
      _ ≤ 2 ^ e / 2 := by
          gcongr
          exact one_le_two

/-- **Half a tenth is not reached** by the error of dividing up to `2 ^ 52` by ten. -/
theorem abs_rounded_ten_sub_lt (h : num ≤ 2 ^ 52) :
    |rounded num 10 - num / 10| < 1 / 20 := by
  have hsize : (num : ℚ) / (10 : Nat) < 2 ^ ((-4 : ℤ) + 53) := by
    have : (num : ℚ) ≤ 2 ^ 52 := by exact_mod_cast h
    norm_num
    linarith
  have herror := abs_rounded_sub_le_of_lt (by norm_num) (by norm_num) hsize
  norm_num at herror ⊢
  linarith

/-- Up to `2 ^ 52` there are far fewer than a thousand binary digits. -/
theorem log2_lt_of_le (h : num ≤ 2 ^ 52) : num.log2 < 1000 := by
  rcases Nat.eq_zero_or_pos num with rfl | hn
  · rw [Nat.log2_zero]
    omega
  · have : num.log2 < 53 := (Nat.log2_lt hn.ne').2 (h.trans_lt (by norm_num))
    omega

/-- One decimal place of a number of tenths. -/
theorem fixedDigits_one (n : Nat) :
    fixedDigits 1 n = Nat.toDigits 10 (n / 10) ++ ['.', (n % 10).digitChar] := by
  have htail : Nat.toDigits 10 (n % 10) = [(n % 10).digitChar] :=
    Nat.toDigits_of_lt_base (Nat.mod_lt n (by omega))
  unfold fixedDigits
  dsimp only
  rw [show Nat.pow 10 1 = 10 from rfl, htail]
  rfl

/-- **Tenths are shown as they are:** a quotient by ten, rounded to a number of the format and
then to one decimal place, has the digits of the exact quotient. -/
theorem fixed_ofRatio_ten (negative : Bool) (h : num ≤ 2 ^ 52) :
    (ofRatio negative num 10).fixed 1 =
      (if negative then ['-'] else []) ++ Nat.toDigits 10 (num / 10) ++
        ['.', (num % 10).digitChar] := by
  obtain ⟨m, e, heq, hvalue, -⟩ := exists_ofRatio negative (show 0 < 10 by omega) (log2_lt_of_le h)
  have herror := abs_rounded_ten_sub_lt h
  have hrounded : roundHalfEven ((fraction m e).1 * Nat.pow 10 1) (fraction m e).2 = num := by
    refine roundHalfEven_eq_of_abs_sub_lt (fraction_pos m e) ?_
    have hten : (((fraction m e).1 * Nat.pow 10 1 : ℕ) : ℚ) / (fraction m e).2 =
        rounded num 10 * 10 := by
      rw [hvalue, ← fraction_div]
      push_cast
      ring
    rw [hten, abs_sub_comm]
    have hscale : rounded num 10 * 10 - num = (rounded num 10 - num / 10) * 10 := by ring
    rw [hscale, abs_mul]
    norm_num at herror ⊢
    linarith
  rw [heq]
  unfold fixed
  dsimp only
  rw [hrounded, fixedDigits_one]
  cases negative <;> rfl

end Binary64
end PowerSupply
