/-
# Binary floating-point numbers of 64 bits

A finite number is `± mantissa · 2 ^ exponent` with the mantissa below `2 ^ 53` and
the exponent from `-1074` to `971`; there are two infinities and a not-a-number.
Numbers are exact data here, and the only rounding is that of a quotient of
naturals to the nearest number, ties to the even mantissa (`ofRatio`).  The quotient
of two numbers (`div`) is that rounding of the exact quotient.

`roundHalfEven` is that rounding on integers: it errs by at most half a unit
(`roundHalfEven_near`) and keeps an exact quotient (`roundHalfEven_mul`).
`unitExponent` is the exponent at which the quotient has 53 bits before the point,
or `-1074` where it has fewer.
-/

namespace PowerSupply

/-- `n / d` to the nearest integer, a tie to the even one. -/
def roundHalfEven (n d : Nat) : Nat :=
  if 2 * (n % d) < d then n / d
  else if d < 2 * (n % d) then n / d + 1
  else n / d + n / d % 2

theorem roundHalfEven_near (n : Nat) {d : Nat} (hd : 0 < d) :
    2 * (roundHalfEven n d * d) ≤ 2 * n + d ∧ 2 * n ≤ 2 * (roundHalfEven n d * d) + d := by
  have hq := Nat.div_add_mod n d
  have hr := Nat.mod_lt n hd
  have hc : d * (n / d) = n / d * d := Nat.mul_comm _ _
  unfold roundHalfEven
  split
  · omega
  · split
    · rw [Nat.add_mul]; omega
    · rcases Nat.mod_two_eq_zero_or_one (n / d) with h | h <;> rw [h]
      · simp; omega
      · rw [Nat.add_mul]; omega

theorem roundHalfEven_mul (n : Nat) {d : Nat} (hd : 0 < d) : roundHalfEven (n * d) d = n := by
  simp [roundHalfEven, Nat.mul_mod_left, hd, Nat.mul_div_cancel _ hd]

/-- A binary floating-point number of 64 bits. -/
inductive Binary64 where
  | nan
  | infinity (negative : Bool)
  | finite (negative : Bool) (mantissa : Nat) (exponent : Int)
  deriving DecidableEq, Repr

namespace Binary64

/-- The least mantissa that uses all 53 bits. -/
def fullMantissa : Nat := Nat.pow 2 52

/-- Zero with a sign. -/
def zero (negative : Bool) : Binary64 := .finite negative 0 (-1074)

/-- The fraction `num / (den · 2 ^ e)` as numerator and denominator. -/
def scaled (num den : Nat) (e : Int) : Nat × Nat :=
  if 0 ≤ e then (num, den * Nat.pow 2 e.toNat) else (num * Nat.pow 2 (-e).toNat, den)

theorem scaled_pos {num den : Nat} {e : Int} (hd : 0 < den) : 0 < (scaled num den e).2 := by
  unfold scaled
  split
  · exact Nat.mul_pos hd (Nat.two_pow_pos _)
  · exact hd

/-- The binary order of magnitude of `num / den`: the greatest `k` with
`2 ^ k ≤ num / den`, for positive `num` and `den`. -/
def magnitude (num den : Nat) : Int :=
  let k : Int := num.log2 - den.log2
  let f := scaled num den k
  if f.2 ≤ f.1 then k else k - 1

/-- The exponent of the last place to which `num / den` is rounded. -/
def unitExponent (num den : Nat) : Int := max (magnitude num den - 52) (-1074)

theorem unitExponent_ge (num den : Nat) : -1074 ≤ unitExponent num den := by
  unfold unitExponent; omega

/-- `num / den` in units of the last place, rounded to the nearest. -/
def roundedMantissa (num den : Nat) : Nat :=
  let f := scaled num den (unitExponent num den)
  roundHalfEven f.1 f.2

/-- The number nearest to `num / den`, a tie going to the even mantissa, and an
infinity from half a unit above the greatest finite number on. -/
def ofRatio (negative : Bool) (num den : Nat) : Binary64 :=
  if num = 0 then zero negative
  else
    let m := roundedMantissa num den
    let e := unitExponent num den
    let (m, e) := if m = 2 * fullMantissa then (fullMantissa, e + 1) else (m, e)
    if 971 < e then .infinity negative else .finite negative m e

/-- The nearest number to the quotient of two integers, the second not zero. -/
def ofQuotient (a b : Int) : Binary64 :=
  ofRatio (decide (a < 0) != decide (b < 0)) a.natAbs b.natAbs

/-- A magnitude truncated to an integer. -/
def truncated (m : Nat) (e : Int) : Nat :=
  if 0 ≤ e then m * Nat.pow 2 e.toNat else m / Nat.pow 2 (-e).toNat

/-- A finite number truncated toward zero; there is no such integer for the
infinities and the not-a-number. -/
def trunc? : Binary64 → Option Int
  | .finite negative m e => some (if negative then -(truncated m e : Int) else truncated m e)
  | _ => none

/-- The numerator and denominator of `m · 2 ^ e`. -/
def fraction (m : Nat) (e : Int) : Nat × Nat :=
  if 0 ≤ e then (m * Nat.pow 2 e.toNat, 1) else (m, Nat.pow 2 (-e).toNat)

/-- The number nearest to an integer. -/
def ofInt (n : Int) : Binary64 := ofQuotient n 1

/-- The number nearest to the quotient of two numbers.  Something divided by zero is
infinite; zero by zero and infinity by infinity give no number. -/
def div : Binary64 → Binary64 → Binary64
  | .finite s m e, .finite s' m' e' =>
    let f := fraction m e
    let f' := fraction m' e'
    if m' = 0 then (if m = 0 then .nan else .infinity (s != s'))
    else ofRatio (s != s') (f.1 * f'.2) (f.2 * f'.1)
  | .finite s _ _, .infinity s' => zero (s != s')
  | .infinity s, .finite s' _ _ => .infinity (s != s')
  | _, _ => .nan

/-- Whether the number is exactly an integer `n`. -/
def isInt (x : Binary64) (n : Int) : Bool :=
  match x with
  | .finite negative m e =>
    let f := fraction m e
    f.1 == n.natAbs * f.2 && (n == 0 || decide (n < 0) == negative)
  | _ => false

/-- Whether the number is a zero of either sign. -/
def isZero : Binary64 → Bool
  | .finite _ m _ => m == 0
  | _ => false

/-- The number nearest to `digits · 10 ^ e`.  Exponents far outside the range are
settled by the number of digits alone. -/
def ofDecimal (negative : Bool) (digits : Nat) (e : Int) : Binary64 :=
  if digits = 0 then zero negative
  else
    let size : Int := (Nat.toDigits 10 digits).length
    if 400 < size + e then .infinity negative
    else if size + e < -400 then zero negative
    else if 0 ≤ e then ofRatio negative (digits * Nat.pow 10 e.toNat) 1
    else ofRatio negative digits (Nat.pow 10 (-e).toNat)

end Binary64
end PowerSupply
