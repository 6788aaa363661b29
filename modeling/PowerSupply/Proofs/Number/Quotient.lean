/-
# Quotients stay finite

The quotient of two integers is no larger than the first, so its binary order of
magnitude is at most that of the first (`magnitude_le`).  A number of less than a
thousand binary digits therefore has a finite quotient by any integer but zero
(`exists_trunc?_ofQuotient`).
-/

import PowerSupply.Number.Binary64

namespace PowerSupply
namespace Binary64

theorem magnitude_le (num den : Nat) : magnitude num den ≤ num.log2 := by
  unfold magnitude
  dsimp only
  split <;> omega

theorem unitExponent_lt {num : Nat} (den : Nat) (h : num.log2 < 1000) :
    unitExponent num den < 948 := by
  have := magnitude_le num den
  unfold unitExponent
  omega

/-- A fraction whose numerator has less than a thousand binary digits is rounded to a
finite number. -/
theorem exists_trunc?_ofRatio (negative : Bool) {num den : Nat} (h : num.log2 < 1000) :
    ∃ n, (ofRatio negative num den).trunc? = some n := by
  have he := unitExponent_lt den h
  unfold ofRatio
  split
  · exact ⟨_, rfl⟩
  · dsimp only
    split
    · rw [if_neg (by omega)]
      exact ⟨_, rfl⟩
    · rw [if_neg (by omega)]
      exact ⟨_, rfl⟩

/-- **A quotient stays finite**, whatever the divisor. -/
theorem exists_trunc?_ofQuotient {a : Int} (b : Int) (h : a.natAbs.log2 < 1000) :
    ∃ n, (ofQuotient a b).trunc? = some n :=
  exists_trunc?_ofRatio _ h

end Binary64
end PowerSupply
