/-
# Percentages

A percentage is an integer from 0 to 100, and the one of an amount in a full amount is
the floor of a hundred times their quotient.  This floor is a percentage exactly where
the amount is within the full one (`percentage_fdiv_iff`).  Of an amount from nothing to
a positive full one it is 100 for the full amount alone (`fdiv_eq_hundred_iff`), and it
grows with the amount (`fdiv_le_fdiv`).
-/

namespace PowerSupply

/-- Whether an integer is a percentage. -/
def Percentage (n : Int) : Prop := 0 ≤ n ∧ n ≤ 100

instance (n : Int) : Decidable (Percentage n) := inferInstanceAs (Decidable (_ ∧ _))

/-- Whether a present amount lies between nothing and a full one, or exceeds it by less
than a hundredth.  Two negative amounts are compared by their sizes. -/
def Within (now full : Int) : Prop :=
  (0 < full ∧ 0 ≤ now ∧ 100 * now < 101 * full) ∨ (full < 0 ∧ now ≤ 0 ∧ 101 * full < 100 * now)

instance (now full : Int) : Decidable (Within now full) := inferInstanceAs (Decidable (_ ∨ _))

theorem percentage_fdiv_of_pos {now full : Int} (hf : 0 < full) :
    Percentage (Int.fdiv (100 * now) full) ↔ 0 ≤ now ∧ 100 * now < 101 * full := by
  have hlow : 0 ≤ 100 * now / full ↔ 0 * full ≤ 100 * now := Int.le_ediv_iff_mul_le hf
  have hhigh : 100 * now / full < 101 ↔ 100 * now < 101 * full := Int.ediv_lt_iff_lt_mul hf
  unfold Percentage
  rw [Int.fdiv_eq_ediv_of_nonneg _ (Int.le_of_lt hf)]
  omega

/-- **The quotient of a present amount by a full one** is a percentage where the present
one is within the full one. -/
theorem percentage_fdiv_iff {now full : Int} (hz : full ≠ 0) :
    Percentage (Int.fdiv (100 * now) full) ↔ Within now full := by
  unfold Within
  rcases Int.lt_or_gt_of_ne hz with hneg | hpos
  · have hflip : Int.fdiv (100 * now) full = Int.fdiv (100 * -now) (-full) := by
      rw [← Int.neg_fdiv_neg, Int.mul_neg]
    rw [hflip, percentage_fdiv_of_pos (show 0 < -full by omega)]
    omega
  · rw [percentage_fdiv_of_pos hpos]
    omega

/-- **The whole of it** is there exactly where the quotient is 100. -/
theorem fdiv_eq_hundred_iff {now full : Int} (hf : 0 < full) (hn : now ≤ full) :
    Int.fdiv (100 * now) full = 100 ↔ now = full := by
  have hhigh : 100 ≤ 100 * now / full ↔ 100 * full ≤ 100 * now := Int.le_ediv_iff_mul_le hf
  rw [Int.fdiv_eq_ediv_of_nonneg _ (Int.le_of_lt hf)]
  constructor
  · intro h
    have := hhigh.1 (Int.le_of_eq h.symm)
    omega
  · rintro rfl
    exact Int.mul_ediv_cancel 100 (Int.ne_of_gt hf)

/-- **The quotient grows with the present amount.** -/
theorem fdiv_le_fdiv {now now' full : Int} (hf : 0 < full) (h : now ≤ now') :
    Int.fdiv (100 * now) full ≤ Int.fdiv (100 * now') full := by
  have hnonneg := Int.le_of_lt hf
  rw [Int.fdiv_eq_ediv_of_nonneg _ hnonneg, Int.fdiv_eq_ediv_of_nonneg _ hnonneg]
  exact Int.ediv_le_ediv hf (by omega)

end PowerSupply
