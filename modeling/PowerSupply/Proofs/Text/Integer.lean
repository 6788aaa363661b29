/-
# How large an integer in a text can be

An integer that a text starts with has no more digits than the text has characters
(`leadingDigits_le_length`), so it is smaller than ten to that power
(`natAbs_lt_of_leading?`).
-/

import PowerSupply.Text.Integer

namespace PowerSupply
namespace Text

/-- Digits after a number that is already there move it to the left. -/
theorem foldl_digits_lt {ds : List Nat} (h : ∀ d ∈ ds, d < 10) (v : Nat) :
    ds.foldl (fun v d => 10 * v + d) v < (v + 1) * Nat.pow 10 ds.length := by
  induction ds generalizing v with
  | nil => exact Nat.lt_of_lt_of_eq (Nat.lt_succ_self v) (Nat.mul_one _).symm
  | cons d ds ih =>
    have hd : d < 10 := h d (List.mem_cons_self ..)
    have hds := ih (fun x hx => h x (List.mem_cons_of_mem _ hx)) (10 * v + d)
    rw [List.foldl_cons, List.length_cons]
    calc ds.foldl (fun v d => 10 * v + d) (10 * v + d)
        < (10 * v + d + 1) * Nat.pow 10 ds.length := hds
      _ ≤ ((v + 1) * 10) * Nat.pow 10 ds.length := Nat.mul_le_mul_right _ (by omega)
      _ = (v + 1) * (Nat.pow 10 ds.length * 10) := by rw [Nat.mul_assoc, Nat.mul_comm 10]

/-- **Digits denote a number below ten to their count.** -/
theorem ofDigits_lt {ds : List Nat} (h : ∀ d ∈ ds, d < 10) :
    ofDigits ds < Nat.pow 10 ds.length := by
  have := foldl_digits_lt h 0
  rwa [Nat.zero_add, Nat.one_mul] at this

theorem length_spanDigits_le (s : List Char) : (spanDigits s).1.length ≤ s.length := by
  induction s with
  | nil => exact Nat.le_refl 0
  | cons c r ih =>
    unfold spanDigits
    split
    · exact Nat.succ_le_succ ih
    · exact Nat.zero_le _

theorem length_takeSign_le (s : List Char) : (takeSign s).2.length ≤ s.length := by
  unfold takeSign
  split
  · exact Nat.le_succ _
  · exact Nat.le_succ _
  · exact Nat.le_refl _

theorem natAbs_signed (negative : Bool) (n : Nat) : (signed negative n).natAbs = n := by
  unfold signed
  cases negative <;> simp

/-- **An integer has no more digits** than the text that starts with it has characters. -/
theorem leadingDigits_le_length (s : List Char) : leadingDigits s ≤ s.length :=
  calc leadingDigits s ≤ (takeSign (s.dropWhile isBlank)).2.length := length_spanDigits_le _
    _ ≤ (s.dropWhile isBlank).length := length_takeSign_le _
    _ ≤ s.length := (List.dropWhile_sublist _).length_le

/-- **The integer that a text starts with** is below ten to the length of the text. -/
theorem natAbs_lt_of_leading? {s : List Char} {n : Int} (h : leading? s = some n) :
    n.natAbs < Nat.pow 10 s.length := by
  have hds : ofDigits (spanDigits (takeSign (s.dropWhile isBlank)).2).1 < Nat.pow 10 s.length :=
    Nat.lt_of_lt_of_le (ofDigits_lt spanDigits_lt)
      (Nat.pow_le_pow_right (by omega) (leadingDigits_le_length s))
  unfold leading? at h
  dsimp only at h
  split at h
  · cases h
  · rename_i d ds hd
    rw [hd] at hds
    obtain rfl := Option.some.inj h
    rwa [natAbs_signed]

end Text
end PowerSupply
