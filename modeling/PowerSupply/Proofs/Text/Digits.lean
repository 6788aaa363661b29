/-
# Written digits

What is written in digits can be read off again.  A number of up to four hexadecimal
digits is written with exactly four of them (`hex_four`), each of which has its value
(`hexDigit?_digitChar`).  A decimal numeral consists of digits, starts with a zero only
if it is that zero (`toDigits_eq_or_head_ne`), and belongs to one number
(`toDigits_injective`); every character of an integer is a digit or the sign
(`mem_decimal`).
-/

import PowerSupply.Text.Hex
import PowerSupply.Text.Integer

namespace PowerSupply
namespace Text

/-- The digit of a value is read as that value. -/
theorem hexDigit?_digitChar {d : Nat} (h : d < 16) : hexDigit? d.digitChar = some d := by
  have all : ∀ d : Fin 16, hexDigit? d.val.digitChar = some d.val := by decide
  exact all ⟨d, h⟩

/-- One more digit of width is one more digit at the end. -/
theorem hex_succ {width : Nat} (h : 0 < width) (n : Nat) :
    hex (width + 1) n = hex width (n / 16) ++ [(n % 16).digitChar] := by
  unfold hex
  by_cases hn : n < 16
  · obtain ⟨w, rfl⟩ : ∃ w, width = w + 1 := ⟨width - 1, by omega⟩
    rw [Nat.toDigits_of_lt_base hn, Nat.div_eq_of_lt hn, Nat.mod_eq_of_lt hn, Nat.toDigits_zero]
    simp [List.replicate_succ']
  · rw [Nat.toDigits_of_base_le (by omega) (by omega)]
    simp

theorem hex_one {n : Nat} (h : n < 16) : hex 1 n = [n.digitChar] := by
  unfold hex
  rw [Nat.toDigits_of_lt_base h]
  rfl

/-- **A number of 16 bits takes four digits.** -/
theorem hex_four {n : Nat} (h : n < 0x10000) :
    hex 4 n = [(n / 4096).digitChar, (n / 256 % 16).digitChar, (n / 16 % 16).digitChar,
      (n % 16).digitChar] := by
  rw [hex_succ (by omega), hex_succ (by omega), hex_succ (by omega), hex_one (by omega)]
  simp [Nat.div_div_eq_div_mul]

/-- **A numeral has no leading zero**, unless it is the zero itself. -/
theorem toDigits_eq_or_head_ne (n : Nat) :
    Nat.toDigits 10 n = ['0'] ∨ ∃ c r, Nat.toDigits 10 n = c :: r ∧ c ≠ '0' := by
  induction n using Nat.strongRecOn with
  | ind n ih =>
    by_cases h : n < 10
    · rw [Nat.toDigits_of_lt_base h]
      by_cases h0 : n = 0
      · exact .inl (by rw [h0]; rfl)
      · exact .inr ⟨_, _, rfl, by simpa using h0⟩
    · rw [Nat.toDigits_of_base_le (by omega) (by omega)]
      rcases ih (n / 10) (by omega) with hz | ⟨c, r, hc, hne⟩
      · -- a quotient that is written as a zero is zero, and then the number is below ten
        have hv := Nat.ofDigitChars_ten_toDigits (n := n / 10)
        rw [hz] at hv
        have : n / 10 = 0 := hv.symm
        omega
      · exact .inr ⟨c, r ++ [(n % 10).digitChar], by rw [hc]; rfl, hne⟩

/-- **A numeral belongs to one number.** -/
theorem toDigits_injective {m n : Nat} (h : Nat.toDigits 10 m = Nat.toDigits 10 n) : m = n :=
  calc m = Nat.ofDigitChars 10 (Nat.toDigits 10 m) 0 := Nat.ofDigitChars_ten_toDigits.symm
    _ = Nat.ofDigitChars 10 (Nat.toDigits 10 n) 0 := by rw [h]
    _ = n := Nat.ofDigitChars_ten_toDigits

/-- A digit belongs to one value. -/
theorem digitChar_injective {c d : Nat} (hc : c < 16) (hd : d < 16)
    (h : c.digitChar = d.digitChar) : c = d :=
  Option.some.inj ((hexDigit?_digitChar hc).symm.trans (h ▸ hexDigit?_digitChar hd))

/-- A numeral consists of digits. -/
theorem isDigit_of_mem_toDigits {n : Nat} {c : Char} (h : c ∈ Nat.toDigits 10 n) :
    c.isDigit = true :=
  Nat.isDigit_of_mem_toDigits (by omega) (by omega) h

/-- A numeral starts with a digit. -/
theorem toDigits_eq_cons (n : Nat) :
    ∃ d r, Nat.toDigits 10 n = d :: r ∧ d.isDigit = true := by
  obtain ⟨d, r, hd⟩ := List.exists_cons_of_ne_nil (Nat.toDigits_ne_nil (n := n) (b := 10))
  exact ⟨d, r, hd, isDigit_of_mem_toDigits (hd ▸ List.mem_cons_self ..)⟩

/-- **How an integer starts:** with a digit, or with a minus sign and a digit after it. -/
theorem decimal_eq_cons (n : Int) :
    ∃ c s, decimal n = c :: s ∧
      (c.isDigit = true ∨ c = '-' ∧ ∃ d r, s = d :: r ∧ d.isDigit = true) := by
  obtain ⟨d, r, hd, hdigit⟩ := toDigits_eq_cons n.natAbs
  unfold decimal
  split
  · exact ⟨_, _, rfl, .inr ⟨rfl, d, r, hd, hdigit⟩⟩
  · exact ⟨d, r, hd, .inl hdigit⟩

/-- An integer is written in digits and a minus sign. -/
theorem mem_decimal {n : Int} {c : Char} (h : c ∈ decimal n) : c = '-' ∨ c.isDigit = true := by
  unfold decimal at h
  split at h
  · rcases List.mem_cons.1 h with rfl | h
    · exact .inl rfl
    · exact .inr (isDigit_of_mem_toDigits h)
  · exact .inr (isDigit_of_mem_toDigits h)

end Text
end PowerSupply
