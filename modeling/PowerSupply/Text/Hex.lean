/-
# Hexadecimal digits

Numbers in lower-case hexadecimal with a fixed least width, and the value of a
hexadecimal digit of either case.
-/

namespace PowerSupply
namespace Text

/-- `n` in lower-case hexadecimal, filled with zeros up to `width` digits. -/
def hex (width n : Nat) : List Char :=
  let ds := Nat.toDigits 16 n
  List.replicate (width - ds.length) '0' ++ ds

/-- The value of a hexadecimal digit, `none` for other characters. -/
def hexDigit? (c : Char) : Option Nat :=
  if '0' ≤ c ∧ c ≤ '9' then some (c.toNat - '0'.toNat)
  else if 'a' ≤ c ∧ c ≤ 'f' then some (c.toNat - 'a'.toNat + 10)
  else if 'A' ≤ c ∧ c ≤ 'F' then some (c.toNat - 'A'.toNat + 10)
  else none

end Text
end PowerSupply
