/-
# Decimals with a fixed number of places

A finite number is rounded from its exact value to the given number of decimal
places, a tie going to the even last digit, and written with all its digits.
-/

import PowerSupply.Number.Binary64
import PowerSupply.Text.Integer

namespace PowerSupply
namespace Binary64

/-- A natural number of units of `10 ^ -places`, with the point in its place. -/
def fixedDigits (places n : Nat) : List Char :=
  let tail := Nat.toDigits 10 (n % Nat.pow 10 places)
  Nat.toDigits 10 (n / Nat.pow 10 places) ++
    '.' :: (List.replicate (places - tail.length) '0' ++ tail)

/-- The text of a number with the given number of decimal places, at least one. -/
def fixed (places : Nat) : Binary64 → List Char
  | .nan => ['n', 'a', 'n']
  | .infinity negative => if negative then ['-', 'i', 'n', 'f'] else ['i', 'n', 'f']
  | .finite negative m e =>
    let f := fraction m e
    let ds := fixedDigits places (roundHalfEven (f.1 * Nat.pow 10 places) f.2)
    if negative then '-' :: ds else ds

end Binary64
end PowerSupply
