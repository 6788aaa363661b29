/-
# The shortest decimal that reads back

A finite number is the nearest one to a whole interval of reals.  `shortest` looks
for the decimal with the fewest digits in that interval, and of two such decimals
takes the one closer to the number, or the even one if they are equally close.  All
comparisons are exact, by cross-multiplication of naturals.

How the digits are laid out is a separate decision: `positional` says for which
exponents the number is written without an exponent, and `toText` puts the parts
together.
-/

import PowerSupply.Number.Binary64
import PowerSupply.Text.Integer

namespace PowerSupply
namespace Binary64

/-- The fraction `n · 10 ^ p` as numerator and denominator. -/
def tenfold (n : Nat) (p : Int) : Nat × Nat :=
  if 0 ≤ p then (n * Nat.pow 10 p.toNat, 1) else (n, Nat.pow 10 (-p).toNat)

/-- Whether one fraction is below another. -/
def fractionLt (x y : Nat × Nat) : Bool := x.1 * y.2 < y.1 * x.2

/-- Whether `n · 10 ^ p` rounds to `m · 2 ^ e`: it lies between the midpoints to the
neighbours, which belong to the interval iff the mantissa is even.  Below a power of
two the neighbour is at half the distance. -/
def readsBack (m : Nat) (e : Int) (n : Nat) (p : Int) : Bool :=
  let low := fraction (4 * m - if m = fullMantissa ∧ -1074 < e then 1 else 2) (e - 2)
  let high := fraction (4 * m + 2) (e - 2)
  let x := tenfold n p
  if m % 2 = 0 then !fractionLt x low && !fractionLt high x
  else fractionLt low x && fractionLt x high

/-- The number of digits before the point: the least `k` with `m · 2 ^ e < 10 ^ k`.
The binary order of magnitude gives it up to two. -/
def digitsBeforePoint (m : Nat) (e : Int) : Int :=
  let f := fraction m e
  let estimate := Int.fdiv (((m.log2 : Int) + e) * 30103) 100000
  if fractionLt f (tenfold 1 estimate) then estimate
  else if fractionLt f (tenfold 1 (estimate + 1)) then estimate + 1
  else estimate + 2

/-- The multiple of `10 ^ p` nearest to `m · 2 ^ e`, one half way between two going to
the even one. -/
def nearest (m : Nat) (e p : Int) : Nat :=
  let f := fraction m e
  let g := tenfold 1 p
  roundHalfEven (f.1 * g.2) (f.2 * g.1)

/-- The multiple of `10 ^ p` that stands for `m · 2 ^ e`: of the two multiples around
the number the one that reads back, and the nearest if both do. -/
def neighbour? (m : Nat) (e p : Int) : Option Nat :=
  let f := fraction m e
  let g := tenfold 1 p
  let below := f.1 * g.2 / (f.2 * g.1)
  match readsBack m e below p, readsBack m e (below + 1) p with
  | true, true => some (nearest m e p)
  | true, false => some below
  | false, true => some (below + 1)
  | false, false => none

/-- The fewest digits that read back, as an integer and a power of ten; seventeen
are always enough. -/
def shortest (m : Nat) (e : Int) : Nat × Int :=
  let k := digitsBeforePoint m e
  let found := (List.range 17).findSome? fun i =>
    let p := k - (i + 1 : Nat)
    (neighbour? m e p).map (·, p)
  found.getD (0, 0)

/-- Whether a number of order of magnitude `10 ^ x` is written without an
exponent. -/
def positional (x : Int) : Bool := -4 ≤ x && x < 16

/-- Digits with the point after the first `k` of them, and at least one digit on
either side of it. -/
def withPoint (ds : List Char) (k : Int) : List Char :=
  if k ≤ 0 then '0' :: '.' :: List.replicate (-k).toNat '0' ++ ds
  else
    let whole := ds.take k.toNat
    let rest := ds.drop k.toNat
    whole ++ List.replicate (k.toNat - whole.length) '0' ++
      '.' :: (if rest.isEmpty then ['0'] else rest)

/-- Digits with the point after the first, if there are more, and an exponent of a
sign and at least two digits. -/
def withExponent (ds : List Char) (x : Int) : List Char :=
  let power := Nat.toDigits 10 x.natAbs
  let fraction := match ds.drop 1 with
    | [] => []
    | rest => '.' :: rest
  ds.take 1 ++ fraction ++ 'e' :: (if x < 0 then '-' else '+') ::
    List.replicate (2 - power.length) '0' ++ power

/-- The text of a number: the fewest digits that read back. -/
def toText : Binary64 → String
  | .nan => "nan"
  | .infinity negative => if negative then "-inf" else "inf"
  | .finite negative m e =>
    let sign := if negative then ['-'] else []
    if m = 0 then String.ofList (sign ++ ['0', '.', '0'])
    else
      let (n, p) := shortest m e
      let all := Nat.toDigits 10 n
      let ds := (all.reverse.dropWhile (· = '0')).reverse
      let x := (all.length : Int) + p - 1
      String.ofList (sign ++ if positional x then withPoint ds (x + 1) else withExponent ds x)

end Binary64
end PowerSupply
