/-
# Integers in text

Two readings of an integer:

* `leading?` takes the integer a text starts with and ignores the rest: blanks, a
  sign, then the longest run of decimal digits;
* `whole?` wants the text to be one integer and nothing else: margins, a sign,
  digits with single underscores between them, margins.

Digits of different scripts may be mixed in both.  They read any number of digits, but
an integer is made of so many only (`digitLimit`), so each has a count of the digits that
it reads beside it: `leadingDigits` and `openingDigits`.  `decimal` writes an integer in
ASCII digits.
-/

import PowerSupply.Text.Blank
import PowerSupply.Text.DecimalDigit

namespace PowerSupply
namespace Text

/-- The longest run of decimal digits at the start, as values, and what follows. -/
def spanDigits : List Char → List Nat × List Char
  | [] => ([], [])
  | c :: r =>
    match digit? c with
    | some d => (d :: (spanDigits r).1, (spanDigits r).2)
    | none => ([], c :: r)

/-- The number that a list of digit values denotes, most significant first. -/
def ofDigits (ds : List Nat) : Nat := ds.foldl (fun v d => 10 * v + d) 0

/-- The sign at the start of a text, `true` for minus, and what follows it. -/
def takeSign : List Char → Bool × List Char
  | '-' :: r => (true, r)
  | '+' :: r => (false, r)
  | r => (false, r)

/-- The integer with the given sign and magnitude. -/
def signed (negative : Bool) (n : Nat) : Int := if negative then -(n : Int) else n

/-- The greatest number of digits that an integer is made of. -/
def digitLimit : Nat := 4300

/-- The integer that a text starts with, after any blanks; what comes after the
last digit does not matter. -/
def leading? (s : List Char) : Option Int :=
  let (negative, r) := takeSign (s.dropWhile isBlank)
  match (spanDigits r).1 with
  | [] => none
  | d :: ds => some (signed negative (ofDigits (d :: ds)))

/-- The number of digits of the integer that a text starts with. -/
def leadingDigits (s : List Char) : Nat :=
  (spanDigits (takeSign (s.dropWhile isBlank)).2).1.length

/-- Digits with single underscores between them, as values; at least one. -/
def groupedDigits? : List Char → Option (List Nat)
  | [] => none
  | [c] => (digit? c).map ([·])
  | c :: '_' :: r => do return (← digit? c) :: (← groupedDigits? r)
  | c :: r => do return (← digit? c) :: (← groupedDigits? r)

/-- The text without its leading and trailing margins. -/
def trimMargins (s : List Char) : List Char :=
  ((s.dropWhile isMargin).reverse.dropWhile isMargin).reverse

/-- The integer that a text consists of, margins apart. -/
def whole? (s : List Char) : Option Int :=
  let (negative, r) := takeSign (trimMargins s)
  (groupedDigits? r).map fun ds => signed negative (ofDigits ds)

/-- Whether a character may stand in a run of digits with underscores. -/
def isGrouped (c : Char) : Bool := c = '_' || (digit? c).isSome

/-- The number of digits in the run that a text starts with, after margins and a sign;
none where an underscore in it stands wrong.  They are counted before anything that
comes after the run is looked at. -/
def openingDigits (s : List Char) : Nat :=
  ((groupedDigits? ((takeSign (s.dropWhile isMargin)).2.takeWhile isGrouped)).getD []).length

/-- An integer in ASCII digits, with a minus sign if it is negative. -/
def decimal (n : Int) : List Char :=
  if n < 0 then '-' :: Nat.toDigits 10 n.natAbs else Nat.toDigits 10 n.natAbs

theorem spanDigits_lt {s : List Char} : ∀ d ∈ (spanDigits s).1, d < 10 := by
  induction s with
  | nil => simp [spanDigits]
  | cons c r ih =>
    unfold spanDigits
    split
    · rename_i d h
      intro x hx
      rcases List.mem_cons.1 hx with rfl | hx
      · exact digit?_lt h
      · exact ih x hx
    · simp

end Text
end PowerSupply
