/-
# Blank characters

The characters that count as white space in a text: the ASCII controls from tab to
carriage return and from file separator to unit separator, the space, and the
spaces and line separators beyond ASCII.

Two readers of integers skip blanks.  One skips all of them; the other keeps the
four ASCII separators, so its class `isMargin` is the smaller one
(`isBlank_of_isMargin`).
-/

namespace PowerSupply
namespace Text

/-- Whether a code point lies in one of the closed ranges. -/
def inRanges (ranges : List (Nat × Nat)) (c : Char) : Bool :=
  ranges.any fun r => r.1 ≤ c.toNat && c.toNat ≤ r.2

/-- The ASCII blanks that end a word: tab, line feed, vertical tab, form feed,
carriage return and space. -/
def asciiMargins : List (Nat × Nat) := [(0x09, 0x0D), (0x20, 0x20)]

/-- The four ASCII information separators. -/
def asciiSeparators : List (Nat × Nat) := [(0x1C, 0x1F)]

/-- The spaces and line separators beyond ASCII. -/
def wideBlanks : List (Nat × Nat) :=
  [(0x85, 0x85), (0xA0, 0xA0), (0x1680, 0x1680), (0x2000, 0x200A), (0x2028, 0x2029),
   (0x202F, 0x202F), (0x205F, 0x205F), (0x3000, 0x3000)]

/-- White space in general. -/
def isBlank (c : Char) : Bool :=
  inRanges asciiMargins c || inRanges asciiSeparators c || inRanges wideBlanks c

/-- White space that may surround a whole number; the ASCII separators may not. -/
def isMargin (c : Char) : Bool :=
  inRanges asciiMargins c || inRanges wideBlanks c

theorem isBlank_of_isMargin {c : Char} (h : isMargin c = true) : isBlank c = true := by
  unfold isMargin at h; unfold isBlank
  cases h₁ : inRanges asciiMargins c <;> cases h₂ : inRanges wideBlanks c <;> simp_all

end Text
end PowerSupply
