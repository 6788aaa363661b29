/-
# Quoted text

A text between quotes, as diagnostics show it: the quote is `'`, or `"` if the text
has a `'` and no `"`; the quote and the backslash are escaped, line feed, carriage
return and tab have letters of their own, and every other character that cannot be
seen is written by its code point, with the shortest of the escapes `\x`, `\u` and
`\U` that can hold it.
-/

import PowerSupply.Text.Hex
import PowerSupply.Text.Unseen

namespace PowerSupply
namespace Text

/-- The escape of a character by its code point. -/
def escapeCode (c : Char) : List Char :=
  if c.toNat ≤ 0xFF then '\\' :: 'x' :: hex 2 c.toNat
  else if c.toNat ≤ 0xFFFF then '\\' :: 'u' :: hex 4 c.toNat
  else '\\' :: 'U' :: hex 8 c.toNat

/-- One character of a text between `quote`s. -/
def quoteChar (quote c : Char) : List Char :=
  if c = quote ∨ c = '\\' then ['\\', c]
  else if c = '\n' then ['\\', 'n']
  else if c = '\r' then ['\\', 'r']
  else if c = '\t' then ['\\', 't']
  else if isUnseen c then escapeCode c
  else [c]

/-- The quote that a text is shown between. -/
def quoteFor (s : List Char) : Char :=
  if '\'' ∈ s ∧ '"' ∉ s then '"' else '\''

/-- A text between quotes. -/
def quoted (s : String) : String :=
  let q := quoteFor s.toList
  String.ofList (q :: s.toList.flatMap (quoteChar q) ++ [q])

end Text
end PowerSupply
