/-
# Writing JSON

Values are written in ASCII: all other characters, and the delete character, as
`\u` escapes of their 16-bit units.  Numbers are written with the fewest digits
that read back.

Two layouts differ only in blanks: `compact` puts everything on one line with a
blank after each comma and colon, `indented` puts each item on a line of its own.
-/

import PowerSupply.Json.Basic
import PowerSupply.Number.Shortest
import PowerSupply.Text.Hex

namespace PowerSupply
namespace Json

/-- A `\u` escape. -/
def unitEscape (n : Nat) : List Char := '\\' :: 'u' :: Text.hex 4 n

/-- A character of a text between double quotes. -/
def escapeChar (c : Char) : List Char :=
  if c = '"' then ['\\', '"']
  else if c = '\\' then ['\\', '\\']
  else if c = '\n' then ['\\', 'n']
  else if c = '\r' then ['\\', 'r']
  else if c = '\t' then ['\\', 't']
  else if c = '\x08' then ['\\', 'b']
  else if c = '\x0c' then ['\\', 'f']
  else if ' ' ≤ c ∧ c ≤ '~' then [c]
  else if c.toNat < 0x10000 then unitEscape c.toNat
  else
    let n := c.toNat - 0x10000
    unitEscape (0xD800 + n / 0x400) ++ unitEscape (0xDC00 + n % 0x400)

/-- A text between double quotes. -/
def printText (s : String) : List Char := '"' :: s.toList.flatMap escapeChar ++ ['"']

/-- A floating-point number; the words for the infinities and the not-a-number are
capitalised. -/
def printFloat : Binary64 → List Char
  | .nan => "NaN".toList
  | .infinity negative => if negative then "-Infinity".toList else "Infinity".toList
  | x => x.toText.toList

/-- The blanks of a written value, for each depth of nesting: after the opening
bracket, after a comma, and before the closing bracket. -/
structure Layout where
  opening : Nat → List Char
  between : Nat → List Char
  closing : Nat → List Char

/-- Everything on one line. -/
def Layout.compact : Layout := ⟨fun _ => [], fun _ => [' '], fun _ => []⟩

/-- Each item on a line of its own, two blanks further in than its surroundings. -/
def Layout.indented : Layout :=
  let line (depth : Nat) := '\n' :: List.replicate (2 * depth) ' '
  ⟨fun d => line (d + 1), fun d => line (d + 1), line⟩

mutual

/-- A value at the given depth of nesting. -/
def print (layout : Layout) (depth : Nat) : Json → List Char
  | .null => "null".toList
  | .bool true => "true".toList
  | .bool false => "false".toList
  | .int n => Text.decimal n
  | .float x => printFloat x
  | .str s => printText s
  | .arr [] => ['[', ']']
  | .arr (j :: js) =>
    '[' :: layout.opening depth ++ print layout (depth + 1) j ++ printItems layout depth js
  | .obj [] => ['\x7b', '\x7d']
  | .obj ((k, v) :: ms) =>
    '\x7b' :: layout.opening depth ++ printText k ++ ':' :: ' ' ::
      print layout (depth + 1) v ++ printMembers layout depth ms

/-- The items of a list after the first one, and the closing bracket. -/
def printItems (layout : Layout) (depth : Nat) : List Json → List Char
  | [] => layout.closing depth ++ [']']
  | j :: js =>
    ',' :: layout.between depth ++ print layout (depth + 1) j ++ printItems layout depth js

/-- The members of an object after the first one, and the closing brace. -/
def printMembers (layout : Layout) (depth : Nat) : List (String × Json) → List Char
  | [] => layout.closing depth ++ ['\x7d']
  | (k, v) :: ms =>
    ',' :: layout.between depth ++ printText k ++ ':' :: ' ' ::
      print layout (depth + 1) v ++ printMembers layout depth ms

end

/-- A value on one line. -/
def compact (j : Json) : String := String.ofList (j.print .compact 0)

/-- A value with each item on a line of its own; there is no newline at the end. -/
def indented (j : Json) : String := String.ofList (j.print .indented 0)

end Json
end PowerSupply
