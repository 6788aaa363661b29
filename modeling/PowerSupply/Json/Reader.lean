/-
# Reading JSON

The reader works on the characters that remain.  A defect is recorded with the
number of characters that remained where it was found, and `Defect.message` counts
its line and column from there.

Recursion is bounded by twice the number of characters: going into a list or an
object takes two steps and at least one character, so the bound is never used up.

The words `NaN`, `Infinity` and `-Infinity` are numbers; a number without fraction
and exponent is an integer of any size; of two members with one key the later value
stands in the earlier place.
-/

import PowerSupply.Json.Basic
import PowerSupply.Text.Hex
import PowerSupply.Text.Integer

namespace PowerSupply
namespace Json

/-- What is wrong with a text that is no JSON. -/
inductive DefectKind where
  | value
  | memberName
  | colon
  | comma
  | extraData
  | unterminatedText
  | controlCharacter
  | escape
  | unicodeEscape
  | byteOrderMark
  deriving DecidableEq, Repr

/-- The wording of a defect. -/
def DefectKind.text : DefectKind → String
  | .value => "Expecting value"
  | .memberName => "Expecting property name enclosed in double quotes"
  | .colon => "Expecting ':' delimiter"
  | .comma => "Expecting ',' delimiter"
  | .extraData => "Extra data"
  | .unterminatedText => "Unterminated string starting at"
  | .controlCharacter => "Invalid control character at"
  | .escape => "Invalid \\escape"
  | .unicodeEscape => "Invalid \\uXXXX escape"
  | .byteOrderMark => "Unexpected UTF-8 BOM (decode using utf-8-sig)"

/-- A defect, and how many characters remained where it was found. -/
structure Defect where
  kind : DefectKind
  remaining : Nat
  deriving DecidableEq, Repr

/-- The account of a defect in a text: lines and columns count from one, characters
from zero. -/
def Defect.message (d : Defect) (text : List Char) : String :=
  let before := text.take (text.length - d.remaining)
  let line := before.count '\n' + 1
  let column := (before.reverse.takeWhile (· ≠ '\n')).length + 1
  d.kind.text ++ ": line " ++ toString line ++ " column " ++ toString column ++
    " (char " ++ toString before.length ++ ")"

/-- The blanks between tokens. -/
def isSpace (c : Char) : Bool := c = ' ' || c = '\t' || c = '\n' || c = '\r'

/-- The text without the blanks that it starts with. -/
def skip (s : List Char) : List Char := s.dropWhile isSpace

/-- A piece of a text between quotes: a character, or a 16-bit unit that was written
as an escape and may be half of a character. -/
inductive Piece where
  | char (c : Char)
  | unit (n : Nat)

/-- The character of a one-letter escape. -/
def letterEscape? (c : Char) : Option Char :=
  if c = '"' ∨ c = '\\' ∨ c = '/' then some c
  else if c = 'b' then some '\x08'
  else if c = 'f' then some '\x0c'
  else if c = 'n' then some '\n'
  else if c = 'r' then some '\r'
  else if c = 't' then some '\t'
  else none

/-- The number that four hexadecimal digits denote. -/
def hex4? (a b c d : Char) : Option Nat := do
  return (((← Text.hexDigit? a) * 16 + (← Text.hexDigit? b)) * 16 + (← Text.hexDigit? c)) * 16 +
    (← Text.hexDigit? d)

/-- The pieces of a text up to the closing quote, and what follows the quote.
`start` is what remained at the opening quote. -/
def pieces (start : Nat) : List Char → Except Defect (List Piece × List Char)
  | [] => .error ⟨.unterminatedText, start⟩
  | '"' :: r => .ok ([], r)
  | ['\\'] => .error ⟨.unterminatedText, start⟩
  | '\\' :: 'u' :: a :: b :: c :: d :: r =>
    match hex4? a b c d, r with
    | some n, _ :: _ => (pieces start r).map fun x => (.unit n :: x.1, x.2)
    | _, _ => .error ⟨.unicodeEscape, r.length + 5⟩
  | '\\' :: 'u' :: r => .error ⟨.unicodeEscape, r.length + 1⟩
  | '\\' :: c :: r =>
    match letterEscape? c with
    | some e => (pieces start r).map fun x => (.char e :: x.1, x.2)
    | none => .error ⟨.escape, r.length + 2⟩
  | c :: r =>
    if c < ' ' then .error ⟨.controlCharacter, r.length + 1⟩
    else (pieces start r).map fun x => (.char c :: x.1, x.2)

/-- The characters that pieces stand for: a high unit and a low unit make one
character.  A text holds whole characters only, so half of one without the other becomes
a replacement character. -/
def joinPieces : List Piece → List Char
  | [] => []
  | .unit h :: .unit l :: ps =>
    if 0xD800 ≤ h ∧ h < 0xDC00 ∧ 0xDC00 ≤ l ∧ l < 0xE000 then
      Char.ofNat (0x10000 + (h - 0xD800) * 0x400 + (l - 0xDC00)) :: joinPieces ps
    else unitChar h :: joinPieces (.unit l :: ps)
  | .unit n :: ps => unitChar n :: joinPieces ps
  | .char c :: ps => c :: joinPieces ps
where
  /-- The character of a unit that stands alone. -/
  unitChar (n : Nat) : Char :=
    if 0xD800 ≤ n ∧ n < 0xE000 then Char.ofNat 0xFFFD else Char.ofNat n

/-- A text, after its opening quote. -/
def readText (r : List Char) : Except Defect (String × List Char) :=
  (pieces (r.length + 1) r).map fun x => (String.ofList (joinPieces x.1), x.2)

/-- The ASCII digits at the start of a text. -/
def digits (s : List Char) : List Char := s.takeWhile Char.isDigit

/-- The fraction at the start of a text, a point and at least one digit. -/
def fractionDigits (s : List Char) : List Char :=
  match s with
  | '.' :: r => digits r
  | _ => []

/-- The exponent at the start of a text, if there is one: its sign, its digits and
its length. -/
def exponent? (s : List Char) : Option (Bool × List Char × Nat) :=
  match s with
  | c :: r =>
    if c = 'e' ∨ c = 'E' then
      let (negative, ds, n) := match r with
        | '-' :: r' => (true, digits r', 2)
        | '+' :: r' => (false, digits r', 2)
        | _ => (false, digits r, 1)
      if ds.isEmpty then none else some (negative, ds, n + ds.length)
    else none
  | [] => none

/-- The value of ASCII digits. -/
def digitsValue (ds : List Char) : Nat := Nat.ofDigitChars 10 ds 0

/-- The integer digits at the start of a text: a zero, or digits that do not start
with one. -/
def wholeDigits (s : List Char) : List Char :=
  match s with
  | '0' :: _ => ['0']
  | _ => digits s

/-- A number without sign, and what follows it. -/
def readMagnitude (negative : Bool) (s : List Char) : Option (Json × List Char) :=
  let whole := wholeDigits s
  if whole.isEmpty then none
  else
    let r := s.drop whole.length
    let fraction := fractionDigits r
    let r := if fraction.isEmpty then r else r.drop (fraction.length + 1)
    match exponent? r with
    | some (down, ds, n) =>
      let e : Int := if down then -(digitsValue ds : Int) else digitsValue ds
      some (.float (.ofDecimal negative (digitsValue (whole ++ fraction)) (e - fraction.length)),
        r.drop n)
    | none =>
      if fraction.isEmpty then some (.int (Text.signed negative (digitsValue whole)), r)
      else some (.float (.ofDecimal negative (digitsValue (whole ++ fraction)) (-fraction.length)), r)

/-- A number, and what follows it. -/
def readNumber (s : List Char) : Option (Json × List Char) :=
  match s with
  | '-' :: r => readMagnitude true r
  | _ => readMagnitude false s

mutual

/-- A value, and what follows it. -/
def readValue : Nat → List Char → Except Defect (Json × List Char)
  | 0, s => .error ⟨.value, s.length⟩
  | bound + 1, s =>
    match s with
    | '"' :: r => (readText r).map fun x => (.str x.1, x.2)
    | '[' :: r =>
      match skip r with
      | ']' :: r => .ok (.arr [], r)
      | r => (readItems bound r).map fun x => (.arr x.1, x.2)
    | '\x7b' :: r =>
      match skip r with
      | '\x7d' :: r => .ok (.obj [], r)
      | r => (readMembers bound [] r).map fun x => (.obj x.1, x.2)
    | 'n' :: 'u' :: 'l' :: 'l' :: r => .ok (.null, r)
    | 't' :: 'r' :: 'u' :: 'e' :: r => .ok (.bool true, r)
    | 'f' :: 'a' :: 'l' :: 's' :: 'e' :: r => .ok (.bool false, r)
    | 'N' :: 'a' :: 'N' :: r => .ok (.float .nan, r)
    | 'I' :: 'n' :: 'f' :: 'i' :: 'n' :: 'i' :: 't' :: 'y' :: r => .ok (.float (.infinity false), r)
    | '-' :: 'I' :: 'n' :: 'f' :: 'i' :: 'n' :: 'i' :: 't' :: 'y' :: r =>
      .ok (.float (.infinity true), r)
    | s =>
      match readNumber s with
      | some x => .ok x
      | none => .error ⟨.value, s.length⟩

/-- The items of a list from one item on, up to the closing bracket. -/
def readItems : Nat → List Char → Except Defect (List Json × List Char)
  | 0, s => .error ⟨.value, s.length⟩
  | bound + 1, s =>
    match readValue bound s with
    | .error d => .error d
    | .ok (v, r) =>
      match skip r with
      | ']' :: r => .ok ([v], r)
      | ',' :: r => (readItems bound (skip r)).map fun x => (v :: x.1, x.2)
      | r => .error ⟨.comma, r.length⟩

/-- The members of an object from one member on, up to the closing brace, added to
those before. -/
def readMembers : Nat → Members → List Char → Except Defect (Members × List Char)
  | 0, _, s => .error ⟨.memberName, s.length⟩
  | bound + 1, before, s =>
    match s with
    | '"' :: r =>
      match readText r with
      | .error d => .error d
      | .ok (k, r) =>
        match skip r with
        | ':' :: r =>
          match readValue bound (skip r) with
          | .error d => .error d
          | .ok (v, r) =>
            let members := Members.set k v before
            match skip r with
            | '\x7d' :: r => .ok (members, r)
            | ',' :: r => readMembers bound members (skip r)
            | r => .error ⟨.comma, r.length⟩
        | r => .error ⟨.colon, r.length⟩
    | s => .error ⟨.memberName, s.length⟩

end

/-- The value that a text consists of. -/
def read (text : List Char) : Except Defect Json :=
  if text.head? = some (Char.ofNat 0xFEFF) then .error ⟨.byteOrderMark, text.length⟩
  else
    let s := skip text
    match readValue (2 * s.length) s with
    | .error d => .error d
    | .ok (v, r) =>
      match skip r with
      | [] => .ok v
      | r => .error ⟨.extraData, r.length⟩

end Json
end PowerSupply
