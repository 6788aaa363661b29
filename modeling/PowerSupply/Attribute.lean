/-
# Reading attributes

An attribute is a small file.  Its text is the start of its bytes, with each byte
beyond ASCII replaced by U+FFFD, and without the newlines at the end.  A file that
cannot be read is noted in the log and has no text; a path with a NUL character is a
fault.  `read` takes a limit on the bytes.  `readSized` takes a size, which may be any
value; a natural is a limit where a text can have so many bytes and the machine has the
memory for them (`readSized_natCast`).

A text is *on* unless it is absent, empty or starts with `0`.  The number that a
text starts with is read by `Text.leading?`, and is a fault if it has too many digits.
-/

import PowerSupply.FileTree.Basic
import PowerSupply.Note
import PowerSupply.Supply
import PowerSupply.Text.Integer

namespace PowerSupply
namespace Attribute

/-- The number of bytes that are read of a text. -/
def textLimit : Nat := 128

/-- The number of bytes that are read of a flag. -/
def flagLimit : Nat := 16

/-- The character that a byte stands for; bytes beyond ASCII stand for none. -/
def byteChar (b : UInt8) : Char :=
  if b < 128 then Char.ofNat b.toNat else Char.ofNat 0xFFFD

/-- The text without the newlines at its end. -/
def stripNewlines (s : List Char) : List Char := (s.reverse.dropWhile (· = '\n')).reverse

/-- The text that bytes stand for. -/
def textOf (bytes : List UInt8) : String := String.ofList (stripNewlines (bytes.map byteChar))

/-- The bytes up to a limit; without a limit all of them. -/
def cut (limit : Option Nat) (bytes : List UInt8) : List UInt8 :=
  match limit with
  | some n => bytes.take n
  | none => bytes

/-- The text of an attribute, reading at most `limit` bytes.  There is none if the
path is unset or the file cannot be read, and only the latter is noted. -/
def read (t : FileTree) (path : Option Path) (limit : Option Nat := some textLimit) :
    Logged (Option String) :=
  match path with
  | none => pure none
  | some p =>
    if p.hasNul then .fail .embeddedNul
    else
      match t.read p with
      | .ok bytes => pure (some (textOf (cut limit bytes)))
      | .error e => do
        .emit (.unreadable p e)
        return none

/-- The least number that is beyond a signed machine word. -/
def wordLimit : Nat := Nat.pow 2 63

/-- The least number of bytes that no text can have: together with 33 bytes of its own
they have to be counted by a machine word. -/
def textBound : Nat := wordLimit - 33

/-- The limit on the bytes that an integer as the size stands for; −1 stands for no
limit.  For which numbers of bytes there is memory (`fits`) is up to the machine. -/
def limitOfInt (fits : Nat → Bool) (n : Int) : Except Fault (Option Nat) :=
  if n < -wordLimit ∨ wordLimit ≤ n then .error .sizeBeyondWord
  else if n = -1 then .ok none
  else if n < 0 then .error .negativeSize
  else if textBound ≤ n then .error .sizeBeyondText
  else if fits n.toNat then .ok (some n.toNat)
  else .error .outOfMemory

/-- The limit on the bytes that a size stands for; null stands for no limit. -/
def limitOf (fits : Nat → Bool) : Json → Except Fault (Option Nat)
  | .null => .ok none
  | .bool b => .ok (some (if b then 1 else 0))
  | .int n => limitOfInt fits n
  | v => .error (.sizeNotWhole v.kindName)

/-- The text of an attribute, reading as many bytes as a size says, on a machine with
memory for the numbers of bytes that fit.  A size that says nothing (`limitOf`) is a
fault, but only where the file can be read. -/
def readSized (t : FileTree) (path : Option Path) (size : Json)
    (fits : Nat → Bool := fun _ => true) : Logged (Option String) :=
  match limitOf fits size with
  | .ok limit => read t path limit
  | .error f => do
    match ← read t path (some 0) with
    | none => return none
    | some _ => .fail f

/-- A natural number below the bound of a text is a limit on the bytes where it fits. -/
theorem limitOf_natCast {fits : Nat → Bool} {n : Nat} (h : n < textBound) :
    limitOf fits (.int n) = if fits n then .ok (some n) else .error .outOfMemory := by
  have hw : wordLimit = textBound + 33 := rfl
  simp only [limitOf, limitOfInt]
  rw [if_neg (by omega), if_neg (by omega), if_neg (by omega), if_neg (by omega),
    Int.toNat_natCast]

/-- A natural number that a text can have as its size, and memory can hold, is a limit on
the bytes. -/
theorem readSized_natCast (t : FileTree) (path : Option Path) {fits : Nat → Bool} {n : Nat}
    (h : n < textBound) (hfits : fits n = true) :
    readSized t path (.int n) fits = read t path (some n) := by
  unfold readSized
  rw [limitOf_natCast h, if_pos hfits]

/-- Whether a text counts as on. -/
def isOn : Option String → Bool
  | none => false
  | some text =>
    match text.toList with
    | [] => false
    | c :: _ => c ≠ '0'

/-- Whether a flag is on. -/
def readFlag (t : FileTree) (path : Option Path) : Logged Bool := do
  return isOn (← read t path (some flagLimit))

/-- The integer that a text starts with, which must not have too many digits.  A text
without one is noted, unless it is absent or empty. -/
def leadingInt? (text : Option String) : Logged (Option Int) :=
  match text with
  | none => pure none
  | some s =>
    if s = "" then pure none
    else
      match Text.leading? s.toList with
      | some n =>
        if Text.digitLimit < Text.leadingDigits s.toList then
          .fail (.notWhole (.tooManyDigits (Text.leadingDigits s.toList)))
        else pure (some n)
      | none => do
        .emit (.notNumeric s)
        return none

/-- The integer that an attribute starts with, or a value to fall back on. -/
def readInt (t : FileTree) (path : Option Path) (fallback : Int := 0) : Logged Int := do
  return (← leadingInt? (← read t path)).getD fallback

/-- Whether a path leads to a regular file.  A missing file, a directory, a loop of
links or a NUL in the path is a no, but a name that is too long is a fault. -/
def isReadable (t : FileTree) (p : Path) : Except Fault Bool :=
  if p.hasNul then .ok false
  else
    match t.stat p with
    | .ok (.file _) => .ok true
    | .ok _ => .ok false
    | .error .nameTooLong => .error (.file .nameTooLong p)
    | .error _ => .ok false

/-- The status that a text stands for; a text outside the vocabulary is noted and
counts as unknown. -/
def decodeStatus (text : String) : Logged Status :=
  match Status.ofText? text with
  | some s => pure s
  | none => do
    .emit (.unknownStatus text)
    return .unknown

/-- The health that a text stands for; a text outside the vocabulary is noted and
counts as unknown. -/
def decodeHealth (text : String) : Logged Health :=
  match Health.ofText? text with
  | some h => pure h
  | none => do
    .emit (.unknownHealth text)
    return .unknown

/-- A text that has to be there. -/
def required (text : Option String) : Except Fault String :=
  match text with
  | some s => .ok s
  | none => .error .absentText

/-- A path that has to be there. -/
def requiredPath (path : Option Path) : Except Fault Path :=
  match path with
  | some p => .ok p
  | none => .error .absentPath

/-- **The text of an attribute has no newline at its end.** -/
theorem getLast?_textOf (bytes : List UInt8) : (textOf bytes).toList.getLast? ≠ some '\n' := by
  simp only [textOf, String.toList_ofList, stripNewlines, List.getLast?_reverse]
  intro h
  have := List.head?_dropWhile_not (· = '\n') (bytes.map byteChar).reverse
  rw [h] at this
  simp at this

end Attribute
end PowerSupply
