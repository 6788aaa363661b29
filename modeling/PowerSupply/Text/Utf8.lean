/-
# UTF-8

Strict reading of UTF-8.  The first byte of a character fixes how many
continuation bytes follow and the bounds of the first of them (`Lead`); the bounds
keep out overlong forms, surrogates and numbers beyond the last code point.

A byte sequence that is not UTF-8 is refused with its first defect: where the bad
character starts, how many bytes of it were looked at, and what is wrong with it.
-/

import PowerSupply.Text.Hex

namespace PowerSupply
namespace Utf8

/-- What a first byte says about its character. -/
structure Lead where
  /-- The number of continuation bytes. -/
  count : Nat
  /-- The least first continuation byte. -/
  low : Nat
  /-- The greatest first continuation byte. -/
  high : Nat
  /-- The bits of the code point that the first byte holds. -/
  bits : Nat

/-- What a byte says as a first byte, `none` if no character starts with it. -/
def lead? (b : Nat) : Option Lead :=
  if b < 0x80 then some ⟨0, 0x80, 0xBF, b⟩
  else if b < 0xC2 then none
  else if b < 0xE0 then some ⟨1, 0x80, 0xBF, b - 0xC0⟩
  else if b = 0xE0 then some ⟨2, 0xA0, 0xBF, 0⟩
  else if b = 0xED then some ⟨2, 0x80, 0x9F, 0xD⟩
  else if b < 0xF0 then some ⟨2, 0x80, 0xBF, b - 0xE0⟩
  else if b = 0xF0 then some ⟨3, 0x90, 0xBF, 0⟩
  else if b < 0xF4 then some ⟨3, 0x80, 0xBF, b - 0xF0⟩
  else if b = 0xF4 then some ⟨3, 0x80, 0x8F, 4⟩
  else none

/-- Why bytes are not UTF-8. -/
inductive Reason where
  | startByte
  | continuationByte
  | endOfData
  deriving DecidableEq, Repr

/-- The wording of a reason. -/
def Reason.text : Reason → String
  | .startByte => "invalid start byte"
  | .continuationByte => "invalid continuation byte"
  | .endOfData => "unexpected end of data"

/-- The first defect of a byte sequence: the bad character's bytes that were looked
at, where they start, and what is wrong. -/
structure Defect where
  start : Nat
  bytes : List UInt8
  reason : Reason
  deriving DecidableEq, Repr

/-- The account of a defect: one byte is shown, several are counted. -/
def Defect.message (d : Defect) : String :=
  let place := match d.bytes with
    | [b] => "byte 0x" ++ String.ofList (Text.hex 2 b.toNat) ++ " in position " ++ toString d.start
    | bs => "bytes in position " ++ toString d.start ++ "-" ++ toString (d.start + bs.length - 1)
  "'utf-8' codec can't decode " ++ place ++ ": " ++ d.reason.text

/-- Reads `count` continuation bytes, the first within the bounds and the others
from 0x80 to 0xBF.  Gives the code point and the rest, or the reason of a failure
and the number of good bytes before it. -/
def continuation : Nat → Nat → Nat → Nat → List UInt8 → Except (Reason × Nat) (Nat × List UInt8)
  | 0, _, _, bits, bs => .ok (bits, bs)
  | _ + 1, _, _, _, [] => .error (.endOfData, 0)
  | n + 1, low, high, bits, b :: bs =>
    if low ≤ b.toNat ∧ b.toNat ≤ high then
      match continuation n 0x80 0xBF (bits * 64 + (b.toNat - 0x80)) bs with
      | .ok r => .ok r
      | .error (reason, good) => .error (reason, good + 1)
    else .error (.continuationByte, 0)

/-- The first character of a nonempty byte sequence and the rest. -/
def next (b : UInt8) (bs : List UInt8) : Except (Reason × Nat) (Char × List UInt8) :=
  match lead? b.toNat with
  | none => .error (.startByte, 1)
  | some l =>
    match continuation l.count l.low l.high l.bits bs with
    | .ok (code, rest) => .ok (Char.ofNat code, rest)
    | .error (reason, good) => .error (reason, good + 1)

theorem continuation_length {n low high bits : Nat} {bs : List UInt8} {r : Nat × List UInt8}
    (h : continuation n low high bits bs = .ok r) : r.2.length ≤ bs.length := by
  induction n generalizing low high bits bs with
  | zero =>
    simp [continuation] at h
    simp [← h]
  | succ n ih =>
    cases bs with
    | nil => simp [continuation] at h
    | cons b bs =>
      simp only [continuation] at h
      split at h
      · split at h
        · rename_i hr
          cases h
          have := ih hr
          simp; omega
        · simp at h
      · simp at h

/-- **A character takes at least one byte.** -/
theorem next_length {b : UInt8} {bs : List UInt8} {r : Char × List UInt8}
    (h : next b bs = .ok r) : r.2.length ≤ bs.length := by
  unfold next at h
  split at h
  · simp at h
  · split at h
    · rename_i hc
      cases h
      exact continuation_length hc
    · simp at h

/-- The characters of `bs`, which starts at byte `start` of the whole. -/
def decodeFrom (start : Nat) : List UInt8 → Except Defect (List Char)
  | [] => .ok []
  | b :: bs =>
    match h : next b bs with
    | .ok (c, rest) =>
      have : rest.length < (b :: bs).length := Nat.lt_succ_of_le (next_length h)
      (decodeFrom (start + c.utf8Size) rest).map (c :: ·)
    | .error (reason, length) => .error ⟨start, (b :: bs).take length, reason⟩
termination_by bs => bs.length
decreasing_by exact this

/-- The text that a byte sequence holds, or its first defect. -/
def decode (bs : List UInt8) : Except Defect String := (decodeFrom 0 bs).map String.ofList

/-- The bytes of a text. -/
def encode (s : String) : List UInt8 := s.toList.flatMap String.utf8EncodeChar

end Utf8
end PowerSupply
