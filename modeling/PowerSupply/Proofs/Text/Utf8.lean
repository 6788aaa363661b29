/-
# Reading back what was encoded

The bytes of a text are UTF-8 and hold that text (`decode_encode`).  A character is
read from its own bytes whatever follows (`next_encodeChar`): the first byte tells the
number of bytes, and its bounds on the second byte hold because a character is written
with no more bytes than it needs, is no surrogate and is not beyond the last code point
(`lead?_three`, `lead?_four`).

The other way round, bytes from which a character is read are the bytes of that character
(`append_of_next`), since the same bounds leave no other way to write it.  So bytes hold a
text exactly where they are its bytes (`decode_eq_ok_iff`), and all other bytes have a
defect.
-/

import Mathlib.Tactic.SplitIfs
import PowerSupply.Proofs.Trace
import PowerSupply.Text.Utf8

namespace PowerSupply
namespace Utf8

/-- A continuation byte within the bounds adds its six bits. -/
theorem continuation_succ {n low high bits k : Nat} {bs : List UInt8} {r : Nat × List UInt8}
    (hk : k < 256) (hlow : low ≤ k) (hhigh : k ≤ high)
    (h : continuation n 0x80 0xBF (bits * 64 + (k - 0x80)) bs = .ok r) :
    continuation (n + 1) low high bits (UInt8.ofNat k :: bs) = .ok r := by
  have hb : (UInt8.ofNat k).toNat = k := UInt8.toNat_ofNat_of_lt' hk
  rw [continuation, hb, if_pos ⟨hlow, hhigh⟩, h]

/-- A character is read where its first byte and the continuation after it are. -/
theorem next_of_lead {k n low high bits : Nat} {bs rest : List UInt8} {c : Char} (hk : k < 256)
    (hl : lead? k = some ⟨n, low, high, bits⟩)
    (h : continuation n low high bits bs = .ok (c.toNat, rest)) :
    next (UInt8.ofNat k) bs = .ok (c, rest) := by
  have hb : (UInt8.ofNat k).toNat = k := UInt8.toNat_ofNat_of_lt' hk
  unfold next
  simp only [hb, hl, h, Char.ofNat_toNat]

theorem lead?_one {v : Nat} (h : v ≤ 0x7F) : lead? v = some ⟨0, 0x80, 0xBF, v⟩ := by
  unfold lead?
  rw [if_pos (by omega)]

theorem lead?_two {v : Nat} (h₁ : 0x7F < v) (h₂ : v ≤ 0x7FF) :
    lead? (v / 64 % 0x20 + 0xC0) = some ⟨1, 0x80, 0xBF, v / 64⟩ := by
  unfold lead?
  rw [if_neg (by omega), if_neg (by omega), if_pos (by omega),
    show v / 64 % 0x20 + 0xC0 - 0xC0 = v / 64 by omega]

/-- **The bounds of three bytes** let through what needs three and is no surrogate. -/
theorem lead?_three {v : Nat} (h₁ : 0x7FF < v) (h₂ : v ≤ 0xFFFF)
    (hs : v < 0xD800 ∨ 0xDFFF < v) :
    ∃ low high, lead? (v / 4096 % 0x10 + 0xE0) = some ⟨2, low, high, v / 4096⟩ ∧
      low ≤ v / 64 % 0x40 + 0x80 ∧ v / 64 % 0x40 + 0x80 ≤ high := by
  unfold lead?
  rw [if_neg (by omega), if_neg (by omega), if_neg (by omega)]
  by_cases h0 : v / 4096 = 0
  · rw [if_pos (by omega), h0]
    exact ⟨_, _, rfl, by omega, by omega⟩
  · rw [if_neg (by omega)]
    by_cases hd : v / 4096 = 0xD
    · rw [if_pos (by omega), hd]
      exact ⟨_, _, rfl, by omega, by omega⟩
    · rw [if_neg (by omega), if_pos (by omega),
        show v / 4096 % 0x10 + 0xE0 - 0xE0 = v / 4096 by omega]
      exact ⟨_, _, rfl, by omega, by omega⟩

/-- **The bounds of four bytes** let through what needs four and is a code point. -/
theorem lead?_four {v : Nat} (h₁ : 0xFFFF < v) (h₂ : v < 0x110000) :
    ∃ low high, lead? (v / 262144 % 0x08 + 0xF0) = some ⟨3, low, high, v / 262144⟩ ∧
      low ≤ v / 4096 % 0x40 + 0x80 ∧ v / 4096 % 0x40 + 0x80 ≤ high := by
  unfold lead?
  rw [if_neg (by omega), if_neg (by omega), if_neg (by omega), if_neg (by omega),
    if_neg (by omega), if_neg (by omega)]
  by_cases h0 : v / 262144 = 0
  · rw [if_pos (by omega), h0]
    exact ⟨_, _, rfl, by omega, by omega⟩
  · rw [if_neg (by omega)]
    by_cases h4 : v / 262144 = 4
    · rw [if_neg (by omega), if_pos (by omega), h4]
      exact ⟨_, _, rfl, by omega, by omega⟩
    · rw [if_pos (by omega), show v / 262144 % 0x08 + 0xF0 - 0xF0 = v / 262144 by omega]
      exact ⟨_, _, rfl, by omega, by omega⟩

/-- **A character is read from its own bytes**, whatever follows them. -/
theorem next_encodeChar (c : Char) (rest : List UInt8) :
    ∃ b bs, String.utf8EncodeChar c = b :: bs ∧ next b (bs ++ rest) = .ok (c, rest) := by
  have hv : c.val.toNat = c.toNat := rfl
  have valid : c.toNat < 0xD800 ∨ 0xDFFF < c.toNat ∧ c.toNat < 0x110000 := c.valid
  unfold String.utf8EncodeChar
  simp only [hv]
  generalize hn : c.toNat = v at valid
  split
  · refine ⟨_, _, rfl, next_of_lead (by omega) (lead?_one (by omega)) ?_⟩
    rw [hn]
    rfl
  · split
    · refine ⟨_, _, rfl, next_of_lead (by omega) (lead?_two (by omega) (by omega)) ?_⟩
      refine continuation_succ (by omega) (by omega) (by omega) ?_
      rw [continuation, hn]
      exact congrArg (fun bits => Except.ok (bits, rest)) (by omega)
    · split
      · obtain ⟨low, high, hl, hlow, hhigh⟩ := lead?_three (v := v) (by omega) (by omega) (by omega)
        refine ⟨_, _, rfl, next_of_lead (by omega) hl ?_⟩
        refine continuation_succ (by omega) hlow hhigh ?_
        refine continuation_succ (by omega) (by omega) (by omega) ?_
        rw [continuation, hn]
        exact congrArg (fun bits => Except.ok (bits, rest)) (by omega)
      · obtain ⟨low, high, hl, hlow, hhigh⟩ := lead?_four (v := v) (by omega) (by omega)
        refine ⟨_, _, rfl, next_of_lead (by omega) hl ?_⟩
        refine continuation_succ (by omega) hlow hhigh ?_
        refine continuation_succ (by omega) (by omega) (by omega) ?_
        refine continuation_succ (by omega) (by omega) (by omega) ?_
        rw [continuation, hn]
        exact congrArg (fun bits => Except.ok (bits, rest)) (by omega)

theorem decodeFrom_encode (start : Nat) (cs : List Char) :
    decodeFrom start (cs.flatMap String.utf8EncodeChar) = .ok cs := by
  induction cs generalizing start with
  | nil => simp [decodeFrom]
  | cons c cs ih =>
    obtain ⟨b, bs, hb, hnext⟩ := next_encodeChar c (cs.flatMap String.utf8EncodeChar)
    rw [List.flatMap_cons, hb, List.cons_append, decodeFrom]
    split
    · rename_i c' rest h
      obtain ⟨rfl, rfl⟩ : c' = c ∧ rest = cs.flatMap String.utf8EncodeChar := by
        simpa [hnext, eq_comm] using h
      rw [ih]
      rfl
    · rename_i h
      rw [hnext] at h
      cases h

/-- **The bytes of a text hold the text.** -/
theorem decode_encode (s : String) : decode (encode s) = .ok s := by
  unfold decode encode
  rw [decodeFrom_encode]
  exact congrArg Except.ok (String.ofList_toList)

/-! ### Writing what was read -/

/-- What a first byte says: how many bytes follow, which bits it holds, and bounds that
keep out what can be written with fewer bytes, surrogates and what is no code point. -/
theorem lead?_eq_some {k : Nat} {l : Lead} (h : lead? k = some l) :
    (l.count = 0 ∧ k < 0x80 ∧ l.bits = k) ∨
    (l.count = 1 ∧ 0xC2 ≤ k ∧ k < 0xE0 ∧ 0x80 ≤ l.low ∧ l.high ≤ 0xBF ∧ l.bits = k - 0xC0) ∨
    (l.count = 2 ∧ 0xE0 ≤ k ∧ k < 0xF0 ∧ 0x80 ≤ l.low ∧ l.high ≤ 0xBF ∧ l.bits = k - 0xE0 ∧
      (k = 0xE0 → l.low = 0xA0) ∧ (k = 0xED → l.high = 0x9F)) ∨
    (l.count = 3 ∧ 0xF0 ≤ k ∧ k ≤ 0xF4 ∧ 0x80 ≤ l.low ∧ l.high ≤ 0xBF ∧ l.bits = k - 0xF0 ∧
      (k = 0xF0 → l.low = 0x90) ∧ (k = 0xF4 → l.high = 0x8F)) := by
  unfold lead? at h
  split_ifs at h <;> cases h <;> dsimp only <;> omega

/-- A continuation takes a byte within the bounds for each of its bytes. -/
theorem continuation_eq_ok {n low high bits : Nat} {bs : List UInt8} {r : Nat × List UInt8}
    (h : continuation (n + 1) low high bits bs = .ok r) :
    ∃ b rest, bs = b :: rest ∧ low ≤ b.toNat ∧ b.toNat ≤ high ∧
      continuation n 0x80 0xBF (bits * 64 + (b.toNat - 0x80)) rest = .ok r := by
  cases bs with
  | nil => cases h
  | cons b rest =>
    rw [continuation] at h
    split at h
    · rename_i hb
      refine ⟨b, rest, rfl, hb.1, hb.2, ?_⟩
      cases hc : continuation n 0x80 0xBF (bits * 64 + (b.toNat - 0x80)) rest with
      | ok r' =>
        rw [hc] at h
        exact h
      | error e =>
        rw [hc] at h
        cases h
    · cases h

/-- The number of a character whose number is given. -/
theorem val_ofNat {v : Nat} (h : v.isValidChar) : (Char.ofNat v).val.toNat = v := by
  unfold Char.ofNat
  rw [dif_pos h]
  rfl

/-- **The bytes of a character that was read are those that it was read from.** -/
theorem append_of_next {b : UInt8} {bs rest : List UInt8} {c : Char}
    (h : next b bs = .ok (c, rest)) : b :: bs = String.utf8EncodeChar c ++ rest := by
  have self (x : UInt8) {v : Nat} (hv : v = x.toNat) : UInt8.ofNat v = x := by
    rw [hv, UInt8.ofNat_toNat]
  unfold next at h
  split at h
  · cases h
  rename_i l hl
  split at h
  · rename_i code tail hc
    cases h
    obtain ⟨count, low, high, bits⟩ := l
    have hlead := lead?_eq_some hl
    dsimp only at hc hlead
    clear hl
    rcases hlead with ⟨rfl, hk, hb⟩ | ⟨rfl, h₁, h₂, hlow, hhigh, hb⟩ |
      ⟨rfl, h₁, h₂, hlow, hhigh, hb, he, hd⟩ | ⟨rfl, h₁, h₂, hlow, hhigh, hb, he, hd⟩
    · obtain ⟨hcode, htail⟩ := Prod.mk.inj (Except.ok.inj hc)
      unfold String.utf8EncodeChar
      rw [val_ofNat (by unfold Nat.isValidChar; omega), ← htail]
      dsimp only
      rw [if_pos (by omega), self b (by omega)]
      rfl
    · obtain ⟨x, xs, rfl, hx₁, hx₂, hc⟩ := continuation_eq_ok hc
      obtain ⟨hcode, htail⟩ := Prod.mk.inj (Except.ok.inj hc)
      unfold String.utf8EncodeChar
      rw [val_ofNat (by unfold Nat.isValidChar; omega), ← htail]
      dsimp only
      rw [if_neg (by omega), if_pos (by omega), self b (by omega), self x (by omega)]
      rfl
    · obtain ⟨x, xs, rfl, hx₁, hx₂, hc⟩ := continuation_eq_ok hc
      obtain ⟨y, ys, rfl, hy₁, hy₂, hc⟩ := continuation_eq_ok hc
      obtain ⟨hcode, htail⟩ := Prod.mk.inj (Except.ok.inj hc)
      unfold String.utf8EncodeChar
      rw [val_ofNat (by unfold Nat.isValidChar; omega), ← htail]
      dsimp only
      rw [if_neg (by omega), if_neg (by omega), if_pos (by omega), self b (by omega),
        self x (by omega), self y (by omega)]
      rfl
    · obtain ⟨x, xs, rfl, hx₁, hx₂, hc⟩ := continuation_eq_ok hc
      obtain ⟨y, ys, rfl, hy₁, hy₂, hc⟩ := continuation_eq_ok hc
      obtain ⟨z, zs, rfl, hz₁, hz₂, hc⟩ := continuation_eq_ok hc
      obtain ⟨hcode, htail⟩ := Prod.mk.inj (Except.ok.inj hc)
      unfold String.utf8EncodeChar
      rw [val_ofNat (by unfold Nat.isValidChar; omega), ← htail]
      dsimp only
      rw [if_neg (by omega), if_neg (by omega), if_neg (by omega), self b (by omega),
        self x (by omega), self y (by omega), self z (by omega)]
      rfl
  · cases h

/-- The bytes of a text that was read are those that it was read from. -/
theorem eq_of_decodeFrom {start : Nat} {bs : List UInt8} {cs : List Char}
    (h : decodeFrom start bs = .ok cs) : bs = cs.flatMap String.utf8EncodeChar := by
  induction start, bs using decodeFrom.induct generalizing cs with
  | case1 start =>
    rw [decodeFrom] at h
    cases h
    rfl
  | case2 start b bs c rest hnext hlt ih =>
    rw [decodeFrom] at h
    split at h
    · rename_i c' rest' hnext'
      rw [hnext] at hnext'
      cases hnext'
      obtain ⟨cs, hcs, rfl⟩ := of_map_eq_ok h
      rw [List.flatMap_cons, ← ih hcs, append_of_next hnext]
    · rename_i hnext'
      rw [hnext] at hnext'
      cases hnext'
  | case3 start b bs reason length hnext =>
    rw [decodeFrom] at h
    split at h
    · rename_i hnext'
      rw [hnext] at hnext'
      cases hnext'
    · cases h

/-- **Bytes hold a text exactly where they are its bytes.** -/
theorem decode_eq_ok_iff {bs : List UInt8} {s : String} : decode bs = .ok s ↔ bs = encode s := by
  constructor
  · intro h
    obtain ⟨cs, hcs, rfl⟩ := of_map_eq_ok h
    unfold encode
    rw [String.toList_ofList]
    exact eq_of_decodeFrom hcs
  · rintro rfl
    exact decode_encode s

end Utf8
end PowerSupply
