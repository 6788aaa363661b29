/-
# Which bytes say a word

The text of an attribute is made of its bytes one by one, and then loses the newlines at
its end.  So an ASCII word without a newline at its end is the text of its own bytes with
any number of newlines behind them, and of no others (`textOf_eq_iff`): a space, a byte
beyond ASCII or a carriage return makes it another text.
-/

import PowerSupply.Attribute
import PowerSupply.Text.Utf8

namespace PowerSupply
namespace Attribute

/-- The characters that are left without the newlines at the end, where the newlines are
put back. -/
theorem stripNewlines_append (s : List Char) :
    s = stripNewlines s ++ List.replicate (s.reverse.takeWhile (· = '\n')).length '\n' := by
  have hall : ∀ c ∈ s.reverse.takeWhile (· = '\n'), c = '\n' := by
    intro c hc
    simpa using List.all_eq_true.1 List.all_takeWhile c hc
  calc s
      = (s.reverse.takeWhile (· = '\n') ++ s.reverse.dropWhile (· = '\n')).reverse := by
        rw [List.takeWhile_append_dropWhile, List.reverse_reverse]
    _ = stripNewlines s ++ (s.reverse.takeWhile (· = '\n')).reverse := List.reverse_append
    _ = stripNewlines s ++ List.replicate (s.reverse.takeWhile (· = '\n')).length '\n' := by
        rw [List.eq_replicate_of_mem hall, List.reverse_replicate, List.length_replicate]

/-- Newlines behind characters that do not end in one are all that is taken away. -/
theorem stripNewlines_eq_iff {s w : List Char} (hw : w.getLast? ≠ some '\n') :
    stripNewlines s = w ↔ ∃ n, s = w ++ List.replicate n '\n' := by
  constructor
  · rintro rfl
    exact ⟨_, stripNewlines_append s⟩
  · rintro ⟨n, rfl⟩
    have hdrop : (List.replicate n '\n' ++ w.reverse).dropWhile (· = '\n') =
        w.reverse.dropWhile (· = '\n') := by
      rw [List.dropWhile_append_of_pos]
      intro c hc
      simpa using (List.mem_replicate.1 hc).2
    have hkeep : w.reverse.dropWhile (· = '\n') = w.reverse := by
      rw [← List.head?_reverse] at hw
      cases hr : w.reverse with
      | nil => rfl
      | cons c cs =>
        have hc : c ≠ '\n' := by
          rintro rfl
          rw [hr] at hw
          exact hw rfl
        simp [hc]
    unfold stripNewlines
    rw [List.reverse_append, List.reverse_replicate, hdrop, hkeep, List.reverse_reverse]

/-- A byte stands for an ASCII character exactly where it is the code of it. -/
theorem byteChar_eq_iff {b : UInt8} {c : Char} (hc : c.toNat < 128) :
    byteChar b = c ↔ b = UInt8.ofNat c.toNat := by
  have code : ∀ n < 128, (Char.ofNat n).toNat = n := by decide
  have hlt : b < 128 ↔ b.toNat < 128 := UInt8.lt_iff_toNat_lt
  unfold byteChar
  constructor
  · rintro rfl
    by_cases hb : b < 128
    · rw [if_pos hb, code _ (hlt.1 hb), UInt8.ofNat_toNat]
    · rw [if_neg hb] at hc
      exact absurd hc (by decide)
  · rintro rfl
    have hnat : (UInt8.ofNat c.toNat).toNat = c.toNat :=
      UInt8.toNat_ofNat_of_lt' (Nat.lt_trans hc (by decide))
    rw [if_pos (hlt.2 (by omega)), hnat, Char.ofNat_toNat]

/-- Bytes stand for ASCII characters exactly where they are the codes of them. -/
theorem map_byteChar_eq_iff {cs : List Char} (ascii : ∀ c ∈ cs, c.toNat < 128)
    {bytes : List UInt8} :
    bytes.map byteChar = cs ↔ bytes = cs.map fun c => UInt8.ofNat c.toNat := by
  induction cs generalizing bytes with
  | nil => simp
  | cons c cs ih =>
    have hc : c.toNat < 128 := ascii c (List.mem_cons_self ..)
    have hcs : ∀ d ∈ cs, d.toNat < 128 := fun d hd => ascii d (List.mem_cons_of_mem _ hd)
    cases bytes with
    | nil => simp
    | cons b bs => simp [byteChar_eq_iff hc, ih hcs]

/-- An ASCII text is encoded by the codes of its characters. -/
theorem encode_of_ascii {word : String} (ascii : ∀ c ∈ word.toList, c.toNat < 128) :
    Utf8.encode word = word.toList.map fun c => UInt8.ofNat c.toNat := by
  have one : ∀ c ∈ word.toList, String.utf8EncodeChar c = [UInt8.ofNat c.toNat] := by
    intro c hc
    unfold String.utf8EncodeChar
    exact if_pos (Nat.le_of_lt_succ (ascii c hc))
  unfold Utf8.encode
  rw [List.map_eq_flatMap, List.flatMap_def, List.flatMap_def, List.map_congr_left one]

/-- **An ASCII word** is the text of its own bytes with newlines behind them, and of no
other bytes. -/
theorem textOf_eq_iff {word : String} (ascii : ∀ c ∈ word.toList, c.toNat < 128)
    (hend : word.toList.getLast? ≠ some '\n') {bytes : List UInt8} :
    textOf bytes = word ↔ ∃ n, bytes = Utf8.encode word ++ List.replicate n 10 := by
  have hall : ∀ n, ∀ c ∈ word.toList ++ List.replicate n '\n', c.toNat < 128 := by
    rintro n c hc
    rcases List.mem_append.1 hc with hc | hc
    · exact ascii c hc
    · obtain rfl := (List.mem_replicate.1 hc).2
      decide
  have htext : textOf bytes = word ↔ stripNewlines (bytes.map byteChar) = word.toList := by
    unfold textOf
    constructor
    · rintro rfl
      exact String.toList_ofList.symm
    · intro h
      rw [h, String.ofList_toList]
  rw [htext, stripNewlines_eq_iff hend, encode_of_ascii ascii]
  simp only [map_byteChar_eq_iff (hall _), List.map_append, List.map_replicate]
  rfl

end Attribute
end PowerSupply
