/-
# What the content of a file says

A text is the text of bytes where it does not end in a newline and the characters of the
bytes are its own and then newlines only (`IsTextOf`).  Bytes have one such text, and it is
the one that is read (`isTextOf_iff`).  So it has at most one character for each byte, each
of them ASCII or U+FFFD, and everything up to the last byte that is no newline keeps its place
(`IsTextOf.getElem?_eq`).

No digit beyond ASCII can come out of a file.  An integer that such a text opens with is
therefore written in the ten ASCII digits (`opensAscii_of_opens`).

A reading takes the start of a file, as many bytes as it is asked for, and that is all it
depends on.  Where the file is there, two kinds of sizes are faults: those that no text can
have, on any machine (`readSized_of_textBound_le`), and those that this machine has no
memory for (`readSized_of_not_fits`).
-/

import PowerSupply.FileTree.Change
import PowerSupply.Proofs.Attribute
import PowerSupply.Proofs.Attribute.Number
import PowerSupply.Proofs.Attribute.Word

namespace PowerSupply

namespace Text

/-- A text opens with an integer that is written in ASCII digits. -/
inductive OpensAscii : List Char → Int → Prop where
  | intro {blanks sign digits rest : List Char} {factor : Int}
      (blank : ∀ c ∈ blanks, isBlank c = true) (hsign : Sign sign factor)
      (hdigits : ∀ c ∈ digits, c.isDigit = true) (nonempty : digits ≠ [])
      (hrest : EndsDigits rest) :
      OpensAscii (blanks ++ sign ++ digits ++ rest)
        (factor * (Nat.ofDigitChars 10 digits 0 : Nat))

/-- A character that a byte can stand for: an ASCII one, or U+FFFD in place of all others. -/
def IsPlain (c : Char) : Prop := c.toNat < 128 ∨ c = '\uFFFD'

instance (c : Char) : Decidable (IsPlain c) := inferInstanceAs (Decidable (_ ∨ _))

/-- **Of these characters only the ASCII digits are digits**, with their usual values. -/
theorem isDigit_of_isPlain {c : Char} (hc : IsPlain c) {d : Nat} (h : digit? c = some d) :
    c.isDigit = true ∧ d = c.toNat - '0'.toNat := by
  have ascii : ∀ n < 128, (digit? (Char.ofNat n)).all
      fun d => (Char.ofNat n).isDigit && d == n - '0'.toNat := by decide
  rcases hc with hc | rfl
  · have hall := ascii c.toNat hc
    rw [Char.ofNat_toNat, h, Option.all_some, Bool.and_eq_true, beq_iff_eq] at hall
    exact hall
  · have hnone : digit? '\uFFFD' = none := by decide
    rw [hnone] at h
    cases h

/-- Plain digits have the value that the library knows. -/
theorem ofDigitChars_of_isPlain {digits : List Char} {values : List Nat}
    (plain : ∀ c ∈ digits, IsPlain c) (hvalues : digits.map digit? = values.map some) :
    (∀ c ∈ digits, c.isDigit = true) ∧
      Nat.ofDigitChars 10 digits 0 = Nat.ofDigits 10 values.reverse := by
  have value : ∀ c ∈ digits, c.isDigit = true ∧ digit? c = some (c.toNat - '0'.toNat) := by
    intro c hc
    obtain ⟨d, hd⟩ := exists_digit_of_mem hvalues hc
    obtain ⟨hdigit, rfl⟩ := isDigit_of_isPlain (plain c hc) hd
    exact ⟨hdigit, hd⟩
  have hmap : (digits.map fun c => c.toNat - '0'.toNat).map some = values.map some := by
    rw [← hvalues, List.map_map]
    exact List.map_congr_left fun c hc => (value c hc).2.symm
  have heq := (List.map_inj_right fun _ _ => Option.some.inj).1 hmap
  refine ⟨fun c hc => (value c hc).1, ?_⟩
  rw [← ofDigits_eq, ← heq, ofDigits, List.foldl_map, Nat.ofDigitChars_eq_foldl]

/-- **An integer that a text of plain characters opens with is written in ASCII digits.** -/
theorem opensAscii_of_opens {s : List Char} {k : Nat} {n : Int} (plain : ∀ c ∈ s, IsPlain c)
    (h : Opens s k n) : OpensAscii s n := by
  obtain ⟨blank, hsign, hvalues, nonempty, hrest⟩ := h
  rename_i blanks sign digits rest factor values
  have hplain : ∀ c ∈ digits, IsPlain c :=
    fun c hc => plain c (List.mem_append_left _ (List.mem_append_right _ hc))
  obtain ⟨hdigits, hvalue⟩ := ofDigitChars_of_isPlain hplain hvalues
  rw [← hvalue]
  exact .intro blank hsign hdigits nonempty hrest

end Text

namespace Attribute

open Text (IsPlain Opens OpensAscii)

/-! ### The text of bytes -/

/-- A text does not end in a newline, and the characters of the bytes are those of the text
and newlines behind them. -/
def IsTextOf (s : String) (bytes : List UInt8) : Prop :=
  s.toList.getLast? ≠ some '\n' ∧
    ∃ newlines, bytes.map byteChar = s.toList ++ List.replicate newlines '\n'

/-- **Bytes have one text**, and it is the one that is read. -/
theorem isTextOf_iff {s : String} {bytes : List UInt8} : IsTextOf s bytes ↔ s = textOf bytes := by
  constructor
  · rintro ⟨hlast, hbytes⟩
    unfold textOf
    rw [(stripNewlines_eq_iff hlast).2 hbytes, String.ofList_toList]
  · rintro rfl
    refine ⟨getLast?_textOf bytes, (stripNewlines_eq_iff (getLast?_textOf bytes)).1 ?_⟩
    exact String.toList_ofList.symm

theorem isPlain_byteChar (b : UInt8) : IsPlain (byteChar b) := by
  have code : ∀ n < 128, (Char.ofNat n).toNat = n := by decide
  unfold byteChar
  split
  · rename_i hb
    have hlt : b.toNat < 128 := UInt8.lt_iff_toNat_lt.1 hb
    exact .inl (by rwa [code _ hlt])
  · exact .inr rfl

namespace IsTextOf

variable {s : String} {bytes : List UInt8}

/-- A text has a byte for each of its characters. -/
theorem length_le (h : IsTextOf s bytes) : s.toList.length ≤ bytes.length := by
  obtain ⟨-, k, hbytes⟩ := h
  have hlength := congrArg List.length hbytes
  rw [List.length_map, List.length_append] at hlength
  omega

/-- **A text is made of ASCII characters and U+FFFD.** -/
theorem isPlain (h : IsTextOf s bytes) : ∀ c ∈ s.toList, IsPlain c := by
  obtain ⟨-, k, hbytes⟩ := h
  intro c hc
  obtain ⟨b, -, rfl⟩ := List.mem_map.1 (hbytes ▸ List.mem_append_left _ hc)
  exact isPlain_byteChar b

/-- **Everything up to a byte that is no newline keeps its place**, newlines too. -/
theorem getElem?_eq (h : IsTextOf s bytes) {i j : Nat} (hij : i ≤ j) {b : UInt8}
    (hb : bytes[j]? = some b) (hne : b ≠ 10) : s.toList[i]? = bytes[i]?.map byteChar := by
  obtain ⟨-, k, hbytes⟩ := h
  -- behind the text there are newlines only, and this byte is none
  have hj : j < s.toList.length := by
    by_contra hout
    have hchar : (s.toList ++ List.replicate k '\n')[j]? = some (byteChar b) := by
      rw [← hbytes, List.getElem?_map, hb, Option.map_some]
    rw [List.getElem?_append_right (Nat.le_of_not_lt hout)] at hchar
    have hnewline := (List.mem_replicate.1 (List.mem_of_getElem? hchar)).2
    exact hne ((byteChar_eq_iff (by decide)).1 hnewline)
  rw [← List.getElem?_map, hbytes, List.getElem?_append_left (Nat.lt_of_le_of_lt hij hj)]

end IsTextOf

/-! ### Reading as many bytes as a size says -/

variable {t : FileTree} {p : Path} {bytes : List UInt8} {e : FileError} {fits : Nat → Bool}

/-- A path leads to no file where reading the file is refused. -/
theorem not_readable_iff (hp : p.hasNul = false) : ¬Readable t p ↔ ∃ e, t.read p = .error e := by
  have hread : Readable t p ↔ ∃ bytes, t.read p = .ok bytes := by
    simp only [Readable, hp, true_and, FileTree.read_eq_ok_iff]
  rw [hread]
  cases t.read p <;> simp

/-- **A file that cannot be read has no text**, and is noted, whatever the size. -/
theorem readSized_of_error (hp : p.hasNul = false) (he : t.read p = .error e) (size : Json) :
    readSized t (some p) size fits = ⟨[.unreadable p e], .ok none⟩ := by
  unfold readSized
  cases limitOf fits size with
  | ok limit => exact read_of_error hp he limit
  | error f =>
    dsimp only
    rw [read_of_error hp he]
    rfl

/-- An unset path has no text, and nothing is noted. -/
theorem readSized_of_unset (t : FileTree) (size : Json) :
    readSized t none size fits = pure none := by
  unfold readSized
  cases limitOf fits size <;> rfl

/-- A size that says nothing is a fault where the file can be read. -/
theorem readSized_of_limit_error (hp : p.hasNul = false) (hb : t.read p = .ok bytes) {size : Json}
    {f : Fault} (hf : limitOf fits size = .error f) : readSized t (some p) size fits = .fail f := by
  unfold readSized
  rw [hf]
  dsimp only
  rw [read_of_content hp hb, Trace.pure_bind]

/-- **A size that the machine has no memory for** is a fault where the file can be read. -/
theorem readSized_of_not_fits (hp : p.hasNul = false) (hb : t.read p = .ok bytes) {n : Nat}
    (h : n < textBound) (hfits : fits n = false) :
    readSized t (some p) (.int n) fits = .fail .outOfMemory := by
  refine readSized_of_limit_error hp hb ?_
  rw [limitOf_natCast h, hfits]
  rfl

/-- **A size that no text can have** is a fault where the file can be read, on any machine. -/
theorem readSized_of_textBound_le (hp : p.hasNul = false) (hb : t.read p = .ok bytes) {n : Nat}
    (h : textBound ≤ n) :
    readSized t (some p) (.int n) fits =
      .fail (if wordLimit ≤ n then .sizeBeyondWord else .sizeBeyondText) := by
  refine readSized_of_limit_error hp hb ?_
  have hw : wordLimit = textBound + 33 := rfl
  simp only [limitOf, limitOfInt]
  by_cases hn : wordLimit ≤ n
  · rw [if_pos (.inr (by omega)), if_pos hn]
  · rw [if_neg (by omega), if_neg (by omega), if_neg (by omega), if_pos (by omega), if_neg hn]

/-- **Where no text comes of a reading**, there is no file. -/
theorem result_readSized_eq_none_iff (hp : p.hasNul = false) (n : Nat) :
    (readSized t (some p) (.int n) fits).result = .ok none ↔ ¬Readable t p := by
  rw [not_readable_iff hp]
  cases hread : t.read p with
  | error e => simp [readSized_of_error hp hread]
  | ok bytes =>
    by_cases hn : n < textBound
    · cases hfits : fits n with
      | true => simp [readSized_natCast t _ hn hfits, read_of_content hp hread]
      | false => simp [readSized_of_not_fits hp hread hn hfits]
    · simp [readSized_of_textBound_le hp hread (Nat.le_of_not_lt hn)]

/-- The integer of a file is the one of its text. -/
theorem readInt_of_content (hp : p.hasNul = false) (hb : t.read p = .ok bytes) (fallback : Int) :
    readInt t (some p) fallback = integerOr fallback (some (textOf (bytes.take textLimit))) := by
  rw [readInt_eq_bind, read_of_content hp hb, Trace.pure_bind]
  rfl

/-- An integer that a text of so many characters opens with. -/
theorem natAbs_lt_of_opens {s : String} {count : Nat} {k : Int} (h : Opens s.toList count k)
    {n : Nat} (hn : s.toList.length ≤ n) : k.natAbs < Nat.pow 10 n :=
  Nat.lt_of_lt_of_le (Text.natAbs_lt_of_leading? (Text.leading?_of_opens h))
    (Nat.pow_le_pow_right (by decide) hn)

/-- **What a reading gives**, for any size that is a natural number and any machine.  There is
no text exactly where the path is unset, and then nothing is noted, or leads to no file, and
then one warning names it.  A file that is there is read in silence: what comes of it is the
one text of its first bytes, as many as the size says, with everything in its place up to the
last byte that is no newline.  Only a size that the machine has no memory for, or that no text
can have, is a fault there.  An integer that is read from a file is written in ASCII digits
and is less than ten to the limit of a text. -/
theorem text_of_reading {t : FileTree} {p : Path} (hp : p.hasNul = false) (n : Nat)
    (fits : Nat → Bool) :
    readSized t none (.int n) fits = pure none ∧
    ((readSized t (some p) (.int n) fits).result = .ok none ↔ ¬Readable t p) ∧
    (¬Readable t p → ∃ e, readSized t (some p) (.int n) fits = ⟨[.unreadable p e], .ok none⟩ ∧
      (Note.unreadable p e).level = .warning ∧
      (Note.unreadable p e).message = "Could not open '" ++ p.text ++ "': " ++ e.message p) ∧
    ∀ bytes, t.read p = .ok bytes →
      (n < textBound → fits n = true → ∃ s, readSized t (some p) (.int n) fits = pure (some s) ∧
        IsTextOf s (bytes.take n) ∧ (∀ s', IsTextOf s' (bytes.take n) → s' = s) ∧
        s.toList.length ≤ n ∧ (∀ c ∈ s.toList, IsPlain c) ∧
        ∀ (i j : Nat) (b : UInt8), i ≤ j → (bytes.take n)[j]? = some b → b ≠ 10 →
          s.toList[i]? = (bytes.take n)[i]?.map byteChar) ∧
      (n < textBound → fits n = false →
        readSized t (some p) (.int n) fits = .fail .outOfMemory) ∧
      (textBound ≤ n → readSized t (some p) (.int n) fits =
        .fail (if wordLimit ≤ n then .sizeBeyondWord else .sizeBeyondText)) ∧
      ∀ fallback, ∃ s, IsTextOf s (bytes.take 128) ∧
        (∀ count k, Opens s.toList count k → readInt t (some p) fallback = pure k ∧
          OpensAscii s.toList k ∧ k.natAbs < Nat.pow 10 128) ∧
        ((∀ count k, ¬Opens s.toList count k) →
          (readInt t (some p) fallback).result = .ok fallback) := by
  refine ⟨readSized_of_unset t _, result_readSized_eq_none_iff hp n, fun h => ?_,
    fun bytes hb => ⟨fun hn hfits => ?_, readSized_of_not_fits hp hb,
      readSized_of_textBound_le hp hb, fun fallback => ?_⟩⟩
  · obtain ⟨e, he⟩ := (not_readable_iff hp).1 h
    exact ⟨e, readSized_of_error hp he _, rfl, rfl⟩
  · have htext : IsTextOf (textOf (bytes.take n)) (bytes.take n) := isTextOf_iff.2 rfl
    refine ⟨_, ?_, htext, fun s' hs' => isTextOf_iff.1 hs', ?_, htext.isPlain,
      fun i j b hij hj hne => htext.getElem?_eq hij hj hne⟩
    · rw [readSized_natCast t _ hn hfits, read_of_content hp hb]
      rfl
    · exact Nat.le_trans htext.length_le (List.length_take_le n bytes)
  · have htext : IsTextOf (textOf (bytes.take 128)) (bytes.take 128) := isTextOf_iff.2 rfl
    have hlength := Nat.le_trans htext.length_le (List.length_take_le 128 bytes)
    have hint := readInt_of_content hp hb fallback
    refine ⟨_, htext, fun count k hk =>
      ⟨?_, Text.opensAscii_of_opens htext.isPlain hk, natAbs_lt_of_opens hk hlength⟩, fun h => ?_⟩
    · have hcount : count ≤ Text.digitLimit :=
        Text.leadingDigits_of_opens hk ▸ leadingDigits_le_digitLimit hlength
      exact hint.trans (integerOr_of_opens hk hcount fallback)
    · exact congrArg Trace.result (hint.trans (integerOr_of_not_opens h fallback))

/-- The first five bytes end among newlines, with a newline in front and a character beyond
ASCII, which takes two bytes, in between; a file with an integer and a unit; and no file. -/
theorem text_of_reading_between_newlines :
    let bytes : List UInt8 := [10, 195, 169, 10, 10, 49]
    let t := FileTree.empty.changes [.file "f" bytes, .file "n" (Utf8.encode "-40 mV\n")]
    let f : Path := "f"
    let n : Path := "n"
    let gone : Path := "gone"
    f.hasNul = false ∧ n.hasNul = false ∧ gone.hasNul = false ∧ t.read f = .ok bytes ∧
      t.read n = .ok (Utf8.encode "-40 mV\n") ∧ 5 < textBound ∧
      let fits := fun n => decide (n < 6)
      fits 5 = true ∧ readSized t (some f) (.int 5) fits = pure (some "\n\uFFFD\uFFFD") ∧
      fits 6 = false ∧ readSized t (some f) (.int 6) fits = .fail .outOfMemory ∧
      ¬Readable t gone ∧ (readSized t (some gone) (.int 5) fits).events.length = 1 ∧
      Opens "-40 mV".toList 2 (-40) ∧ readInt t (some n) 7 = pure (-40) ∧
      OpensAscii "-40 mV".toList (-40) := by
  intro bytes t f n gone
  have hf : f.hasNul = false := by decide +kernel
  have hn : n.hasNul = false := by decide +kernel
  have hgone : gone.hasNul = false := by decide +kernel
  have hread : t.read f = .ok bytes := eq_ok_of_toOption (by decide +kernel)
  have hint : t.read n = .ok (Utf8.encode "-40 mV\n") := eq_ok_of_toOption (by decide +kernel)
  have hsize : 5 < textBound := by decide
  let fits := fun n => decide (n < 6)
  have absent : ¬Readable t gone :=
    (not_readable_iff hgone).2 (exists_error_of_isNone (by decide +kernel))
  have opens : Opens "-40 mV".toList 2 (-40) := Text.opens_of_leading? (by decide)
  obtain ⟨-, -, -, there⟩ := text_of_reading hf 5 fits
  obtain ⟨s, hs, -, unique, -⟩ := (there bytes hread).1 hsize (by decide)
  obtain ⟨-, -, -, tooMany⟩ := text_of_reading hf 6 fits
  have hmemory := (tooMany bytes hread).2.1 (by decide) (by decide)
  obtain ⟨-, -, notThere, -⟩ := text_of_reading hgone 5 fits
  obtain ⟨e, he, -⟩ := notThere absent
  obtain ⟨-, -, -, number⟩ := text_of_reading hn 5 fits
  obtain ⟨s', hs', integer, -⟩ := (number _ hint).2.2.2 7
  have htext : "\n\uFFFD\uFFFD" = s := unique _ ⟨by decide, 2, by decide⟩
  have hnumber : "-40 mV" = s' := (isTextOf_iff.1 ⟨by decide, 1, by decide⟩).trans
    (isTextOf_iff.1 hs').symm
  obtain ⟨hvalue, hascii, -⟩ := integer 2 (-40) (hnumber ▸ opens)
  exact ⟨hf, hn, hgone, hread, hint, hsize, by decide, htext ▸ hs, by decide, hmemory, absent,
    congrArg (fun x => x.events.length) he, opens, hvalue, hnumber ▸ hascii⟩

/-- A file that is there, and the greatest machine word as the size: there is no text, but a
fault, even on a machine with memory for any number of bytes. -/
theorem fault_of_greatest_size :
    let bytes := Utf8.encode "hello\n\n"
    let t := FileTree.empty.changes [.file "f" bytes]
    let f : Path := "f"
    let greatest : Nat := 9223372036854775807
    let fits := fun _ : Nat => true
    f.hasNul = false ∧ t.read f = .ok bytes ∧ IsTextOf "hello" (bytes.take greatest) ∧
      (readSized t (some f) (.int greatest) fits).result = .error .sizeBeyondText ∧
      ¬∃ s, (readSized t (some f) (.int greatest) fits).result = .ok (some s) := by
  intro bytes t f greatest fits
  have hf : f.hasNul = false := by decide +kernel
  have hread : t.read f = .ok bytes := eq_ok_of_toOption (by decide +kernel)
  have htext : IsTextOf "hello" (bytes.take greatest) := by
    rw [List.take_of_length_le (by decide)]
    exact ⟨by decide, 2, by decide⟩
  have hresult : (readSized t (some f) (.int greatest) fits).result = .error .sizeBeyondText := by
    rw [readSized_of_textBound_le hf hread (by decide)]
    rfl
  refine ⟨hf, hread, htext, hresult, ?_⟩
  rintro ⟨s, hs⟩
  cases hresult.symm.trans hs

end Attribute
end PowerSupply
