/-
# What an attribute says

A reading of an attribute has three ingredients: whether its path can be asked for
at all (it has no NUL character), whether it leads to a regular file, and the start
of that file.  `text?` is the text alone, without the log, and `Readable` is the
first two ingredients together.

Reading gives exactly `text?` (`result_read`), and asking whether a file is readable
answers yes exactly for `Readable` (`isReadable_eq_true_iff`).  So the two ways of
looking at a file agree (`isSome_text?`).
-/

import PowerSupply.Attribute
import PowerSupply.Proofs.Text.Integer
import PowerSupply.Proofs.Trace

namespace PowerSupply

/-- A path leads to a file that can be read exactly where it leads to a file. -/
theorem FileTree.read_eq_ok_iff {t : FileTree} {p : Path} {bytes : List UInt8} :
    t.read p = .ok bytes ↔ t.stat p = .ok (.file bytes) := by
  unfold FileTree.read
  cases h : t.stat p with
  | error e => simp [bind, Except.bind]
  | ok n => cases n <;> simp [bind, Except.bind]

namespace Attribute

/-- The text at a path, of the first `limit` bytes; there is none where the path leads
to no file. -/
def text? (t : FileTree) (p : Path) (limit : Nat := textLimit) : Option String :=
  match t.read p with
  | .ok bytes => some (textOf (bytes.take limit))
  | .error _ => none

/-- The text at a path by the content of the file. -/
theorem text?_of_read {t : FileTree} {p : Path} {bytes : List UInt8} (h : t.read p = .ok bytes)
    (limit : Nat) : text? t p limit = some (textOf (bytes.take limit)) := by
  unfold text?
  rw [h]

/-- A file that cannot be read has no text. -/
theorem text?_of_not_read {t : FileTree} {p : Path} (h : ∀ bytes, t.read p ≠ .ok bytes)
    (limit : Nat) : text? t p limit = none := by
  unfold text?
  cases hr : t.read p with
  | ok bytes => exact absurd hr (h bytes)
  | error e => rfl

/-- Whether a path can be asked for and leads to a regular file, through any links. -/
def Readable (t : FileTree) (p : Path) : Prop :=
  p.hasNul = false ∧ ∃ bytes, t.stat p = .ok (.file bytes)

theorem text?_eq_some_iff {t : FileTree} {p : Path} {limit : Nat} {s : String} :
    text? t p limit = some s ↔
      ∃ bytes, t.stat p = .ok (.file bytes) ∧ textOf (bytes.take limit) = s := by
  unfold text?
  cases h : t.read p with
  | ok bytes => simp [FileTree.read_eq_ok_iff.1 h]
  | error e =>
    have : ∀ bytes, t.stat p ≠ .ok (.file bytes) := by
      intro bytes hs
      rw [FileTree.read_eq_ok_iff.2 hs] at h
      cases h
    simp [this]

/-- There is a text exactly where there is a file. -/
theorem isSome_text? {t : FileTree} {p : Path} {limit : Nat} (hp : p.hasNul = false) :
    (text? t p limit).isSome ↔ Readable t p := by
  rw [Option.isSome_iff_exists]
  simp only [text?_eq_some_iff, Readable, hp, true_and]
  constructor
  · rintro ⟨_, bytes, hs, -⟩
    exact ⟨bytes, hs⟩
  · rintro ⟨bytes, hs⟩
    exact ⟨_, bytes, hs, rfl⟩

instance (t : FileTree) (p : Path) : Decidable (Readable t p) :=
  decidable_of_iff (p.hasNul = false ∧ (text? t p).isSome) <| by
    constructor
    · rintro ⟨hp, hs⟩
      exact (isSome_text? hp).1 hs
    · intro h
      exact ⟨h.1, (isSome_text? h.1).2 h⟩

/-- **The question whether a file is readable** is answered by yes exactly where the
path leads to a regular file. -/
theorem isReadable_eq_true_iff {t : FileTree} {p : Path} :
    isReadable t p = .ok true ↔ Readable t p := by
  unfold isReadable Readable
  cases hp : p.hasNul with
  | true => simp
  | false =>
    cases hs : t.stat p with
    | error e => cases e <;> simp
    | ok n => cases n <;> simp

/-- The answer to that question, where there is one. -/
theorem eq_decide_of_isReadable {t : FileTree} {p : Path} {b : Bool}
    (h : isReadable t p = .ok b) : b = decide (Readable t p) := by
  cases b with
  | true => exact (decide_eq_true (isReadable_eq_true_iff.1 h)).symm
  | false =>
    have : ¬Readable t p := fun hr => by
      rw [isReadable_eq_true_iff.2 hr] at h
      cases h
    exact (decide_eq_false this).symm

/-- A file that cannot be read is noted and has no text. -/
theorem read_of_error {t : FileTree} {p : Path} {e : FileError} (hp : p.hasNul = false)
    (he : t.read p = .error e) (limit : Option Nat) :
    read t (some p) limit = ⟨[.unreadable p e], .ok none⟩ := by
  unfold read
  simp only [hp, he, Bool.false_eq_true, if_false]
  rfl

/-- A file that can be read is read in silence. -/
theorem read_of_content {t : FileTree} {p : Path} {bytes : List UInt8} (hp : p.hasNul = false)
    (hb : t.read p = .ok bytes) (limit : Option Nat) :
    read t (some p) limit = pure (some (textOf (cut limit bytes))) := by
  unfold read
  simp only [hp, hb, Bool.false_eq_true, if_false]

/-- **A reading gives the text**, and only a NUL character keeps it from an answer. -/
theorem result_read {t : FileTree} {p : Path} {limit : Nat} (hp : p.hasNul = false) :
    (read t (some p) (some limit)).result = .ok (text? t p limit) := by
  unfold text?
  cases h : t.read p with
  | ok bytes => rw [read_of_content hp h]; rfl
  | error e => rw [read_of_error hp h]

theorem result_read_eq_ok_iff {t : FileTree} {p : Path} {limit : Nat} {x : Option String} :
    (read t (some p) (some limit)).result = .ok x ↔ p.hasNul = false ∧ x = text? t p limit := by
  cases hp : p.hasNul with
  | false => simp [result_read hp, eq_comm]
  | true => simp [read, hp]

/-- **A NUL character in the path is a fault**, whatever the tree holds. -/
theorem result_read_of_hasNul {t : FileTree} {p : Path} {limit : Nat} (hp : p.hasNul = true) :
    (read t (some p) (some limit)).result = .error .embeddedNul := by
  unfold read
  simp only [hp, if_true]
  rfl

theorem length_stripNewlines_le (s : List Char) : (stripNewlines s).length ≤ s.length := by
  unfold stripNewlines
  rw [List.length_reverse]
  exact Nat.le_trans (List.dropWhile_sublist _).length_le (Nat.le_of_eq s.length_reverse)

/-- **A text is no longer than the limit** on the bytes that were read for it. -/
theorem length_text?_le {t : FileTree} {p : Path} {limit : Nat} {s : String}
    (h : text? t p limit = some s) : s.toList.length ≤ limit := by
  obtain ⟨bytes, -, rfl⟩ := text?_eq_some_iff.1 h
  unfold textOf
  rw [String.toList_ofList]
  refine Nat.le_trans (length_stripNewlines_le _) ?_
  rw [List.length_map]
  exact List.length_take_le limit bytes

/-! ### What a path that may be unset says -/

/-- The text at a path that may be unset. -/
def said? (t : FileTree) (path : Option Path) (limit : Nat := textLimit) : Option String :=
  path.bind fun p => text? t p limit

/-- The text at a path that may be unset, if there is one that is not empty. -/
def words? (t : FileTree) (path : Option Path) : Option String :=
  (said? t path).filter fun s => s ≠ ""

/-- The integer that a text starts with, zero without one. -/
def integer (s : String) : Int := (Text.leading? s.toList).getD 0

/-- The integer that the text at a path starts with, zero without one. -/
def number (t : FileTree) (path : Option Path) : Int :=
  ((said? t path).map integer).getD 0

/-- Whether the flag at a path is on. -/
def flag (t : FileTree) (path : Option Path) : Bool := isOn (said? t path flagLimit)

variable {t : FileTree} {path : Option Path}

theorem result_read_said {limit : Nat} (h : ∀ p, path = some p → p.hasNul = false) :
    (read t path (some limit)).result = .ok (said? t path limit) := by
  cases path with
  | none => rfl
  | some p => exact result_read (h p rfl)

theorem words?_eq_ite (t : FileTree) (path : Option Path) :
    words? t path =
      if (said? t path).getD "" = "" then none else some ((said? t path).getD "") := by
  unfold words?
  cases said? t path with
  | none => rfl
  | some s => by_cases hs : s = "" <;> simp [hs]

theorem result_readFlag (h : ∀ p, path = some p → p.hasNul = false) :
    (readFlag t path).result = .ok (flag t path) :=
  Trace.result_bind_ok _ (result_read_said h)

/-- A text that may be unset is no longer than the limit either. -/
theorem length_said?_le {limit : Nat} {s : String} (h : said? t path limit = some s) :
    s.toList.length ≤ limit := by
  obtain ⟨p, -, hp⟩ := Option.bind_eq_some_iff.1 h
  exact length_text?_le hp

/-- **A text of a file never has too many digits.** -/
theorem leadingDigits_le_digitLimit {s : String} (h : s.toList.length ≤ textLimit) :
    Text.leadingDigits s.toList ≤ Text.digitLimit :=
  calc Text.leadingDigits s.toList ≤ s.toList.length := Text.leadingDigits_le_length _
    _ ≤ textLimit := h
    _ ≤ Text.digitLimit := by decide

theorem result_leadingInt? {text : Option String}
    (h : ∀ s, text = some s → s.toList.length ≤ textLimit) :
    (leadingInt? text).result = .ok (text.bind fun s => Text.leading? s.toList) := by
  unfold leadingInt?
  cases text with
  | none => rfl
  | some s =>
    dsimp only
    split
    · rename_i hs
      subst hs
      rfl
    · rw [Option.bind_some]
      cases hl : Text.leading? s.toList with
      | none => exact Trace.result_bind_ok _ (Trace.result_emit _)
      | some n =>
        dsimp only
        rw [if_neg (Nat.not_lt.2 (leadingDigits_le_digitLimit (h s rfl)))]
        rfl

/-- No text and the empty text have the integer zero. -/
theorem getD_leading? (text : Option String) :
    (text.bind fun s => Text.leading? s.toList).getD 0 = integer (text.getD "") := by
  cases text <;> rfl

theorem result_readInt (h : ∀ p, path = some p → p.hasNul = false) :
    (readInt t path).result = .ok (number t path) := by
  unfold readInt
  refine (Trace.result_bind_ok _ (result_read_said h)).trans ?_
  refine (Trace.result_bind_ok _ (result_leadingInt? fun s hs => length_said?_le hs)).trans ?_
  unfold number integer
  cases said? t path <;> rfl

/-- What reading an integer gives is the number of the path. -/
theorem eq_number_of_readInt {n : Int} (h : (readInt t path).result = .ok n) :
    n = number t path := by
  have readable : ∀ p, path = some p → p.hasNul = false := by
    rintro p rfl
    cases hp : p.hasNul with
    | false => rfl
    | true =>
      have hstops : (readInt t (some p)).result = .error .embeddedNul :=
        Trace.result_bind_error _ (result_read_of_hasNul hp)
      cases hstops.symm.trans h
  exact Except.ok.inj (h.symm.trans (result_readInt readable))

theorem result_decodeStatus (text : String) :
    (decodeStatus text).result = .ok ((Status.ofText? text).getD .unknown) := by
  unfold decodeStatus
  cases Status.ofText? text with
  | none => exact Trace.result_bind_ok _ (Trace.result_emit _)
  | some s => rfl

theorem result_decodeHealth (text : String) :
    (decodeHealth text).result = .ok ((Health.ofText? text).getD .unknown) := by
  unfold decodeHealth
  cases Health.ofText? text with
  | none => exact Trace.result_bind_ok _ (Trace.result_emit _)
  | some h => rfl

/-! ### What a reading notes -/

variable {P : Note → Prop}

/-- The only note of a reading is that a file cannot be read. -/
theorem forall_note_read (h : ∀ p e, P (.unreadable p e)) (t : FileTree) (path : Option Path)
    (limit : Option Nat) : ∀ n ∈ (read t path limit).events, P n := by
  intro n hn
  unfold read at hn
  cases path with
  | none => cases hn
  | some p =>
    dsimp only at hn
    split at hn
    · cases hn
    cases hr : t.read p with
    | ok bytes =>
      rw [hr] at hn
      cases hn
    | error e =>
      rw [hr] at hn
      obtain rfl := List.mem_singleton.1 hn
      exact h p e

/-- The only note on an integer is that there is none. -/
theorem forall_note_leadingInt? (h : ∀ s, P (.notNumeric s)) (text : Option String) :
    ∀ n ∈ (leadingInt? text).events, P n := by
  intro n hn
  unfold leadingInt? at hn
  cases text with
  | none => cases hn
  | some s =>
    dsimp only at hn
    split at hn
    · cases hn
    cases hl : Text.leading? s.toList with
    | some k =>
      rw [hl] at hn
      dsimp only at hn
      split at hn <;> cases hn
    | none =>
      rw [hl] at hn
      obtain rfl := List.mem_singleton.1 hn
      exact h s

/-- The only note on a status is that it is outside the vocabulary. -/
theorem forall_note_decodeStatus (h : ∀ s, P (.unknownStatus s)) (text : String) :
    ∀ n ∈ (decodeStatus text).events, P n := by
  intro n hn
  unfold decodeStatus at hn
  cases hs : Status.ofText? text with
  | some s =>
    rw [hs] at hn
    cases hn
  | none =>
    rw [hs] at hn
    obtain rfl := List.mem_singleton.1 hn
    exact h text

/-- The only note on a health is that it is outside the vocabulary. -/
theorem forall_note_decodeHealth (h : ∀ s, P (.unknownHealth s)) (text : String) :
    ∀ n ∈ (decodeHealth text).events, P n := by
  intro n hn
  unfold decodeHealth at hn
  cases hs : Health.ofText? text with
  | some s =>
    rw [hs] at hn
    cases hn
  | none =>
    rw [hs] at hn
    obtain rfl := List.mem_singleton.1 hn
    exact h text

/-! ### How large a number can be -/

/-- **A number in a file is below ten to the limit of a text.** -/
theorem natAbs_number_lt (t : FileTree) (path : Option Path) :
    (number t path).natAbs < Nat.pow 10 textLimit := by
  have zero : (0 : Int).natAbs < Nat.pow 10 textLimit := Nat.pow_pos (by decide)
  unfold number
  cases hs : said? t path with
  | none => exact zero
  | some s =>
    show (integer s).natAbs < _
    unfold integer
    cases hl : Text.leading? s.toList with
    | none => exact zero
    | some n =>
      exact Nat.lt_of_lt_of_le (Text.natAbs_lt_of_leading? hl)
        (Nat.pow_le_pow_right (by decide) (length_said?_le hs))

/-- An integer that a reading gives is below the same bound. -/
theorem natAbs_lt_of_read {text : Option String} {n : Int} (hr : (read t path).result = .ok text)
    (hi : (leadingInt? text).result = .ok (some n)) : n.natAbs < Nat.pow 10 textLimit := by
  have short : ∀ s, text = some s → s.toList.length ≤ textLimit := by
    rintro s rfl
    cases path with
    | none => cases hr
    | some p => exact length_text?_le (result_read_eq_ok_iff.1 hr).2.symm
  have hl : (text.bind fun s => Text.leading? s.toList) = some n :=
    Except.ok.inj ((result_leadingInt? short).symm.trans hi)
  obtain ⟨s, rfl, hs⟩ := Option.bind_eq_some_iff.1 hl
  exact Nat.lt_of_lt_of_le (Text.natAbs_lt_of_leading? hs)
    (Nat.pow_le_pow_right (by decide) (short s rfl))

/-- A decimal digit has at most four binary ones. -/
theorem log2_le_of_lt_pow {n m : Nat} (h : n < Nat.pow 10 m) : n.log2 ≤ 4 * m := by
  have hlt : n < Nat.pow 2 (4 * m) :=
    calc n < Nat.pow 10 m := h
      _ ≤ Nat.pow (Nat.pow 2 4) m := Nat.pow_le_pow_left (by decide) m
      _ = Nat.pow 2 (4 * m) := (Nat.pow_mul 2 4 m).symm
  by_cases hz : n = 0
  · rw [hz, Nat.log2_zero]
    exact Nat.zero_le _
  · exact Nat.le_of_lt ((Nat.log2_lt hz).2 hlt)

theorem log2_number_le (t : FileTree) (path : Option Path) :
    (number t path).natAbs.log2 ≤ 4 * textLimit :=
  log2_le_of_lt_pow (natAbs_number_lt t path)

end Attribute
end PowerSupply
