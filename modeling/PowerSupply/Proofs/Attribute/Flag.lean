/-
# The two readings of a flag

What counts as on is said by one rule, but two readings follow it: whether a battery is
present is read from the first 16 bytes of a file, and whether a charger is online
(`readState`, by which `Refresh.charger` goes on to the type or not: `charger_eq_bind`) from
the first 128.

Newlines at the end are no part of a text.  So the rule comes down to the bytes that were
read: one of them is no newline, and the first of all is not a zero (`isOn_textOf_iff`).  The
first byte is the same for both readings.  Hence they differ only where the shorter one finds
nothing but newlines and the longer one finds something behind them (`StartsLate`), and then
it is the longer one that is on (`flag_and_state_of_content`).
-/

import Mathlib.Data.List.DropRight
import PowerSupply.Proofs.Attribute.Word
import PowerSupply.Proofs.Refresh.Online

namespace PowerSupply
namespace Attribute

/-! ### The reading of the state of a charger -/

/-- Whether the state of a charger is on. -/
def readState (t : FileTree) (p : Path) : Logged Bool := do
  return isOn (← read t (some p))

end Attribute

namespace Refresh

/-- What is online after a charger that is: its type is read and added. -/
def addType (t : FileTree) (c : Configuration) (online : Online) (name : String) :
    Refreshing Online := do
  let type ← Refreshing.reading (Attribute.read t (some (c.chargerFile name "type")))
  match SupplyType.ofText type with
  | .ac => return { online with ac := true }
  | .usb => return { online with usb := true }
  | .wireless => return { online with wireless := true }
  | _ =>
    .emit (.note (.unclearCharger name))
    return online

/-- **A charger counts where its state is on**, and is passed over where it is not. -/
theorem charger_eq_bind (t : FileTree) (c : Configuration) (online : Online) (name : String) :
    charger t c online name =
      Refreshing.reading (Attribute.readState t (c.chargerFile name "online")) >>= fun on =>
        if on then addType t c online name else pure online := by
  unfold charger Attribute.readState Refreshing.reading
  rw [Trace.mapEvents_bind, bind_assoc]
  refine bind_congr fun state => ?_
  rw [Trace.mapEvents_pure, Trace.pure_bind]
  cases Attribute.isOn state <;> rfl

end Refresh

namespace Attribute

/-! ### What is on, in bytes -/

/-- **A text is empty** where there was nothing but newlines. -/
theorem stripNewlines_eq_nil_iff {s : List Char} : stripNewlines s = [] ↔ ∀ c ∈ s, c = '\n' := by
  have h : stripNewlines s = s.rdropWhile (· = '\n') := rfl
  rw [h, List.rdropWhile_eq_nil_iff]
  simp only [decide_eq_true_eq]

/-- **A text that is not empty** starts as what it was made of. -/
theorem head?_stripNewlines {s : List Char} (h : stripNewlines s ≠ []) :
    (stripNewlines s).head? = s.head? := by
  have happend := stripNewlines_append s
  obtain ⟨c, r, hr⟩ := List.exists_cons_of_ne_nil h
  rw [hr] at happend ⊢
  rw [happend]
  rfl

theorem byteChar_eq_newline_iff {b : UInt8} : byteChar b = '\n' ↔ b = 10 :=
  byteChar_eq_iff (by decide)

theorem byteChar_eq_zero_iff {b : UInt8} : byteChar b = '0' ↔ b = 48 :=
  byteChar_eq_iff (by decide)

/-- **Bytes are on** where one of them is no newline and the first is not the digit zero. -/
theorem isOn_textOf_iff {bytes : List UInt8} :
    isOn (some (textOf bytes)) = true ↔ (∃ b ∈ bytes, b ≠ 10) ∧ bytes.head? ≠ some 48 := by
  have hempty : textOf bytes ≠ "" ↔ stripNewlines (bytes.map byteChar) ≠ [] := by
    unfold textOf
    rw [ne_eq, String.ofList_eq_empty_iff]
  have hnewlines : stripNewlines (bytes.map byteChar) ≠ [] ↔ ∃ b ∈ bytes, b ≠ 10 := by
    rw [ne_eq, stripNewlines_eq_nil_iff]
    simp [byteChar_eq_newline_iff]
  rw [isOn_eq_true_iff]
  simp only [Option.some.injEq, exists_eq_left', hempty, hnewlines]
  refine and_congr_right fun h => not_congr ?_
  have hhead : (textOf bytes).toList.head? = bytes.head?.map byteChar := by
    unfold textOf
    rw [String.toList_ofList, head?_stripNewlines (hnewlines.2 h), List.head?_map]
  rw [hhead]
  cases bytes.head? with
  | none => simp
  | some b => simp [byteChar_eq_zero_iff]

/-! ### Where the two readings differ -/

/-- Bytes that start with newlines, as many as are read of a flag, and go on with something
else as far as a text is read. -/
def StartsLate (bytes : List UInt8) : Prop :=
  (∀ b ∈ bytes.take 16, b = 10) ∧ ∃ b ∈ (bytes.drop 16).take 112, b ≠ 10

instance (bytes : List UInt8) : Decidable (StartsLate bytes) :=
  inferInstanceAs (Decidable (_ ∧ _))

/-- The longer reading is on where the shorter one is, and where the bytes start late. -/
theorem isOn_take_iff (bytes : List UInt8) :
    isOn (some (textOf (bytes.take textLimit))) = true ↔
      isOn (some (textOf (bytes.take flagLimit))) = true ∨ StartsLate bytes := by
  have hsplit : bytes.take textLimit = bytes.take flagLimit ++ (bytes.drop 16).take 112 :=
    List.take_add (i := 16) (j := 112)
  have hhead : (bytes.take textLimit).head? = (bytes.take flagLimit).head? := by
    cases bytes <;> rfl
  have hlong : (∃ b ∈ bytes.take textLimit, b ≠ 10) ↔
      (∃ b ∈ bytes.take flagLimit, b ≠ 10) ∨ ∃ b ∈ (bytes.drop 16).take 112, b ≠ 10 := by
    simp only [hsplit, List.mem_append, or_and_right, exists_or]
  have hzero : (bytes.take flagLimit).head? = some 48 → ∃ b ∈ bytes.take flagLimit, b ≠ 10 :=
    fun h => ⟨48, List.mem_of_head? h, by decide⟩
  have hlate : StartsLate bytes ↔
      ¬(∃ b ∈ bytes.take flagLimit, b ≠ 10) ∧ ∃ b ∈ (bytes.drop 16).take 112, b ≠ 10 := by
    simp only [StartsLate, flagLimit, not_exists, not_and, not_not, ne_eq]
  rw [isOn_textOf_iff, isOn_textOf_iff, hhead, hlong, hlate]
  constructor
  · rintro ⟨hshort | hlater, hne⟩
    · exact .inl ⟨hshort, hne⟩
    · by_cases hshort : ∃ b ∈ bytes.take flagLimit, b ≠ 10
      · exact .inl ⟨hshort, hne⟩
      · exact .inr ⟨hshort, hlater⟩
  · rintro (⟨hshort, hne⟩ | ⟨hshort, hlater⟩)
    · exact ⟨.inl hshort, hne⟩
    · exact ⟨.inr hlater, fun h => hshort (hzero h)⟩

/-- A flag is off where the bytes start late. -/
theorem isOn_take_of_startsLate {bytes : List UInt8} (h : StartsLate bytes) :
    isOn (some (textOf (bytes.take flagLimit))) = false := by
  rw [Bool.eq_false_iff, ne_eq, isOn_textOf_iff]
  rintro ⟨⟨b, hb, hne⟩, -⟩
  exact hne (h.1 b hb)

/-- The state of a charger is what its text says. -/
theorem result_readState {t : FileTree} {p : Path} (hp : p.hasNul = false) :
    (readState t p).result = .ok (isOn (text? t p)) :=
  Trace.result_bind_ok _ (result_read hp)

/-- The flag at a path is what its shorter text says. -/
theorem result_readFlag_some {t : FileTree} {p : Path} (hp : p.hasNul = false) :
    (readFlag t (some p)).result = .ok (isOn (text? t p flagLimit)) :=
  result_readFlag fun _ h => Option.some.inj h ▸ hp

/-- A path with a NUL character is a fault for both. -/
theorem fault_of_hasNul {p : Path} (hp : p.hasNul = true) (t : FileTree) :
    (readFlag t (some p)).result = .error .embeddedNul ∧
      (readState t p).result = .error .embeddedNul :=
  ⟨Trace.result_bind_error _ (result_read_of_hasNul hp),
    Trace.result_bind_error _ (result_read_of_hasNul hp)⟩

/-- **The two readings of a flag differ only where a file starts late.**  Of the same content
they say the same, unless the first 16 bytes are newlines and one of the next 112 is there and
is none: then the flag is off and the state of a charger is on.  Of a file that cannot be
read both say no, and a path that cannot be asked for is a fault for both.  It is by the
reading of its state that a charger counts. -/
theorem flag_and_state_of_content {t t' : FileTree} {p q : Path} (hp : p.hasNul = false)
    (hq : q.hasNul = false) :
    (∀ bytes, t.read p = .ok bytes → t'.read q = .ok bytes →
      ∃ flag state, (readFlag t (some p)).result = .ok flag ∧
        (readState t' q).result = .ok state ∧
          (flag ≠ state ↔ StartsLate bytes) ∧
          (StartsLate bytes → flag = false ∧ state = true)) ∧
      ((∀ bytes, t.read p ≠ .ok bytes) → (readFlag t (some p)).result = .ok false) ∧
      ((∀ bytes, t'.read q ≠ .ok bytes) → (readState t' q).result = .ok false) ∧
      (∀ path : Path, path.hasNul = true → ∀ t, (readFlag t (some path)).result =
        .error .embeddedNul ∧ (readState t path).result = .error .embeddedNul) ∧
      ∀ c online name, Refresh.charger t' c online name =
        Refreshing.reading (readState t' (c.chargerFile name "online")) >>= fun on =>
          if on then Refresh.addType t' c online name else pure online := by
  refine ⟨fun bytes hread hread' => ?_, fun hread => ?_, fun hread => ?_,
    fun _ hnul => fault_of_hasNul hnul, Refresh.charger_eq_bind t'⟩
  · rw [result_readFlag_some hp, result_readState hq, text?_of_read hread, text?_of_read hread']
    have hiff := isOn_take_iff bytes
    have hlate : StartsLate bytes → isOn (some (textOf (bytes.take flagLimit))) = false ∧
        isOn (some (textOf (bytes.take textLimit))) = true :=
      fun h => ⟨isOn_take_of_startsLate h, hiff.2 (.inr h)⟩
    refine ⟨_, _, rfl, rfl, ⟨fun hne => ?_, fun h => ?_⟩, hlate⟩
    · -- where only one of them is on it is the longer one, as it is on wherever the other is
      by_contra hnot
      exact hne (Bool.eq_iff_iff.2
        ⟨fun h => hiff.2 (.inl h), fun h => (hiff.1 h).resolve_right hnot⟩)
    · rw [(hlate h).1, (hlate h).2]
      exact Bool.false_ne_true
  · rw [result_readFlag_some hp, text?_of_not_read hread]
    rfl
  · rw [result_readState hq, text?_of_not_read hread]
    rfl

/-- Sixteen newlines and a one behind them, and a file that is not there. -/
theorem flag_and_state_of_late_file :
    let bytes : List UInt8 := List.replicate 16 10 ++ [49, 10]
    let t := FileTree.empty.changes
      [.file "ps/BAT0/present" bytes, .file "ps/AC/online" bytes]
    let present : Path := "ps/BAT0/present"
    let online : Path := "ps/AC/online"
    present.hasNul = false ∧ online.hasNul = false ∧ t.read present = .ok bytes ∧
      t.read online = .ok bytes ∧ StartsLate bytes ∧
      (readFlag t (some present)).result = .ok false ∧ (readState t online).result = .ok true ∧
      (readFlag FileTree.empty (some present)).result = .ok false ∧
      (readState FileTree.empty online).result = .ok false := by
  intro bytes t present online
  have hp : present.hasNul = false := by decide +kernel
  have hq : online.hasNul = false := by decide +kernel
  have hread : t.read present = .ok bytes := eq_ok_of_toOption (by decide +kernel)
  have hread' : t.read online = .ok bytes := eq_ok_of_toOption (by decide +kernel)
  have late : StartsLate bytes := by decide +kernel
  have absent : ∀ {p : Path}, (FileTree.empty.read p).toOption.isNone = true →
      ∀ bytes, FileTree.empty.read p ≠ .ok bytes := by
    intro p h bytes hbytes
    rw [hbytes] at h
    cases h
  obtain ⟨hsame, -⟩ := @flag_and_state_of_content t t present online hp hq
  obtain ⟨flag, state, hflag, hstate, -, hvalues⟩ := hsame bytes hread hread'
  obtain ⟨rfl, rfl⟩ := hvalues late
  obtain ⟨-, hno, hno', -⟩ :=
    @flag_and_state_of_content FileTree.empty FileTree.empty present online hp hq
  exact ⟨hp, hq, hread, hread', late, hflag, hstate, hno (absent (by decide +kernel)),
    hno' (absent (by decide +kernel))⟩

end Attribute
end PowerSupply
