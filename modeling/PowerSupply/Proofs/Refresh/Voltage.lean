/-
# The voltage after a refresh

The voltage comes third, after the presence and the level (`run_eq_voltage`), and the other
parts write other fields.  So no refresh writes a voltage but the one that the reading gives
by the divisor, and once it is written it stays, even if a later part stops the refresh
(`writesVoltage_of_millivolts`).

With an integer that is not zero as the divisor, the voltage is the whole quotient of the
number module.

* A reading of at most `2 ^ 53`, of either sign, is divided as exactly as an integer can be:
  the rounding of the quotient does not show (`voltage_of_exact_reading`).
* Every other reading that a file can hold has a voltage too, and the voltages of all
  readings are odd, increasing and precise to the last bit of the quotient
  (`voltage_of_reading`).
-/

import PowerSupply.Proofs.Number.Truncation
import PowerSupply.Proofs.Refresh.Level

namespace PowerSupply

/-- The files that are read before the voltage is written. -/
def AttributePaths.voltageFiles (p : AttributePaths) : List Path := p.levelFiles ++ p.voltage.toList

namespace Refresh

open Attribute (number)
open Binary64 (wholeQuotient)
open Refreshing (Makes WritesTo reading write)

variable {fs : List Field}

/-! ### The part that writes the voltage -/

/-- Reads the voltage and writes it. -/
def voltage (t : FileTree) (c : Configuration) : Refreshing Unit := do
  let raw ← reading (Attribute.readInt t c.paths.voltage)
  write (.voltage (.int (← .ofExcept (millivolts raw c.voltageDivisor))))

/-- The part of a refresh after the voltage. -/
def afterVoltage (t : FileTree) (c : Configuration) : Refreshing Unit := do
  write (.temperature (.int (← reading (Attribute.readInt t c.paths.temperature))))
  status t c.paths
  health t c.paths
  technology t c.paths
  chargers t c

/-- **The voltage stands between the early fields and the others.** -/
theorem run_eq_voltage (t : FileTree) (c : Configuration) :
    run t c = early t c.paths >>= fun _ => voltage t c >>= fun _ => afterVoltage t c := by
  simp only [run, early, voltage, afterVoltage, bind_assoc]

theorem writesTo_level (t : FileTree) (paths : AttributePaths) (h : Field.level ∈ fs) :
    WritesTo fs (level t paths) := by
  unfold level
  split
  · exact WritesTo.write h
  split
  · exact (WritesTo.reading _).seq fun _ => WritesTo.write h
  split
  · exact WritesTo.pure ()
  refine (WritesTo.reading _).seq fun _ => (WritesTo.reading _).seq fun _ => ?_
  split
  · exact WritesTo.pure ()
  refine (WritesTo.reading _).seq fun _ => (WritesTo.reading _).seq fun _ => ?_
  dsimp only
  split
  · exact WritesTo.note _
  · exact (WritesTo.write h).seq fun _ => WritesTo.note _

theorem writesTo_early (t : FileTree) (paths : AttributePaths) :
    WritesTo earlyFields (early t paths) := by
  have present : Field.present ∈ earlyFields := by decide
  exact (WritesTo.reading _).seq fun _ => (WritesTo.write present).seq fun _ =>
    writesTo_level t paths (by decide)

/-- The fields that are written after the voltage. -/
def fieldsAfterVoltage : List Field :=
  [.temperature, .status, .health, .technology, .acOnline, .usbOnline, .wirelessOnline]

theorem writesTo_afterVoltage (t : FileTree) (c : Configuration) :
    WritesTo fieldsAfterVoltage (afterVoltage t c) := by
  have temperature : Field.temperature ∈ fieldsAfterVoltage := by decide
  unfold afterVoltage
  refine (WritesTo.reading _).seq fun _ => (WritesTo.write temperature).seq fun _ => ?_
  refine (writesTo_status t _ (by decide)).seq fun _ => ?_
  refine (writesTo_health t _ (by decide)).seq fun _ => ?_
  refine (writesTo_technology t _ (by decide)).seq fun _ => ?_
  exact writesTo_chargers t c (by decide) (by decide) (by decide)

/-! ### The voltage that is written -/

variable {t : FileTree} {c : Configuration} {n : ℤ}

/-- Whether a refresh of the configuration writes the voltage `n` and no other. -/
structure WritesVoltage (t : FileTree) (c : Configuration) (n : ℤ) : Prop where
  /-- There is no write of another voltage, however the refresh ends. -/
  only : ∀ v, Write.voltage v ∈ Action.writes (run t c).events → v = .int n
  /-- Where the refresh gets to the voltage, this is the voltage of the snapshot afterwards,
  even if a later part stops the refresh. -/
  written : (∀ p ∈ c.paths.voltageFiles, p.hasNul = false) →
    ∀ (root : Path) (k : Constants) (source : ConstantSource) (snapshot : Snapshot),
      (Service.refresh (.ofRoot root) ⟨source, snapshot, .started k c⟩ t).1.snapshot.get?
        Field.voltage.name = some (.int n)

/-- **A voltage that is written** is the one that the reading gives by the divisor. -/
theorem millivolts_of_mem_writes {v : Json}
    (h : Write.voltage v ∈ Action.writes (run t c).events) :
    ∃ n, millivolts (number t c.paths.voltage) c.voltageDivisor = .ok n ∧ v = .int n := by
  obtain ⟨a, ha, hwrite⟩ := List.mem_filterMap.1 h
  cases a with
  | note m => cases hwrite
  | write w =>
    obtain rfl := Option.some.inj hwrite
    rw [run_eq_voltage] at ha
    -- it is a write of the second part, and of the last step of that
    rcases Trace.mem_events_bind ha with ha | ⟨_, -, ha⟩
    · exact absurd (writesTo_early t c.paths _ ha) (show Field.voltage ∉ earlyFields by decide)
    rcases Trace.mem_events_bind ha with ha | ⟨_, -, ha⟩
    · rcases Trace.mem_events_bind ha with ha | ⟨raw, hraw, ha⟩
      · exact absurd (WritesTo.reading (Attribute.readInt t c.paths.voltage) _ ha) List.not_mem_nil
      rcases Trace.mem_events_bind ha with ha | ⟨n, hn, ha⟩
      · cases ha
      · rw [Attribute.eq_number_of_readInt hraw] at hn
        cases List.mem_singleton.1 ha
        exact ⟨n, hn, rfl⟩
    · exact absurd (writesTo_afterVoltage t c _ ha)
        (show Field.voltage ∉ fieldsAfterVoltage by decide)

/-- **With a voltage** a refresh writes it and no other. -/
theorem writesVoltage_of_millivolts
    (h : millivolts (number t c.paths.voltage) c.voltageDivisor = .ok n) : WritesVoltage t c n := by
  refine ⟨fun v hv => ?_, fun hfiles root k source snapshot => ?_⟩
  · obtain ⟨m, hm, rfl⟩ := millivolts_of_mem_writes hv
    rw [Except.ok.inj (h.symm.trans hm)]
  · have hearly : Makes (early t c.paths) (earlyWrites t c.paths) () :=
      makes_early fun p hp => hfiles p (List.mem_append_left _ hp)
    have hraw : (Attribute.readInt t c.paths.voltage).result = .ok (number t c.paths.voltage) :=
      Attribute.result_readInt fun p hp =>
        hfiles p (List.mem_append_right _ (Option.mem_toList.2 hp))
    have hvoltage : Makes (voltage t c) [.voltage (.int n)] () :=
      Makes.reading_bind hraw ((Makes.ofExcept h).bind (Makes.write _))
    show (snapshot.writeAll k (Action.writes (run t c).events)).get? Field.voltage.name = _
    rw [run_eq_voltage, ← bind_assoc, WritesTo.get?_of_makes (fun _ => writesTo_afterVoltage t c)
      (hearly.bind hvoltage) k snapshot (by decide)]
    have hlast : Write.left? k .voltage (earlyWrites t c.paths ++ [.voltage (.int n)]) =
        some (.int n) := Last.last?_concat _ _ _
    rw [hlast, Option.some_or]

/-! ### With an integer as the divisor -/

variable {b : ℤ}

/-- **The voltage by an integer is a whole quotient**, of every reading that a file can hold. -/
theorem quotient_eq_wholeQuotient {a : ℤ} (hb : b ≠ 0)
    (ha : a.natAbs < Nat.pow 10 Attribute.textLimit) : quotient a b = .ok (wholeQuotient a b) := by
  have hlog : a.natAbs.log2 < 1000 :=
    Nat.lt_of_le_of_lt (Attribute.log2_le_of_lt_pow ha) (by decide)
  unfold quotient
  rw [if_neg hb, Binary64.trunc?_ofQuotient hb hlog]

theorem writesVoltage_wholeQuotient (hd : c.voltageDivisor = .int b) (hb : b ≠ 0) (t : FileTree) :
    WritesVoltage t c (wholeQuotient (number t c.paths.voltage) b) := by
  refine writesVoltage_of_millivolts ?_
  rw [hd, millivolts_int]
  exact quotient_eq_wholeQuotient hb (Attribute.natAbs_number_lt t _)

/-- **A reading of at most `2 ^ 53`, of either sign, is divided exactly** by an integer that
is not zero: what is written is the quotient of the integers, truncated toward zero.

The quotient is rounded to a number of the format.  None of these is nearer to it, and if
another one is as near, the mantissa is even.  The rounded number is not below the integer
part of the quotient, and it is below the next integer, also where the quotient falls short
of that by the least that it can. -/
theorem voltage_of_exact_reading (hd : c.voltageDivisor = .int b) (hb : b ≠ 0)
    (ha : (number t c.paths.voltage).natAbs ≤ 2 ^ 53) :
    let a : ℤ := number t c.paths.voltage
    let size : ℚ := (a.natAbs : ℚ) / b.natAbs
    WritesVoltage t c (Int.tdiv a b) ∧
      ∃ negative m e, Binary64.ofQuotient a b = .finite negative m e ∧
        (∀ y, Binary64.Representable y → |(m : ℚ) * 2 ^ e - size| ≤ |y - size| ∧
          (|y - size| = |(m : ℚ) * 2 ^ e - size| → y ≠ m * 2 ^ e → Even m)) ∧
        ((a.natAbs / b.natAbs : ℕ) : ℚ) ≤ m * 2 ^ e ∧
        (m : ℚ) * 2 ^ e < (a.natAbs / b.natAbs : ℕ) + 1 := by
  intro a size
  have hsize : 0 < b.natAbs := Int.natAbs_pos.2 hb
  have hlog : a.natAbs.log2 < 1000 :=
    Nat.lt_of_le_of_lt (Attribute.log2_number_le t _) (by decide)
  obtain ⟨m, e, heq, hvalue, heven⟩ :=
    Binary64.exists_ofRatio (decide (a < 0) != decide (b < 0)) hsize hlog
  have hfloor : ⌊Binary64.rounded a.natAbs b.natAbs⌋₊ = a.natAbs / b.natAbs :=
    Binary64.floor_rounded_eq_div hsize ha
  refine ⟨?_, _, m, e, heq, fun y hy => ?_, ?_⟩
  · rw [← Binary64.wholeQuotient_eq_tdiv hb ha]
    exact writesVoltage_wholeQuotient hd hb t
  · rw [← hvalue]
    exact ⟨Binary64.rounded_nearest a.natAbs hsize hy,
      fun htie hne => heven (Binary64.even_roundedMantissa hsize hy hne htie)⟩
  · rw [← hvalue]
    exact (Nat.floor_eq_iff (Binary64.rounded_nonneg _ _)).1 hfloor

/-- A reading that is one above three times a negative integer: the quotient is a third above
that integer, and is truncated to the one that follows it. -/
theorem voltage_just_off_an_integer :
    let c : Configuration :=
      { root := "ps", voltageDivisor := .int 3,
        paths := { voltage := some "ps/BAT0/voltage_now" } }
    let t := FileTree.empty.changes [.device "ps/BAT0" [("voltage_now", "-9007199254740989 uV")]]
    let k : Constants := ⟨fun _ => 1, fun _ => 2⟩
    let done := Service.refresh (.ofRoot "ps") ⟨.standard, .initial, .started k c⟩ t
    c.voltageDivisor = .int 3 ∧ (3 : ℤ) ≠ 0 ∧
      number t c.paths.voltage = 3 * -3002399751580330 + 1 ∧
      (number t c.paths.voltage).natAbs ≤ 2 ^ 53 ∧
      done.1.snapshot.get? "voltage_millivolts" = some (.int (-3002399751580329)) := by
  intro c t k done
  obtain ⟨files, reading⟩ : (∀ p ∈ c.paths.voltageFiles, p.hasNul = false) ∧
      number t c.paths.voltage = -9007199254740989 := by
    decide +kernel
  have size : (number t c.paths.voltage).natAbs ≤ 2 ^ 53 := by
    rw [reading]
    decide
  obtain ⟨hvoltage, -⟩ := voltage_of_exact_reading (c := c) (b := 3) rfl (by decide) size
  refine ⟨rfl, by decide, reading, size, ?_⟩
  have hwritten := hvoltage.written files "ps" k .standard .initial
  rw [reading] at hwritten
  exact hwritten

/-- **The voltages of all readings** that a file can hold, by an integer that is not zero.

There always is a voltage, and it is the truncated quotient.  The opposite reading has the
opposite voltage, a higher one has no lower voltage if the divisor is positive, and the
voltage times the divisor misses the reading by less than the divisor and a `2 ^ 53`-th of
the reading.  A voltage that is not zero has the sign of the quotient. -/
theorem voltage_of_reading (hd : c.voltageDivisor = .int b) (hb : b ≠ 0) :
    ∃ v : ℤ → ℤ,
      (∀ t, (number t c.paths.voltage).natAbs < 10 ^ 128 ∧
        WritesVoltage t c (v (number t c.paths.voltage))) ∧
      (∀ a : ℤ, a.natAbs < 10 ^ 128 → quotient a b = .ok (v a)) ∧
      (∀ a, v (-a) = -v a) ∧
      (0 < b → ∀ a a', a ≤ a' → v a ≤ v a') ∧
      (∀ a, |(v a : ℚ) * b - a| < |(b : ℚ)| + |(a : ℚ)| / 2 ^ 53) ∧
      ∀ a, 0 ≤ v a * (a * b) := by
  refine ⟨fun a => wholeQuotient a b, fun t => ?_, fun a ha => quotient_eq_wholeQuotient hb ha,
    fun a => Binary64.wholeQuotient_neg a b, fun hpos a a' h => Binary64.wholeQuotient_mono hpos h,
    fun a => Binary64.abs_wholeQuotient_mul_sub_lt a hb,
    fun a => Binary64.wholeQuotient_mul_nonneg a b⟩
  exact ⟨Attribute.natAbs_number_lt t _, writesVoltage_wholeQuotient hd hb t⟩

/-- The least reading that is no number of the format: its voltage is off by one, and so is
that of the opposite reading. -/
theorem voltage_of_reading_beyond_format :
    let c : Configuration :=
      { root := "ps", voltageDivisor := .int 1,
        paths := { voltage := some "ps/BAT0/voltage_now" } }
    let t := FileTree.empty.changes [.device "ps/BAT0" [("voltage_now", "9007199254740993")]]
    let t' := FileTree.empty.changes [.device "ps/BAT0" [("voltage_now", "-9007199254740993")]]
    let k : Constants := ⟨fun _ => 1, fun _ => 2⟩
    let final (t : FileTree) : Option Json :=
      (Service.refresh (.ofRoot "ps") ⟨.standard, .initial, .started k c⟩ t).1.snapshot.get?
        "voltage_millivolts"
    c.voltageDivisor = .int 1 ∧ (1 : ℤ) ≠ 0 ∧
      final t = some (.int 9007199254740992) ∧ final t' = some (.int (-9007199254740992)) := by
  intro c t t' k final
  obtain ⟨files, reading, reading'⟩ : (∀ p ∈ c.paths.voltageFiles, p.hasNul = false) ∧
      number t c.paths.voltage = 9007199254740993 ∧
      number t' c.paths.voltage = -9007199254740993 := by
    decide +kernel
  obtain ⟨v, hvoltage, hquotient, hodd, -⟩ := voltage_of_reading (c := c) (b := 1) rfl (by decide)
  have hv : v 9007199254740993 = 9007199254740992 := by
    have computed : quotient 9007199254740993 1 = .ok 9007199254740992 :=
      eq_ok_of_toOption (by decide +kernel)
    exact Except.ok.inj ((hquotient 9007199254740993 (by decide)).symm.trans computed)
  refine ⟨rfl, by decide, ?_, ?_⟩
  · have hwritten := (hvoltage t).2.written files "ps" k .standard .initial
    rw [reading, hv] at hwritten
    exact hwritten
  · have hwritten := (hvoltage t').2.written files "ps" k .standard .initial
    rw [reading', hodd, hv] at hwritten
    exact hwritten

end Refresh
end PowerSupply
