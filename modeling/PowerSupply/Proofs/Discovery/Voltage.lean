/-
# Where the voltage comes from

A voltage file has its own unit, so a configuration keeps the file together with what
its content is divided by (`voltagePair`).  Discovery takes both from one battery, the
last that has a voltage file of either spelling (`voltage_from_last_battery`).

A scan that goes on over chargers, unknown devices and batteries without a voltage file
leaves the pair as it is (`voltagePair_of_scan`), so no file ever meets the divisor of
another battery.
-/

import PowerSupply.FileTree.Change
import PowerSupply.Proofs.Discovery.Scan

namespace PowerSupply

/-- The voltage file of a configuration, and what its content is divided by. -/
def Configuration.voltagePair (c : Configuration) : Option Path × Json :=
  (c.paths.voltage, c.voltageDivisor)

/-- The pair that a voltage file amounts to; without one the divisor is one. -/
def VoltageFile.pair : Option VoltageFile → Option Path × Json
  | none => (none, .int 1)
  | some v => (some v.path, .int v.divisor)

namespace Discovery

open Attribute (Readable text?)

/-- Whether a device has a voltage file of either spelling. -/
def HasVoltage (t : FileTree) (device : Path) : Prop :=
  Readable t (device / "voltage_now") ∨ Readable t (device / "batt_vol")

instance (t : FileTree) (device : Path) : Decidable (HasVoltage t device) :=
  inferInstanceAs (Decidable (_ ∨ _))

variable {t : FileTree} {root device : Path}

/-- The pair of what devices offer together is that of their voltage file. -/
theorem voltagePair_of_offer {c : Configuration} {o : Offer} (hp : c.paths = o.paths)
    (hd : c.voltageDivisor = .int o.divisor) : c.voltagePair = VoltageFile.pair o.voltage := by
  unfold Configuration.voltagePair
  rw [hp, hd]
  unfold Offer.paths Offer.divisor
  rcases o.level with _ | _ | _ | _ <;> cases o.voltage <;> rfl

theorem voltage?_eq_none_iff : voltage? t device = none ↔ ¬HasVoltage t device := by
  unfold voltage? HasVoltage
  split_ifs with h₁ h₂ <;> simp_all

/-- The pair of a device with a voltage file: the microvolts go before the millivolts. -/
theorem pair_voltage? (h : HasVoltage t device) :
    VoltageFile.pair (voltage? t device) =
      if Readable t (device / "voltage_now") then (some (device / "voltage_now"), .int 1000)
      else (some (device / "batt_vol"), .int 1) := by
  unfold voltage?
  by_cases hn : Readable t (device / "voltage_now")
  · rw [if_pos hn, if_pos hn]
    rfl
  · rw [if_neg hn, if_neg hn, if_pos (h.resolve_left hn)]
    rfl

theorem voltage_gathered :
    (gathered t root).voltage =
      last? (fun name : String => voltage? t (root / name)) (batteries t root) :=
  gathered_eq_last? (·.voltage) (fun _ _ => rfl) rfl

/-- The divisor of a configuration is a thousand or one, so it is never zero. -/
theorem divisor_of_run {c : Configuration} (h : (run t root).result = .ok c) :
    ∃ d : Int, c.voltageDivisor = .int d ∧ d ≠ 0 := by
  obtain ⟨-, -, hd⟩ := configuration_of_run h
  refine ⟨_, hd, ?_⟩
  unfold Offer.divisor
  cases hv : (gathered t root).voltage with
  | none => decide
  | some v =>
    rw [voltage_gathered] at hv
    obtain ⟨name, -, hv⟩ := Last.exists_mem_of_last? hv
    unfold voltage? at hv
    split_ifs at hv <;> cases hv <;> simp

/-- **A scan over devices without a voltage file** changes neither the file nor the
divisor, whatever kinds the devices are of. -/
theorem voltagePair_of_scan {names : List String} {found found' : Findings}
    (h : (names.foldlM (visit t root) found).result = .ok found')
    (hv : ∀ name ∈ names, kind t (root / name) = .battery → ¬HasVoltage t (root / name)) :
    (configuration root found').voltagePair = (configuration root found).voltagePair := by
  obtain rfl := Trace.foldl_of_result_foldlM (fun name _ _ _ hs => eq_after_of_visit hs) h
  have hnone : ∀ name ∈ names.filter fun name : String =>
      text? t (root / name / "type") = some "Battery", (offerOf t (root / name)).voltage = none := by
    intro name hn
    obtain ⟨hn, hb⟩ := List.mem_filter.1 hn
    exact voltage?_eq_none_iff.2 (hv name hn (kind_eq_battery_iff.2 (of_decide_eq_true hb)))
  have hlast := @quantity_foldl t root _ (·.voltage) (fun _ _ => rfl)
    (names.filter fun name : String => text? t (root / name / "type") = some "Battery") found.offer
  rw [voltagePair_of_offer rfl rfl, voltagePair_of_offer rfl rfl, offer_foldl_after, hlast,
    Last.last?_eq_none_iff.2 hnone, Option.none_or]

/-- **The voltage comes from the last battery with a voltage file**, the batteries taken
in ascending order of name, and it comes with the divisor of that file: a thousand for
microvolts, which go first, and one for millivolts.  Without such a battery there is no
file and the divisor is one.  Further devices change neither, unless one is a battery
with a voltage file. -/
theorem voltage_from_last_battery {c : Configuration} (h : (run t root).result = .ok c) :
    (batteries t root).Pairwise (· < ·) ∧
      ((∀ name ∈ batteries t root, ¬HasVoltage t (root / name)) →
        c.voltagePair = (none, .int 1)) ∧
      (∀ before (name : String) after, batteries t root = before ++ name :: after →
        HasVoltage t (root / name) → (∀ later ∈ after, ¬HasVoltage t (root / later)) →
          c.voltagePair =
            if Readable t (root / name / "voltage_now") then
              (some (root / name / "voltage_now"), .int 1000)
            else (some (root / name / "batt_vol"), .int 1)) ∧
      ∀ (names : List String) (found found' : Findings),
        (names.foldlM (visit t root) found).result = .ok found' →
        (∀ name ∈ names, kind t (root / name) = .battery → ¬HasVoltage t (root / name)) →
          (configuration root found').voltagePair = (configuration root found).voltagePair := by
  obtain ⟨-, hp, hd⟩ := configuration_of_run h
  have hpair := voltagePair_of_offer hp hd
  rw [voltage_gathered] at hpair
  refine ⟨(pairwise_devices t root).filter _, fun hnone => ?_, fun before name after hb hn ha => ?_,
    fun _ _ _ => voltagePair_of_scan⟩
  · rw [hpair, Last.last?_eq_none_iff.2 fun name hn => voltage?_eq_none_iff.2 (hnone name hn)]
    rfl
  · have hlast : last? (fun name : String => voltage? t (root / name)) (batteries t root) =
        voltage? t (root / name) := by
      rw [hb, Last.last?_append, Last.last?_cons,
        Last.last?_eq_none_iff.2 fun later hl => voltage?_eq_none_iff.2 (ha later hl), Option.none_or]
      cases hv : voltage? t (root / name) with
      | none => exact absurd hn (voltage?_eq_none_iff.1 hv)
      | some v => rfl
    rw [hpair, hlast, pair_voltage? hn]

/-- Four batteries and a charger: the third battery has both spellings and the last has
neither, so the voltage is in microvolts although the battery before has millivolts. -/
theorem voltage_from_third_of_four :
    let t := FileTree.empty.changes
      [.device "ps/BAT0" [("type", "Battery"), ("batt_vol", "3700")],
        .device "ps/BAT1" [("type", "Battery"), ("batt_vol", "3800")],
        .device "ps/BAT2" [("type", "Battery"), ("batt_vol", "3900"), ("voltage_now", "4200000")],
        .device "ps/BAT3" [("type", "Battery"), ("capacity", "7")],
        .device "ps/USB" [("type", "USB"), ("voltage_now", "5000000"), ("online", "1")]]
    ∃ c, (run t "ps").result = .ok c ∧
      c.voltagePair = (some (Path.ofText "ps/BAT2/voltage_now"), .int 1000) := by
  intro t
  obtain ⟨c, hc, -⟩ := exists_ok_of_any (x := (run t "ps").result) (p := fun _ => true)
    (by decide +kernel)
  have hb : batteries t "ps" = ["BAT0", "BAT1"] ++ "BAT2" :: ["BAT3"] := by decide +kernel
  have hn : HasVoltage t ("ps" / "BAT2" : Path) ∧ Readable t ("ps" / "BAT2" / "voltage_now" : Path) ∧
      ∀ later ∈ ["BAT3"], ¬HasVoltage t ("ps" / (later : String) : Path) := by decide +kernel
  obtain ⟨-, -, hlast, -⟩ := voltage_from_last_battery hc
  refine ⟨c, hc, (hlast _ _ _ hb hn.1 hn.2.2).trans ?_⟩
  rw [if_pos hn.2.1]
  exact congrArg (fun p : Path => (some p, Json.int 1000)) (by decide +kernel)

end Discovery
end PowerSupply
