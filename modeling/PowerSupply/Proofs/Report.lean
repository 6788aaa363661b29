/-
# A report that never fails

A snapshot that has all the fields of `Field` can be shown, if its temperature is an
integer that divides to a finite number (`exists_snapshotText`).  The fields of a
snapshot are reported with their values, whatever its class (`get?_reported`), and the
two labels stand beside them (`get?_snapshotMembers`).
-/

import PowerSupply.Proofs.Number.Quotient
import PowerSupply.Report

namespace PowerSupply

/-- A field that is declared is reported with its value. -/
theorem Snapshot.get?_declared (s : Snapshot) (f : Field) (fs : List Field) :
    Json.Members.get? f.name (fs.filterMap fun g => (s.get? g.name).map (g.name, ·)) =
      if f ∈ fs then s.get? f.name else none := by
  induction fs with
  | nil => rfl
  | cons g fs ih =>
    by_cases hfg : f = g
    · subst hfg
      rw [if_pos (List.mem_cons_self ..), List.filterMap_cons]
      cases hv : s.get? f.name with
      | none =>
        rw [hv] at ih
        exact ih.trans (ite_self _)
      | some v => exact if_pos rfl
    · have hmem : f ∈ g :: fs ↔ f ∈ fs := by simp [hfg]
      rw [List.filterMap_cons]
      simp only [hmem]
      cases s.get? g.name with
      | none => exact ih
      | some v =>
        have hne : g.name ≠ f.name := fun h => hfg (Field.name_injective h).symm
        exact (if_neg hne).trans ih

/-- **Each field is reported with its value.** -/
theorem Snapshot.get?_reported (s : Snapshot) (f : Field) :
    Json.Members.get? f.name s.reported = s.get? f.name := by
  unfold Snapshot.reported
  split
  · rw [Snapshot.get?_declared, if_pos (Field.mem_all f)]
  · rfl

/-- **A binding finds all fields** in the snapshot. -/
theorem Constants.get?_of_bind {source : ConstantSource} {s : Snapshot} {k : Constants}
    (h : Constants.bind source s = .ok k) (f : Field) : ∃ v, s.get? f.name = some v := by
  unfold Constants.bind Constants.checkFields at h
  cases hk : Constants.ofSource source with
  | error e =>
    rw [hk] at h
    cases h
  | ok _ =>
    rw [hk] at h
    cases hm : s.missing with
    | cons g gs =>
      rw [hm] at h
      cases h
    | nil =>
      have hf := List.filter_eq_nil_iff.1 hm f (Field.mem_all f)
      cases hv : s.get? f.name with
      | none =>
        rw [hv] at hf
        exact absurd rfl hf
      | some v => exact ⟨v, rfl⟩

namespace Report

/-- **What is reported of a snapshot:** its fields, and the labels of its status and
health. -/
theorem get?_snapshotMembers (k : Constants) (s : Snapshot) :
    (∀ f : Field, Json.Members.get? f.name (snapshotMembers k s) = s.get? f.name) ∧
      Json.Members.get? "status_name" (snapshotMembers k s) =
        some (.str (k.statusLabel ((s.get? Field.status.name).getD .null))) ∧
      Json.Members.get? "health_name" (snapshotMembers k s) =
        some (.str (k.healthLabel ((s.get? Field.health.name).getD .null))) := by
  refine ⟨fun f => ?_, ?_, Json.Members.get?_set_self ..⟩
  · have hstatus : f.name ≠ "status_name" := by cases f <;> decide
    have hhealth : f.name ≠ "health_name" := by cases f <;> decide
    exact (Json.Members.get?_set_of_ne _ _ hhealth).trans
      ((Json.Members.get?_set_of_ne _ _ hstatus).trans (s.get?_reported f))
  · exact (Json.Members.get?_set_of_ne _ _ (by decide)).trans (Json.Members.get?_set_self ..)

theorem member_of_get? {ms : Json.Members} {key : String} {v : Json}
    (h : Json.Members.get? key ms = some v) : member ms key = .ok v := by
  unfold member
  rw [h]

/-- Tenths of a degree are shown, if there are less than a thousand binary digits of
them. -/
theorem exists_tenths {n : Int} (h : n.natAbs.log2 < 1000) : ∃ text, tenths n = .ok text := by
  obtain ⟨m, hm⟩ := Binary64.exists_trunc?_ofQuotient 10 h
  unfold tenths
  cases hq : Binary64.ofQuotient n 10 with
  | infinity negative =>
    rw [hq] at hm
    cases hm
  | nan => exact ⟨_, rfl⟩
  | finite negative mantissa exponent => exact ⟨_, rfl⟩

/-- **A complete snapshot is shown** to people, if its temperature is not too large. -/
theorem exists_snapshotText (k : Constants) {s : Snapshot}
    (hs : ∀ f : Field, ∃ v, s.get? f.name = some v) {n : Int}
    (hn : s.get? Field.temperature.name = some (.int n)) (h : n.natAbs.log2 < 1000) :
    ∃ text, snapshotText (snapshotMembers k s) = .ok text := by
  obtain ⟨fields, hstatus, hhealth⟩ := get?_snapshotMembers k s
  generalize snapshotMembers k s = ms at fields hstatus hhealth
  have field (f : Field) : ∃ v, member ms f.name = .ok v := by
    obtain ⟨v, hv⟩ := hs f
    exact ⟨v, member_of_get? ((fields f).trans hv)⟩
  obtain ⟨ac, hac⟩ : ∃ v, member ms "ac_online" = .ok v := field .acOnline
  obtain ⟨usb, husb⟩ : ∃ v, member ms "usb_online" = .ok v := field .usbOnline
  obtain ⟨wireless, hwireless⟩ : ∃ v, member ms "wireless_online" = .ok v := field .wirelessOnline
  obtain ⟨level, hlevel⟩ : ∃ v, member ms "level" = .ok v := field .level
  obtain ⟨present, hpresent⟩ : ∃ v, member ms "present" = .ok v := field .present
  obtain ⟨voltage, hvoltage⟩ : ∃ v, member ms "voltage_millivolts" = .ok v := field .voltage
  obtain ⟨technology, htechnology⟩ : ∃ v, member ms "technology" = .ok v := field .technology
  have temperature : member ms "temperature_tenths_celsius" = .ok (.int n) :=
    member_of_get? ((fields .temperature).trans hn)
  have statusName := member_of_get? hstatus
  have healthName := member_of_get? hhealth
  obtain ⟨degrees, hdegrees⟩ := exists_tenths h
  simp only [snapshotText, snapshotLines, sources, hac, husb, hwireless, hlevel, hpresent,
    hvoltage, htechnology, temperature, statusName, healthName, temperatureText, hdegrees, spaced,
    bind, Except.bind, pure, Except.pure]
  exact ⟨_, rfl⟩

end Report
end PowerSupply
