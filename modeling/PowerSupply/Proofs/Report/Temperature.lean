/-
# How a temperature is shown

A temperature is an integer of tenths of a degree, and `degrees` is its decimal in degrees.
Up to `2 ^ 52` tenths on either side of zero the report has exactly this decimal
(`temperatureText_int`), although it divides by ten in the binary format; and a decimal
belongs to one temperature (`degrees_injective`), so no two of these look alike.

Every report for people has the temperature in its fifth line (`exists_temperatureLine`), and a
snapshot with all its fields has a report (`temperature_of_report`).
-/

import PowerSupply.Proofs.Number.Tenths
import PowerSupply.Proofs.Report
import PowerSupply.Proofs.Text.Digits
import PowerSupply.Proofs.Trace

namespace PowerSupply
namespace Report

/-- Tenths of a degree as a decimal in degrees: a minus sign if they are negative, the whole
degrees, a point, and the tenths that are left. -/
def degrees (x : Int) : String :=
  String.ofList ((if x < 0 then ['-'] else []) ++ Nat.toDigits 10 (x.natAbs / 10) ++
    ['.', (x.natAbs % 10).digitChar])

/-- **A temperature is shown as its decimal**, up to `2 ^ 52` tenths. -/
theorem temperatureText_int {x : Int} (hx : x.natAbs ≤ 2 ^ 52) :
    temperatureText (.int x) = .ok (degrees x) := by
  have hlog : x.natAbs.log2 < 1000 := Binary64.log2_lt_of_le hx
  have hfixed := Binary64.fixed_ofRatio_ten (decide (x < 0)) hx
  obtain ⟨m, e, heq, -, -⟩ :=
    Binary64.exists_ofRatio (decide (x < 0)) (show 0 < 10 by omega) hlog
  have hquotient : Binary64.ofQuotient x 10 = .finite (decide (x < 0)) m e := by
    unfold Binary64.ofQuotient
    rw [show decide ((10 : Int) < 0) = false from rfl, Bool.bne_false]
    exact heq
  rw [heq] at hfixed
  unfold temperatureText tenths degrees
  simp only [hquotient, hfixed, decide_eq_true_eq]

/-- A decimal with a minus sign is none without one. -/
theorem minus_ne_toDigits (m n : Nat) : '-' :: Nat.toDigits 10 m ≠ Nat.toDigits 10 n := by
  intro h
  have hdigit : '-'.isDigit = true :=
    Text.isDigit_of_mem_toDigits (n := n) (h ▸ List.mem_cons_self ..)
  cases hdigit

/-- **A decimal belongs to one temperature.** -/
theorem degrees_injective {x y : Int} (h : degrees x = degrees y) : x = y := by
  unfold degrees at h
  obtain ⟨hwhole, htenth⟩ := List.append_inj' (String.ofList_injective h) rfl
  have htenths : x.natAbs % 10 = y.natAbs % 10 :=
    Text.digitChar_injective (by omega) (by omega) (List.cons.inj (List.cons.inj htenth).2).1
  by_cases hx : x < 0 <;> by_cases hy : y < 0
  · rw [if_pos hx, if_pos hy] at hwhole
    have := Text.toDigits_injective (List.cons.inj hwhole).2
    omega
  · rw [if_pos hx, if_neg hy] at hwhole
    exact absurd hwhole (minus_ne_toDigits _ _)
  · rw [if_neg hx, if_pos hy] at hwhole
    exact absurd hwhole.symm (minus_ne_toDigits _ _)
  · rw [if_neg hx, if_neg hy] at hwhole
    have := Text.toDigits_injective hwhole
    omega

/-- **Where the temperature stands in a report:** in the fifth line. -/
theorem exists_temperatureLine {ms : Json.Members} {text : String}
    (h : snapshotText ms = .ok text) :
    ∃ lines v shown, text = Text.unlines lines ∧ member ms "temperature_tenths_celsius" = .ok v ∧
      temperatureText v = .ok shown ∧ lines[4]? = some ("Temperature: " ++ shown ++ " C") := by
  obtain ⟨lines, hlines, htext⟩ := bind_eq_ok.1 h
  obtain ⟨on, -, hlines⟩ := bind_eq_ok.1 hlines
  obtain ⟨statusName, -, hlines⟩ := bind_eq_ok.1 hlines
  obtain ⟨status, -, hlines⟩ := bind_eq_ok.1 hlines
  obtain ⟨level, -, hlines⟩ := bind_eq_ok.1 hlines
  obtain ⟨present, -, hlines⟩ := bind_eq_ok.1 hlines
  obtain ⟨healthName, -, hlines⟩ := bind_eq_ok.1 hlines
  obtain ⟨health, -, hlines⟩ := bind_eq_ok.1 hlines
  obtain ⟨voltage, -, hlines⟩ := bind_eq_ok.1 hlines
  obtain ⟨v, hv, hlines⟩ := bind_eq_ok.1 hlines
  obtain ⟨shown, hshown, hlines⟩ := bind_eq_ok.1 hlines
  obtain ⟨technology, -, hlines⟩ := bind_eq_ok.1 hlines
  refine ⟨lines, v, shown, (Except.ok.inj htext).symm, hv, hshown, ?_⟩
  rw [← Except.ok.inj hlines]
  rfl

/-- **What a report says of the temperature.**  Up to `2 ^ 52` tenths of a degree it is the
decimal of the exact quotient by ten; a snapshot with all its fields has a report, with this
decimal in the fifth line; and two temperatures that are shown alike are the same. -/
theorem temperature_of_report {x : Int} (hx : |x| ≤ 2 ^ 52) :
    temperatureText (.int x) = .ok (degrees x) ∧
      (∀ (k : Constants) (s : Snapshot), (∀ f : Field, ∃ v, s.get? f.name = some v) →
        s.get? Field.temperature.name = some (.int x) →
          ∃ lines, snapshotText (snapshotMembers k s) = .ok (Text.unlines lines) ∧
            lines[4]? = some ("Temperature: " ++ degrees x ++ " C")) ∧
      ∀ y : Int, |y| ≤ 2 ^ 52 → temperatureText (.int y) = temperatureText (.int x) → y = x := by
  have size : ∀ {z : Int}, |z| ≤ 2 ^ 52 → z.natAbs ≤ 2 ^ 52 := fun hz => by
    rw [Int.abs_eq_natAbs] at hz
    exact_mod_cast hz
  refine ⟨temperatureText_int (size hx), fun k s complete hs => ?_, fun y hy h => ?_⟩
  · obtain ⟨text, htext⟩ :=
      exists_snapshotText k complete hs (Binary64.log2_lt_of_le (size hx))
    obtain ⟨lines, v, shown, rfl, hv, hshown, hline⟩ := exists_temperatureLine htext
    obtain rfl : v = .int x := Except.ok.inj (hv.symm.trans
      (member_of_get? (((get?_snapshotMembers k s).1 .temperature).trans hs)))
    obtain rfl : shown = degrees x :=
      Except.ok.inj (hshown.symm.trans (temperatureText_int (size hx)))
    exact ⟨lines, htext, hline⟩
  · rw [temperatureText_int (size hx), temperatureText_int (size hy)] at h
    exact degrees_injective (Except.ok.inj h)

/-- Seven tenths below zero in a snapshot that is complete, and a temperature near the bound,
where numbers of the binary format are a sixteenth apart and none of them is the quotient. -/
theorem temperature_of_cold_snapshot :
    let k : Constants := ⟨fun _ => 1, fun _ => 2⟩
    let s := Snapshot.initial.set Field.temperature.name (.int (-7))
    (∀ f : Field, ∃ v, s.get? f.name = some v) ∧
      s.get? Field.temperature.name = some (.int (-7)) ∧
      (∃ lines, snapshotText (snapshotMembers k s) = .ok (Text.unlines lines) ∧
        lines[4]? = some "Temperature: -0.7 C") ∧
      temperatureText (.int 4503599627370493) = .ok "450359962737049.3" ∧
      temperatureText (.int 4503599627370493) ≠ temperatureText (.int (-7)) := by
  intro k s
  have complete : ∀ f : Field, ∃ v, s.get? f.name = some v := by
    intro f
    cases f <;> exact ⟨_, rfl⟩
  obtain ⟨-, hreport, hsame⟩ := temperature_of_report (x := -7) (by decide)
  obtain ⟨hlarge, -, -⟩ := temperature_of_report (x := 4503599627370493) (by decide)
  obtain ⟨lines, htext, hline⟩ := hreport k s complete rfl
  have hcold : degrees (-7) = "-0.7" := by decide +kernel
  have hhigh : degrees 4503599627370493 = "450359962737049.3" := by decide +kernel
  rw [hcold] at hline
  rw [hhigh] at hlarge
  exact ⟨complete, rfl, ⟨lines, htext, hline⟩, hlarge,
    fun h => absurd (hsame 4503599627370493 (by decide) h) (by decide)⟩

end Report
end PowerSupply
