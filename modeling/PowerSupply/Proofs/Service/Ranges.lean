/-
# Which integers the fields of a snapshot hold

Status and health are integers of the owner, and the level is meant to be a percentage.
Over a history of updates of a new snapshot this comes to the following.

* The status is written by every update, so after each one that goes through it is the
  integer of a variant.  The health is written only where there is a text for it.  Until
  then it is the zero of a new snapshot, which need not stand for any variant
  (`status_and_health_of_updates`, `health_of_battery_without_health`).
* The level is always an integer, and nothing holds it between 0 and 100.  It is a
  percentage exactly where the amounts that it was made of last are plausible
  (`level_of_updates`, `level_of_overfull_battery`).
-/

import PowerSupply.Proofs.Number.Percentage
import PowerSupply.Proofs.Service.Updates

namespace PowerSupply

namespace Refresh

open Attribute (text? said? words? integer number)

/-- Whether the amounts that a tree gives for the level are plausible: the capacity is a
percentage, and the present amount of a pair is within the full one. -/
def Plausible (t : FileTree) (paths : AttributePaths) : Prop :=
  paths.present.isSome →
    (paths.capacity.isSome → Percentage (number t paths.capacity)) ∧
      ∀ now full, paths.levelPair = some (now, full) →
        Within (number t (some now)) (number t (some full))

/-- The quotient that a pair gives. -/
theorem ratio?_eq_some {t : FileTree} {now full : Path} {n : Int} (h : ratio? t now full = some n) :
    number t (some full) ≠ 0 ∧
      n = Int.fdiv (100 * number t (some now)) (number t (some full)) := by
  have number_eq : ∀ p, number t (some p) = integer ((text? t p).getD "") := by
    intro p
    unfold number said?
    rw [Option.bind_some]
    cases text? t p <;> rfl
  rw [ratio?_eq_ite] at h
  rw [number_eq now, number_eq full]
  split at h
  · cases h
  · split at h
    · cases h
    · rename_i hz
      exact ⟨hz, (Option.some.inj h).symm⟩

/-- A configuration with a capacity has no pair for the level. -/
theorem levelPair_of_capacity {paths : AttributePaths} (h : paths.capacity.isSome) :
    paths.levelPair = none := by
  unfold AttributePaths.levelPair AttributePaths.levelSource
  rw [if_pos h]

/-- **A level is a percentage** exactly where the amounts for it are plausible. -/
theorem percentage_levelOf_iff {t : FileTree} {paths : AttributePaths} {n : Int}
    (h : levelOf t paths = some n) : Percentage n ↔ Plausible t paths := by
  unfold levelOf at h
  unfold Plausible
  by_cases hp : paths.present.isNone
  · rw [if_pos hp] at h
    obtain rfl := Option.some.inj h
    have hsome : ¬paths.present.isSome := by simpa using hp
    exact iff_of_true (by decide) fun hs => absurd hs hsome
  · have hsome : paths.present.isSome := by simpa [Option.isSome_iff_ne_none] using hp
    rw [if_neg hp] at h
    by_cases hc : paths.capacity.isSome
    · rw [if_pos hc] at h
      obtain rfl := Option.some.inj h
      constructor
      · intro hn _
        refine ⟨fun _ => hn, fun now full hpair => ?_⟩
        rw [levelPair_of_capacity hc] at hpair
        cases hpair
      · intro hn
        exact (hn hsome).1 hc
    · rw [if_neg hc] at h
      obtain ⟨⟨now, full⟩, hpair, hratio⟩ := Option.bind_eq_some_iff.1 h
      obtain ⟨hz, rfl⟩ := ratio?_eq_some hratio
      rw [percentage_fdiv_iff hz]
      constructor
      · intro hw _
        refine ⟨fun hc' => absurd hc' hc, fun now' full' hpair' => ?_⟩
        obtain ⟨rfl, rfl⟩ := Prod.mk.inj (Option.some.inj (hpair.symm.trans hpair'))
        exact hw
      · intro hw
        exact (hw hsome).2 now full hpair

/-- **The last level of several trees**, or zero without any, is a percentage exactly
where the last tree that gives a level has plausible amounts for it. -/
theorem percentage_last_iff (paths : AttributePaths) (trees : List FileTree) :
    Percentage ((last? (fun t => levelOf t paths) trees).getD 0) ↔
      ∀ before t after, trees = before ++ t :: after → (levelOf t paths).isSome →
        (∀ u ∈ after, levelOf u paths = none) → Plausible t paths := by
  constructor
  · rintro h before t after htrees hsome hafter
    obtain ⟨n, hn⟩ := Option.isSome_iff_exists.1 hsome
    rw [Last.last?_eq_some_iff.2 ⟨before, t, after, htrees, hn, hafter⟩] at h
    exact (percentage_levelOf_iff hn).1 h
  · intro h
    cases hl : last? (fun t => levelOf t paths) trees with
    | none => decide
    | some n =>
      obtain ⟨before, t, after, htrees, ht, hafter⟩ := Last.last?_eq_some_iff.1 hl
      have hsome : (levelOf t paths).isSome := by simp [ht]
      exact (percentage_levelOf_iff ht).2 (h before t after htrees hsome hafter)

end Refresh

namespace Service

open Attribute (words?)
open Refresh (statusOf healthOf levelOf Plausible percentage_last_iff)

variable {source : ConstantSource} {k : Constants}

/-! ### Status and health -/

/-- What the last of several texts says of the health, or zero without any, is the integer
of a variant exactly where there is a text or zero stands for a variant. -/
theorem exists_health_iff (k : Constants) (path : Option Path) (trees : List FileTree) :
    (∃ h, ((last? (fun t => words? t path) trees).map
        fun text => k.health (healthOf text)).getD 0 = k.health h) ↔
      (∃ t ∈ trees, (words? t path).isSome) ∨ ∃ h, k.health h = 0 := by
  cases hl : last? (fun t => words? t path) trees with
  | some text =>
    obtain ⟨t, ht, hw⟩ := Last.exists_mem_of_last? hl
    exact iff_of_true ⟨healthOf text, rfl⟩ (.inl ⟨t, ht, by simp [hw]⟩)
  | none =>
    have hnone := Last.last?_eq_none_iff.1 hl
    constructor
    · rintro ⟨h, hh⟩
      exact .inr ⟨h, hh.symm⟩
    · rintro (⟨t, ht, hw⟩ | ⟨h, hh⟩)
      · rw [hnone t ht] at hw
        cases hw
      · exact ⟨h, hh.symm⟩

/-- **Status and health after an update that goes through**, at the end of any history of
updates of a new snapshot.

The status is the integer of the variant that the tree says.  The health is the integer of
the variant for the latest text since discovery, or the zero of a new snapshot if there was
no text.  So it is the integer of a variant exactly where there was a text or zero stands
for a variant. -/
theorem status_and_health_of_updates (hb : Constants.bind source .initial = .ok k) (root : Path)
    (earlier : List FileTree) (latest : FileTree)
    (hu : ((updateOver root (.idle source .initial) earlier).update
      (.ofRoot root) latest).2.2.result = .ok ()) :
    let trees := earlier ++ [latest]
    let final := updateOver root (.idle source .initial) trees
    ∃ c, final.configuration? = some c ∧
      final.snapshot.get? Field.status.name =
        some (.int (k.status (statusOf latest c.paths.status))) ∧
      final.snapshot.get? Field.health.name =
        some (.int (((last? (fun t => words? t c.paths.health) (sinceFound root trees)).map
          fun text => k.health (healthOf text)).getD 0)) ∧
      ((∃ h, final.snapshot.get? Field.health.name = some (.int (k.health h))) ↔
        (∃ t ∈ sinceFound root trees, (words? t c.paths.health).isSome) ∨ ∃ h, k.health h = 0) := by
  intro trees final
  have hlast : final = ((updateOver root (.idle source .initial) earlier).update
      (.ofRoot root) latest).1 := updateOver_concat ..
  obtain ⟨c, hc⟩ := exists_configuration_of_update hu
  rw [← hlast] at hc
  have hhealth := get?_updateOver_of_int (f := .health)
    (g := fun t => (words? t c.paths.health).map fun text => k.health (healthOf text))
    rfl hb hc rfl fun t => (Option.map_map _ _ _).symm
  rw [Last.last?_map] at hhealth
  refine ⟨c, hc, get?_updateOver_concat rfl hb hc rfl, hhealth, ?_⟩
  rw [hhealth]
  simp only [Option.some.injEq, Json.int.injEq]
  exact exists_health_iff k c.paths.health (sinceFound root trees)

/-- Constants from 40 on, a tree in which discovery fails, then one with a health and then
one that is full and says nothing of its health. -/
theorem status_and_health_of_three_trees :
    let source : ConstantSource := (ConstantSource.names.zipIdx 40).map fun x => (x.1, .int x.2)
    let k : Constants :=
      ⟨fun s => source.integer s.constantName, fun h => source.integer h.constantName⟩
    let t₁ := FileTree.empty.changes
      [.device "ps/BAT0" [("type", "Battery"), ("status", "Charging"), ("health", "Over voltage")],
        .link "ps/BAT0/technology" ⟨false, [String.ofList (List.replicate 256 'n')]⟩]
    let t₂ := t₁.changes [.remove "ps/BAT0/technology"]
    let t₃ := t₂.changes [.device "ps/BAT0" [("status", "Full")], .remove "ps/BAT0/health"]
    let final := updateOver "ps" (.idle source .initial) [t₁, t₂, t₃]
    Constants.bind source .initial = .ok k ∧
      ((updateOver "ps" (.idle source .initial) [t₁, t₂]).update (.ofRoot "ps") t₃).2.2.result =
        .ok () ∧
      final.snapshot.get? Field.status.name = some (.int 44) ∧
      final.snapshot.get? Field.health.name = some (.int 49) := by
  intro source k t₁ t₂ t₃ final
  have hb : Constants.bind source .initial = .ok k := rfl
  -- evaluated together, so that each tree is built once
  obtain ⟨hresult, hpaths, full, words⟩ :
      ((updateOver "ps" (.idle source .initial) [t₁, t₂]).update
        (.ofRoot "ps") t₃).2.2.result.toOption = some () ∧
      (final.configuration?.map fun c => (c.paths.status, c.paths.health)) =
        some (some ("ps/BAT0/status" : Path), some ("ps/BAT0/health" : Path)) ∧
      k.status (statusOf t₃ (some "ps/BAT0/status")) = 44 ∧
      (last? (fun t => words? t (some "ps/BAT0/health")) (sinceFound "ps" [t₁, t₂, t₃])).map
        (fun text => k.health (healthOf text)) = some 49 := by
    decide +kernel
  have hu : ((updateOver "ps" (.idle source .initial) [t₁, t₂]).update
      (.ofRoot "ps") t₃).2.2.result = .ok () := eq_ok_of_toOption hresult
  obtain ⟨c, hc, hstatus, hhealth, -⟩ := status_and_health_of_updates hb "ps" [t₁, t₂] t₃ hu
  rw [show final.configuration? = some c from hc] at hpaths
  obtain ⟨hs, hh⟩ := Prod.mk.inj (Option.some.inj hpaths)
  refine ⟨hb, hu, hstatus.trans ?_, hhealth.trans ?_⟩
  · rw [hs, full]
  · rw [hh, show [t₁, t₂] ++ [t₃] = [t₁, t₂, t₃] from rfl, words]
    rfl

/-- **A battery without a health file** leaves a new snapshot with a health that stands for
no variant, though the update goes through. -/
theorem health_of_battery_without_health :
    let t := FileTree.empty.changes
      [.device "ps/BAT0" [("type", "Battery"), ("present", "1"), ("capacity", "80"),
        ("status", "Charging")]]
    let updated := (Service.idle .standard .initial).update (.ofRoot "ps") t
    ∃ k, Constants.bind .standard .initial = .ok k ∧ updated.2.2.result = .ok () ∧
      ∀ h, updated.1.snapshot.get? Field.health.name ≠ some (.int (k.health h)) := by
  intro t updated
  obtain ⟨hresult, zero⟩ : updated.2.2.result.toOption = some () ∧
      (updated.1.snapshot.get? Field.health.name).any (·.equalsInt 0) = true := by
    decide +kernel
  refine ⟨_, rfl, eq_ok_of_toOption hresult, fun h hh => ?_⟩
  rw [hh] at zero
  cases h <;> exact absurd zero (by decide +kernel)

/-! ### The level -/

/-- **The level after any history of updates** of a new snapshot, whether they go through or
not, is an integer: what the trees since discovery gave last, or zero if none of them gave
a level.

It is a percentage exactly where the last of these trees that gives a level has plausible
amounts for it. -/
theorem level_of_updates (source : ConstantSource) (root : Path) (trees : List FileTree) :
    let final := updateOver root (.idle source .initial) trees
    let since := sinceFound root trees
    ∃ n, final.snapshot.get? Field.level.name = some (.int n) ∧
      (final.configuration? = none → n = 0) ∧
      ∀ c, final.configuration? = some c →
        n = (last? (fun t => levelOf t c.paths) since).getD 0 ∧
        (Percentage n ↔ ∀ before t after, since = before ++ t :: after →
          (levelOf t c.paths).isSome → (∀ u ∈ after, levelOf u c.paths = none) →
          Plausible t c.paths) := by
  intro final since
  cases hc : final.configuration? with
  | none =>
    have hsnapshot : final.snapshot = .initial := snapshot_updateOver rfl hc
    refine ⟨0, ?_, fun _ => rfl, ?_⟩
    · rw [hsnapshot]
      rfl
    · rintro c hsome
      cases hsome
  | some c =>
    have hbound : ∃ k, Constants.bind source .initial = .ok k := by
      cases hb : Constants.bind source .initial with
      | ok k => exact ⟨k, rfl⟩
      | error e =>
        have hfinal : final = .idle source .initial := updateOver_unbound rfl hb trees
        rw [hfinal] at hc
        cases hc
    obtain ⟨k, hb⟩ := hbound
    have hlevel := get?_updateOver_of_int (f := .level) (g := fun t => levelOf t c.paths)
      rfl hb hc rfl fun _ => rfl
    refine ⟨(last? (fun t => levelOf t c.paths) since).getD 0, hlevel, ?_, ?_⟩
    · intro hnone
      cases hnone
    · rintro c' hc'
      obtain rfl := Option.some.inj hc'
      exact ⟨rfl, percentage_last_iff c.paths since⟩

/-- **A battery that holds more than its full amount** has a level above 100: the quotient
is written as it is. -/
theorem level_of_overfull_battery :
    let t := FileTree.empty.changes
      [.device "ps/BAT0" [("type", "Battery"), ("present", "1"), ("charge_now", "2050000"),
        ("charge_full", "2000000")]]
    let updated := (Service.idle .standard .initial).update (.ofRoot "ps") t
    updated.2.2.result = .ok () ∧
      ∀ n, updated.1.snapshot.get? Field.level.name = some (.int n) → ¬Percentage n := by
  intro t updated
  obtain ⟨hresult, overfull⟩ : updated.2.2.result.toOption = some () ∧
      (updated.1.snapshot.get? Field.level.name).any (·.equalsInt 102) = true := by
    decide +kernel
  refine ⟨eq_ok_of_toOption hresult, fun n hn => ?_⟩
  rw [hn] at overfull
  obtain rfl : n = 102 := eq_of_beq overfull
  decide

end Service
end PowerSupply
