/-
# Where the level comes from

A configuration has five paths for the level, and discovery fills those of one
strategy: of the last battery that offers any (`level_from_last_battery`).  What an
earlier battery had for the level does not stay beside it, whether its capacity or
half of a pair, and the two files of a pair are those of one device.

Seen path by path, the batteries are merged one after the other (`paths_of_run`): the
paths of a later one come in place of earlier ones, and a level of any kind first takes
all earlier paths for the level away (`merged`).
-/

import PowerSupply.FileTree.Change
import PowerSupply.Proofs.Discovery.Scan

namespace PowerSupply

namespace AttributePaths

/-- The five paths from which a level may come, in order. -/
def levelPaths (p : AttributePaths) : List (Option Path) :=
  [p.capacity, p.chargeNow, p.chargeFull, p.energyNow, p.energyFull]

/-- The same paths without those for the level. -/
def withoutLevel (p : AttributePaths) : AttributePaths :=
  { p with
    capacity := none, chargeNow := none, chargeFull := none, energyNow := none, energyFull := none }

/-- The paths with others in place of them, one by one where there is another. -/
def overlaid (p others : AttributePaths) : AttributePaths where
  status := others.status.or p.status
  health := others.health.or p.health
  present := others.present.or p.present
  capacity := others.capacity.or p.capacity
  chargeNow := others.chargeNow.or p.chargeNow
  chargeFull := others.chargeFull.or p.chargeFull
  energyNow := others.energyNow.or p.energyNow
  energyFull := others.energyFull.or p.energyFull
  voltage := others.voltage.or p.voltage
  temperature := others.temperature.or p.temperature
  technology := others.technology.or p.technology

/-- The paths after one more battery: its own come in place of the earlier ones, and if
it has any for the level, then all earlier ones for the level go first. -/
def merged (earlier later : AttributePaths) : AttributePaths :=
  (if later.levelPaths.any (·.isSome) then earlier.withoutLevel else earlier).overlaid later

end AttributePaths

namespace LevelFiles

/-- The five paths for the level that a strategy fills, and none without one. -/
def paths : Option LevelFiles → List (Option Path)
  | none => [none, none, none, none, none]
  | some (.capacity p) => [some p, none, none, none, none]
  | some (.charge now full) => [none, some now, some full, none, none]
  | some (.energy now full) => [none, none, none, some now, some full]

/-- The source of the level that a strategy is. -/
def source : LevelFiles → LevelSource
  | .capacity _ => .capacity
  | .charge .. => .charge
  | .energy .. => .energy

/-- The present and the full amount of a strategy that has both. -/
def pair? : LevelFiles → Option (Path × Path)
  | .capacity _ => none
  | .charge now full => some (now, full)
  | .energy now full => some (now, full)

end LevelFiles

namespace Offer

theorem levelPaths_paths (o : Offer) : o.paths.levelPaths = LevelFiles.paths o.level := by
  unfold paths
  rcases o.level with _ | _ | _ | _ <;> rfl

/-- **Offers in order of precedence are paths merged one by one.** -/
theorem paths_or (later earlier : Offer) :
    (later.or earlier).paths = earlier.paths.merged later.paths := by
  have hlevel : later.paths.levelPaths.any (·.isSome) = later.level.isSome := by
    rw [levelPaths_paths]
    rcases later.level with _ | _ | _ | _ <;> rfl
  have hvoltage : (later.voltage.or earlier.voltage).map (·.path) =
      (later.voltage.map (·.path)).or (earlier.voltage.map (·.path)) := Option.map_or
  unfold AttributePaths.merged
  rw [hlevel]
  unfold paths Offer.or
  dsimp only
  rw [hvoltage]
  rcases later.level with _ | _ | _ | _ <;> rcases earlier.level with _ | _ | _ | _ <;> rfl

theorem levelSource_paths (o : Offer) : o.paths.levelSource = o.level.map LevelFiles.source := by
  unfold paths
  rcases o.level with _ | _ | _ | _ <;> rfl

theorem levelPair_paths (o : Offer) : o.paths.levelPair = o.level.bind LevelFiles.pair? := by
  unfold paths
  rcases o.level with _ | _ | _ | _ <;> rfl

end Offer

namespace Discovery

open Attribute (Readable text?)

variable {t : FileTree} {root device : Path}

/-- The pair that a device offers lies in the device. -/
theorem parent_of_strategy? {s : LevelFiles} {now full : Path} (hs : strategy? t device = some s)
    (hp : s.pair? = some (now, full)) : now.parent = device ∧ full.parent = device := by
  have parent : ∀ name, (Path.ofText name) = ⟨.relative, [name]⟩ →
      (device / Path.ofText name : Path).parent = device := by
    intro name hn
    show (device.join (Path.ofText name)).parent = device
    rw [hn, Path.join_relative rfl]
    simp [Path.parent]
  unfold strategy? at hs
  split_ifs at hs
  · cases hs
    cases hp
  · cases hs
    cases hp
    exact ⟨parent _ (by decide +kernel), parent _ (by decide +kernel)⟩
  · cases hs
    cases hp
    exact ⟨parent _ (by decide +kernel), parent _ (by decide +kernel)⟩

/-- **The paths of a configuration** are those of the batteries, merged one battery after
the other. -/
theorem paths_of_run {c : Configuration} (h : (run t root).result = .ok c) :
    c.paths = (batteries t root).foldl
      (fun paths (name : String) => paths.merged (offerOf t (root / name)).paths) {} := by
  have fold : ∀ (names : List String) (offer : Offer),
      (names.foldl (fun offer (name : String) => (offerOf t (root / name)).or offer) offer).paths =
        names.foldl (fun paths (name : String) => paths.merged (offerOf t (root / name)).paths)
          offer.paths := by
    intro names
    induction names with
    | nil => intro offer; rfl
    | cons name names ih => intro offer; rw [List.foldl_cons, List.foldl_cons, ih, Offer.paths_or]
  obtain ⟨-, hc, -⟩ := configuration_of_run h
  rw [hc]
  exact fold (batteries t root) {}

/-- The strategy of the last battery that offers any. -/
def lastStrategy? (t : FileTree) (root : Path) : Option LevelFiles :=
  last? (fun name : String => strategy? t (root / name)) (batteries t root)

theorem level_gathered : (gathered t root).level = lastStrategy? t root :=
  gathered_eq_last? (·.level) (fun _ _ => rfl) rfl

/-- **The level comes from the last battery that offers any strategy**, the batteries
taken in ascending order of name.  The five paths of the configuration are those of
its strategy and no others, all of them unset where no battery offers one; the source
and the pair name that strategy, and a pair lies in one battery. -/
theorem level_from_last_battery {c : Configuration} (h : (run t root).result = .ok c) :
    (batteries t root).Pairwise (· < ·) ∧
      c.paths.levelPaths = LevelFiles.paths (lastStrategy? t root) ∧
      c.paths.levelSource = (lastStrategy? t root).map LevelFiles.source ∧
      c.paths.levelPair = (lastStrategy? t root).bind LevelFiles.pair? ∧
      ∀ now full, c.paths.levelPair = some (now, full) →
        ∃ name ∈ batteries t root, now.parent = root / name ∧ full.parent = root / name := by
  obtain ⟨-, hc, -⟩ := configuration_of_run h
  have hpair : c.paths.levelPair = (lastStrategy? t root).bind LevelFiles.pair? := by
    rw [hc, Offer.levelPair_paths, level_gathered]
  refine ⟨(pairwise_devices t root).filter _, ?_, ?_, hpair, fun now full hp => ?_⟩
  · rw [hc, Offer.levelPaths_paths, level_gathered]
  · rw [hc, Offer.levelSource_paths, level_gathered]
  · rw [hpair] at hp
    obtain ⟨s, hs, hp⟩ := Option.bind_eq_some_iff.1 hp
    obtain ⟨name, hn, hs⟩ := Last.exists_mem_of_last? hs
    exact ⟨name, hn, parent_of_strategy? hs hp⟩

/-- A supply root with three batteries: one with a capacity, one with a charge, whose
full amount is a link, and one that has half of an energy and a dangling capacity. -/
def threeBatteries : FileTree :=
  FileTree.empty.changes
    [.device "ps/AC" [("type", "Mains"), ("online", "1"), ("capacity", "7")],
      .device "ps/BAT0" [("type", "Battery"), ("capacity", "55"), ("energy_full", "9")],
      .device "ps/BAT1" [("type", "Battery"), ("charge_now", "10"), ("design", "20")],
      .link "ps/BAT1/charge_full" (.ofText "design"),
      .device "ps/BAT2" [("type", "Battery"), ("energy_now", "3")],
      .link "ps/BAT2/capacity" (.ofText "gone")]

/-- The second of the three batteries is the last that offers a strategy. -/
theorem level_from_second_of_three :
    ∃ c, (run threeBatteries "ps").result = .ok c ∧
      c.paths.levelPaths =
        [none, some (Path.ofText "ps/BAT1/charge_now"),
          some (Path.ofText "ps/BAT1/charge_full"), none, none] ∧
      c.paths.levelSource = some .charge := by
  have hs : lastStrategy? threeBatteries "ps" =
      some (.charge "ps/BAT1/charge_now" "ps/BAT1/charge_full") := by decide +kernel
  have hr : (run threeBatteries "ps").result.toOption.isSome = true := by decide +kernel
  cases hc : (run threeBatteries "ps").result with
  | error f =>
    rw [hc] at hr
    cases hr
  | ok c =>
    obtain ⟨-, hp, hl, -⟩ := level_from_last_battery hc
    rw [hs] at hp hl
    exact ⟨c, rfl, hp, hl⟩

end Discovery
end PowerSupply
