/-
# The files that a configuration names

A configuration names the files of its quantities and, for each charger, the files of
its state and its type (`files`).  These are all the files that a refresh may read.

Before the level is written only some of them are read: where there is a battery, the file
of its presence and those of the source of its level (`levelFiles`).  Files of other
sources have no part in it, even where a configuration names them (`levelSource_cases`).
-/

import PowerSupply.Configuration

namespace PowerSupply

namespace AttributePaths

/-- The files of a source of the level. -/
def sourceFiles (p : AttributePaths) : LevelSource → List Path
  | .capacity => p.capacity.toList
  | .charge => p.chargeNow.toList ++ p.chargeFull.toList
  | .energy => p.energyNow.toList ++ p.energyFull.toList

/-- The files that are read before the level is written. -/
def levelFiles (p : AttributePaths) : List Path :=
  match p.present with
  | none => []
  | some present => present :: (p.levelSource.map p.sourceFiles).getD []

variable {p : AttributePaths}

/-- **The source of the level and its files:** a capacity, else a complete pair, else
nothing. -/
theorem levelSource_cases (p : AttributePaths) :
    (∃ file, p.levelSource = some .capacity ∧ p.capacity = some file ∧ p.levelPair = none) ∨
    (∃ now full, p.levelSource = some .charge ∧ p.capacity = none ∧ p.chargeNow = some now ∧
      p.chargeFull = some full ∧ p.levelPair = some (now, full)) ∨
    (∃ now full, p.levelSource = some .energy ∧ p.capacity = none ∧ p.energyNow = some now ∧
      p.energyFull = some full ∧ p.levelPair = some (now, full)) ∨
    (p.levelSource = none ∧ p.capacity = none ∧ p.levelPair = none) := by
  unfold levelPair levelSource
  cases p.capacity <;> cases p.chargeNow <;> cases p.chargeFull <;> cases p.energyNow <;>
    cases p.energyFull <;> simp

/-- Where there is a battery, the files are that of the presence and those of the capacity or
of the pair, if there is either. -/
theorem levelFiles_cases {present : Path} (hp : p.present = some present) :
    (∃ file, p.capacity = some file ∧ p.levelPair = none ∧ p.levelFiles = [present, file]) ∨
    (∃ now full, p.capacity = none ∧ p.levelPair = some (now, full) ∧
      p.levelFiles = [present, now, full]) ∨
    (p.capacity = none ∧ p.levelPair = none ∧ p.levelFiles = [present]) := by
  have hfiles : p.levelFiles = present :: (p.levelSource.map p.sourceFiles).getD [] := by
    unfold levelFiles
    rw [hp]
  rw [hfiles]
  rcases p.levelSource_cases with ⟨file, hs, hc, hl⟩ | ⟨now, full, hs, hc, hn, hf, hl⟩ |
    ⟨now, full, hs, hc, hn, hf, hl⟩ | ⟨hs, hc, hl⟩
  · exact .inl ⟨file, hc, hl, by simp [hs, sourceFiles, hc]⟩
  · exact .inr (.inl ⟨now, full, hc, hl, by simp [hs, sourceFiles, hn, hf]⟩)
  · exact .inr (.inl ⟨now, full, hc, hl, by simp [hs, sourceFiles, hn, hf]⟩)
  · exact .inr (.inr ⟨hc, hl, by simp [hs]⟩)

/-- What is true of these files is true of the capacity and of both files of the pair. -/
theorem forall_of_levelFiles {P : Path → Prop} {present : Path} (hp : p.present = some present)
    (h : ∀ f ∈ p.levelFiles, P f) :
    (∀ file, p.capacity = some file → P file) ∧
      ∀ now full, p.levelPair = some (now, full) → P now ∧ P full := by
  rcases levelFiles_cases hp with ⟨file, hc, hl, hfiles⟩ | ⟨now, full, hc, hl, hfiles⟩ |
    ⟨hc, hl, hfiles⟩
  all_goals rw [hc, hl]
  · refine ⟨fun f hf => ?_, fun _ _ hpair => nomatch hpair⟩
    cases hf
    exact h _ (by simp [hfiles])
  · refine ⟨fun _ hfile => (nomatch hfile), fun n f hpair => ?_⟩
    cases hpair
    exact ⟨h _ (by simp [hfiles]), h _ (by simp [hfiles])⟩
  · exact ⟨fun _ hfile => (nomatch hfile), fun _ _ hpair => nomatch hpair⟩

end AttributePaths

namespace Configuration

/-- The files that a configuration names: those of the quantities, and two for each
charger. -/
def files (c : Configuration) : List Path :=
  c.paths.entries.filterMap (·.2) ++
    c.chargers.flatMap fun name => [c.chargerFile name "online", c.chargerFile name "type"]

/-- What is true of the files is true of the file of a quantity, if it has one. -/
theorem forall_of_entry {c : Configuration} {P : Path → Prop} (h : ∀ p ∈ c.files, P p)
    (name : String) {path : Option Path} (he : (name, path) ∈ c.paths.entries) :
    ∀ p, path = some p → P p :=
  fun p hp => h p (List.mem_append_left _ (List.mem_filterMap.2 ⟨(name, path), he, hp⟩))

theorem online_mem_files {c : Configuration} {name : String} (h : name ∈ c.chargers) :
    c.chargerFile name "online" ∈ c.files :=
  List.mem_append_right _ (List.mem_flatMap.2 ⟨name, h, by simp⟩)

theorem type_mem_files {c : Configuration} {name : String} (h : name ∈ c.chargers) :
    c.chargerFile name "type" ∈ c.files :=
  List.mem_append_right _ (List.mem_flatMap.2 ⟨name, h, by simp⟩)

/-- The files of a level pair are among the files of the quantities. -/
theorem levelPair_mem_files {c : Configuration} {now full : Path}
    (h : c.paths.levelPair = some (now, full)) : now ∈ c.files ∧ full ∈ c.files := by
  have mem : ∀ name {path : Option Path}, (name, path) ∈ c.paths.entries →
      ∀ p, path = some p → p ∈ c.files := forall_of_entry fun _ hp => hp
  rcases c.paths.levelSource_cases with ⟨_, _, _, hl⟩ | ⟨n, f, _, _, hn, hf, hl⟩ |
    ⟨n, f, _, _, hn, hf, hl⟩ | ⟨_, _, hl⟩
  all_goals
    rw [hl] at h
    cases h
  · exact ⟨mem "charge_now" (by simp [AttributePaths.entries]) now hn,
      mem "charge_full" (by simp [AttributePaths.entries]) full hf⟩
  · exact ⟨mem "energy_now" (by simp [AttributePaths.entries]) now hn,
      mem "energy_full" (by simp [AttributePaths.entries]) full hf⟩

end Configuration
end PowerSupply
