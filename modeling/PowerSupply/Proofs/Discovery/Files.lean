/-
# What discovery resolves can be read

A device is listed as a charger where its type is that of a charger and its state is
readable (`Listed`); the chargers of a configuration are the listed devices, in the
order of the scan (`chargers_of_run`).

A device offers only files that are readable in it, and the offer of a later battery
takes nothing from an earlier one but its paths.  So every file that a configuration
names, for the battery as for the chargers, leads to a regular file in the tree that was
scanned (`readable_of_run`), and no path of it has a NUL character.
-/

import PowerSupply.Proofs.Configuration
import PowerSupply.Proofs.Discovery.Voltage

namespace PowerSupply

/-- The files of a strategy. -/
def LevelFiles.files : LevelFiles → List Path
  | .capacity p => [p]
  | .charge now full => [now, full]
  | .energy now full => [now, full]

/-- **Every file of an offer** has the property `P`. -/
structure Offer.All (P : Path → Prop) (o : Offer) : Prop where
  status : ∀ p, o.status = some p → P p
  health : ∀ p, o.health = some p → P p
  present : ∀ p, o.present = some p → P p
  technology : ∀ p, o.technology = some p → P p
  level : ∀ s, o.level = some s → ∀ p ∈ s.files, P p
  voltage : ∀ v, o.voltage = some v → P v.path
  temperature : ∀ p, o.temperature = some p → P p

namespace Offer.All

variable {P : Path → Prop} {later earlier o : Offer}

theorem empty : All P {} where
  status _ h := nomatch h
  health _ h := nomatch h
  present _ h := nomatch h
  technology _ h := nomatch h
  level _ h := nomatch h
  voltage _ h := nomatch h
  temperature _ h := nomatch h

/-- What is true of two offers is true of the one laid over the other, for each quantity
comes from one of them. -/
theorem or (hl : All P later) (he : All P earlier) : All P (later.or earlier) := by
  have choice : ∀ {α : Type} {a b : Option α} {Q : α → Prop}, (∀ x, a = some x → Q x) →
      (∀ x, b = some x → Q x) → ∀ x, a.or b = some x → Q x := by
    intro α a b Q ha hb x hx
    rcases Option.or_eq_some_iff.1 hx with h | ⟨-, h⟩
    · exact ha x h
    · exact hb x h
  exact {
    status := choice hl.status he.status
    health := choice hl.health he.health
    present := choice hl.present he.present
    technology := choice hl.technology he.technology
    level := choice hl.level he.level
    voltage := choice hl.voltage he.voltage
    temperature := choice hl.temperature he.temperature }

/-- The paths of an offer are its files, each under the name of its quantity. -/
theorem forall_entries (h : All P o) : ∀ e ∈ o.paths.entries, ∀ p, e.2 = some p → P p := by
  have voltage : ∀ p, o.voltage.map (·.path) = some p → P p := by
    intro p hp
    obtain ⟨v, hv, rfl⟩ := Option.map_eq_some_iff.1 hp
    exact h.voltage v hv
  have level : ∀ s, o.level = some s → ∀ q ∈ s.files, ∀ p, some q = some p → P p :=
    fun s hs q hq p hp => Option.some.inj hp ▸ h.level s hs q hq
  have unset : ∀ p, (none : Option Path) = some p → P p := by
    intro p hp
    cases hp
  unfold Offer.paths
  rcases hl : o.level with _ | capacity | ⟨now, full⟩ | ⟨now, full⟩ <;>
    simp only [AttributePaths.entries, List.forall_mem_cons]
  · exact ⟨h.status, h.health, h.present, unset, unset, unset, unset, unset, voltage,
      h.temperature, h.technology, List.forall_mem_nil _⟩
  · exact ⟨h.status, h.health, h.present, level _ hl capacity (by simp [LevelFiles.files]),
      unset, unset, unset, unset, voltage, h.temperature, h.technology, List.forall_mem_nil _⟩
  · exact ⟨h.status, h.health, h.present, unset, level _ hl now (by simp [LevelFiles.files]),
      level _ hl full (by simp [LevelFiles.files]), unset, unset, voltage, h.temperature,
      h.technology, List.forall_mem_nil _⟩
  · exact ⟨h.status, h.health, h.present, unset, unset, unset,
      level _ hl now (by simp [LevelFiles.files]), level _ hl full (by simp [LevelFiles.files]),
      voltage, h.temperature, h.technology, List.forall_mem_nil _⟩

end Offer.All

/-- A path has no NUL character if neither part of it has one. -/
theorem Path.hasNul_join {p q : Path} (hp : p.hasNul = false) (hq : q.hasNul = false) :
    (p.join q).hasNul = false := by
  unfold Path.join
  split
  · unfold Path.hasNul at hp hq ⊢
    rw [List.any_append, hp, hq]
    rfl
  · exact hq

/-- What a path that has none starts with has none either. -/
theorem Path.hasNul_of_join {p q : Path} (h : (p.join q).hasNul = false)
    (hq : q.anchor = .relative) : p.hasNul = false := by
  rw [Path.join_relative hq] at h
  unfold Path.hasNul at h ⊢
  rw [List.any_append, Bool.or_eq_false_iff] at h
  exact h.1

namespace Discovery

open Attribute (Readable text?)

variable {t : FileTree} {root device : Path}

theorem readable_of_file? {names : List String} {p : Path} (h : file? t device names = some p) :
    Readable t p := by
  unfold file? at h
  have := List.find?_some h
  exact of_decide_eq_true this

/-- **A device offers readable files only.** -/
theorem all_offerOf (t : FileTree) (device : Path) : Offer.All (Readable t) (offerOf t device) where
  status _ := readable_of_file?
  health _ := readable_of_file?
  present _ := readable_of_file?
  technology _ := readable_of_file?
  temperature _ := readable_of_file?
  level s hs p hp := by
    change strategy? t device = some s at hs
    unfold strategy? at hs
    split_ifs at hs with h₁ h₂ h₃ <;> cases hs <;>
      simp only [LevelFiles.files, List.mem_cons, List.not_mem_nil, or_false] at hp
    · exact hp ▸ h₁
    · rcases hp with rfl | rfl
      · exact h₂.1
      · exact h₂.2
    · rcases hp with rfl | rfl
      · exact h₃.1
      · exact h₃.2
  voltage v hv := by
    change voltage? t device = some v at hv
    unfold voltage? at hv
    split_ifs at hv with h₁ h₂ <;> cases hv
    · exact h₁
    · exact h₂

theorem all_gathered (t : FileTree) (root : Path) : Offer.All (Readable t) (gathered t root) := by
  have fold : ∀ (names : List String) (offer : Offer), Offer.All (Readable t) offer →
      Offer.All (Readable t)
        (names.foldl (fun offer (name : String) => (offerOf t (root / name)).or offer) offer) := by
    intro names
    induction names with
    | nil => exact fun _ h => h
    | cons name names ih => exact fun offer h => ih _ ((all_offerOf t (root / name)).or h)
  exact fold (batteries t root) {} .empty

/-- Whether a device is listed as a charger. -/
def Listed (t : FileTree) (root : Path) (name : String) : Prop :=
  (kind t (root / name)).isCharger = true ∧ Readable t (root / name / "online")

instance (t : FileTree) (root : Path) (name : String) : Decidable (Listed t root name) :=
  inferInstanceAs (Decidable (_ ∧ _))

/-- One device changes the chargers if it is listed, and then it goes behind them. -/
theorem chargers_after (found : Findings) (name : String) :
    (after t root found name).chargers =
      found.chargers ++ if Listed t root name then [name] else [] := by
  by_cases hl : Listed t root name
  · rw [if_pos hl]
    obtain ⟨hc, hr⟩ := hl
    unfold after
    cases hk : kind t (root / name) with
    | battery | unknown =>
      rw [hk] at hc
      exact absurd hc (by decide)
    | ac | usb | wireless =>
      dsimp only
      rw [if_pos hr]
  · rw [if_neg hl, List.append_nil]
    unfold after
    cases hk : kind t (root / name) with
    | battery | unknown => rfl
    | ac | usb | wireless =>
      dsimp only
      rw [if_neg fun hr => hl ⟨by rw [hk]; rfl, hr⟩]

theorem chargers_foldl_after (names : List String) (found : Findings) :
    (names.foldl (after t root) found).chargers =
      found.chargers ++ names.filter fun name => Listed t root name := by
  induction names generalizing found with
  | nil => exact (List.append_nil _).symm
  | cons name names ih =>
    rw [List.foldl_cons, ih, chargers_after, List.append_assoc, List.filter_cons]
    by_cases hl : Listed t root name <;> simp [hl]

/-- **The chargers of a configuration** are the listed devices in ascending order. -/
theorem chargers_of_run {c : Configuration} (h : (run t root).result = .ok c) :
    c.chargers = (devices t root).filter fun name => Listed t root name := by
  obtain rfl := eq_configuration_of_run h
  exact (chargers_foldl_after (devices t root) {}).trans (List.nil_append _)

theorem listed_of_mem_chargers {c : Configuration} (h : (run t root).result = .ok c) {name : String}
    (hn : name ∈ c.chargers) : Listed t root name := by
  rw [chargers_of_run h] at hn
  exact of_decide_eq_true (List.mem_filter.1 hn).2

/-- A listed device has a type that can be read: a text is needed to be a charger, and
the path of the state shows that there is no NUL character. -/
theorem Listed.readable_type {name : String} (h : Listed t root name) :
    Readable t (root / name / "type") := by
  obtain ⟨hk, hr⟩ := h
  have hp : (root / name / "type" : Path).hasNul = false := by
    have online : ((root / name : Path) / "online" : Path).hasNul = false := hr.1
    exact Path.hasNul_join (Path.hasNul_of_join online (by decide +kernel)) (by decide +kernel)
  have some_text : (text? t (root / name / "type")).isSome ↔ Readable t (root / name / "type") :=
    Attribute.isSome_text? hp
  refine some_text.1 ?_
  cases hs : text? t (root / name / "type") with
  | some s => rfl
  | none =>
    unfold kind at hk
    rw [hs] at hk
    exact absurd hk (by decide)

/-- **What a configuration names can be read** in the tree in which it was
discovered. -/
theorem readable_of_run {c : Configuration} (h : (run t root).result = .ok c) :
    ∀ p ∈ c.files, Readable t p := by
  obtain ⟨hroot, hpaths, -⟩ := configuration_of_run h
  intro p hp
  rcases List.mem_append.1 hp with hp | hp
  · obtain ⟨e, he, hp⟩ := List.mem_filterMap.1 hp
    rw [hpaths] at he
    exact (all_gathered t root).forall_entries e he p hp
  · obtain ⟨name, hn, hp⟩ := List.mem_flatMap.1 hp
    have hl := listed_of_mem_chargers h hn
    unfold Configuration.chargerFile at hp
    rw [hroot] at hp
    simp only [List.mem_cons, List.not_mem_nil, or_false] at hp
    rcases hp with rfl | rfl
    · exact hl.2
    · exact hl.readable_type

/-- A configuration that was discovered has no path with a NUL character. -/
theorem hasNul_of_run {c : Configuration} (h : (run t root).result = .ok c) :
    ∀ p ∈ c.files, p.hasNul = false := fun p hp => (readable_of_run h p hp).1

end Discovery
end PowerSupply
