/-
# A refresh reads the files of its configuration and nothing else

Two trees agree on a file if opening it has the same outcome in both and the first
128 bytes are the same (`Agree`).  Where two trees agree on the files that a
configuration names, the refresh is the same in both: it makes the same writes and the
same notes in the same order, and it ends in the same way (`run_eq_of_agree`).

No part of a refresh looks at the snapshot, so two snapshots that are refreshed over
such trees receive the same writes, whatever they held (`refresh_of_agree`).
-/

import Mathlib.Data.List.Basic
import PowerSupply.FileTree.Change
import PowerSupply.Proofs.Attribute
import PowerSupply.Proofs.Configuration
import PowerSupply.Proofs.Service.Stage
import PowerSupply.Refresh

namespace PowerSupply

/-- Whether a file has the same outcome when it is opened in two trees, and the same
start. -/
def FileTree.Agree (t₁ t₂ : FileTree) (p : Path) : Prop :=
  (t₁.read p).map (·.take Attribute.textLimit) = (t₂.read p).map (·.take Attribute.textLimit)

instance (t₁ t₂ : FileTree) (p : Path) : Decidable (t₁.Agree t₂ p) :=
  inferInstanceAs (Decidable ((t₁.read p).map (·.take Attribute.textLimit) =
    (t₂.read p).map (·.take Attribute.textLimit)))

variable {t₁ t₂ : FileTree} {p : Path}

/-- Where two trees agree on a file, they both refuse it for the same reason, or they
both have it and its start is the same. -/
theorem FileTree.Agree.cases (h : t₁.Agree t₂ p) :
    (∃ e, t₁.read p = .error e ∧ t₂.read p = .error e) ∨
      ∃ b₁ b₂, t₁.read p = .ok b₁ ∧ t₂.read p = .ok b₂ ∧
        b₁.take Attribute.textLimit = b₂.take Attribute.textLimit := by
  unfold FileTree.Agree at h
  cases h₁ : t₁.read p <;> cases h₂ : t₂.read p <;> rw [h₁, h₂] at h
  case error.error e₁ e₂ =>
    cases h
    exact Or.inl ⟨e₁, rfl, rfl⟩
  case error.ok e b => cases h
  case ok.error b e => cases h
  case ok.ok b₁ b₂ => exact Or.inr ⟨b₁, b₂, rfl, rfl, Except.ok.inj h⟩

namespace Attribute

/-- **Reading a file on which two trees agree** is the same in both, up to the limit of
a text. -/
theorem read_eq_of_agree {path : Option Path} {limit : Nat} (hl : limit ≤ textLimit)
    (h : ∀ p, path = some p → t₁.Agree t₂ p) :
    read t₁ path (some limit) = read t₂ path (some limit) := by
  cases path with
  | none => rfl
  | some p =>
    unfold read
    dsimp only
    split
    · rfl
    · rcases (h p rfl).cases with ⟨e, h₁, h₂⟩ | ⟨b₁, b₂, h₁, h₂, hb⟩
      · rw [h₁, h₂]
      · rw [h₁, h₂]
        have hcut : cut (some limit) b₁ = cut (some limit) b₂ := by
          show b₁.take limit = b₂.take limit
          rw [← Nat.min_eq_left hl, ← List.take_take, hb, List.take_take]
        dsimp only
        rw [hcut]

theorem read_some_eq_of_agree (h : t₁.Agree t₂ p) : read t₁ (some p) = read t₂ (some p) :=
  read_eq_of_agree (Nat.le_refl _) fun _ hp => Option.some.inj hp ▸ h

theorem readInt_eq_of_agree {path : Option Path} (h : ∀ p, path = some p → t₁.Agree t₂ p) :
    readInt t₁ path = readInt t₂ path := by
  unfold readInt
  rw [read_eq_of_agree (Nat.le_refl _) h]

theorem readFlag_eq_of_agree {path : Option Path} (h : ∀ p, path = some p → t₁.Agree t₂ p) :
    readFlag t₁ path = readFlag t₂ path := by
  unfold readFlag
  rw [read_eq_of_agree (by decide) h]

end Attribute

namespace Refresh

variable {c : Configuration}

theorem level_eq_of_agree (h : ∀ p ∈ c.files, t₁.Agree t₂ p) :
    level t₁ c.paths = level t₂ c.paths := by
  have hc : Attribute.readInt t₁ c.paths.capacity = Attribute.readInt t₂ c.paths.capacity :=
    Attribute.readInt_eq_of_agree
      (Configuration.forall_of_entry h "capacity" (by simp [AttributePaths.entries]))
  have hp : ∀ now full, c.paths.levelPair = some (now, full) →
      Attribute.read t₁ (some now) = Attribute.read t₂ (some now) ∧
        Attribute.read t₁ (some full) = Attribute.read t₂ (some full) := by
    intro now full hp
    obtain ⟨hn, hf⟩ := Configuration.levelPair_mem_files hp
    exact ⟨Attribute.read_some_eq_of_agree (h _ hn), Attribute.read_some_eq_of_agree (h _ hf)⟩
  unfold level
  rw [hc]
  cases hl : c.paths.levelPair with
  | none => rfl
  | some pair =>
    obtain ⟨hn, hf⟩ := hp pair.1 pair.2 hl
    dsimp only
    rw [hn, hf]

theorem status_eq_of_agree (h : ∀ p ∈ c.files, t₁.Agree t₂ p) :
    status t₁ c.paths = status t₂ c.paths := by
  unfold status
  rw [Attribute.read_eq_of_agree (Nat.le_refl _)
    (Configuration.forall_of_entry h "status" (by simp [AttributePaths.entries]))]

theorem health_eq_of_agree (h : ∀ p ∈ c.files, t₁.Agree t₂ p) :
    health t₁ c.paths = health t₂ c.paths := by
  unfold health
  rw [Attribute.read_eq_of_agree (Nat.le_refl _)
    (Configuration.forall_of_entry h "health" (by simp [AttributePaths.entries]))]

theorem technology_eq_of_agree (h : ∀ p ∈ c.files, t₁.Agree t₂ p) :
    technology t₁ c.paths = technology t₂ c.paths := by
  unfold technology
  rw [Attribute.read_eq_of_agree (Nat.le_refl _)
    (Configuration.forall_of_entry h "technology" (by simp [AttributePaths.entries]))]

theorem charger_eq_of_agree (h : ∀ p ∈ c.files, t₁.Agree t₂ p) {name : String}
    (hn : name ∈ c.chargers) (online : Online) :
    charger t₁ c online name = charger t₂ c online name := by
  unfold charger
  rw [Attribute.read_some_eq_of_agree (h _ (Configuration.online_mem_files hn)),
    Attribute.read_some_eq_of_agree (h _ (Configuration.type_mem_files hn))]

theorem chargers_eq_of_agree (h : ∀ p ∈ c.files, t₁.Agree t₂ p) :
    chargers t₁ c = chargers t₂ c := by
  unfold chargers
  rw [Trace.foldlM_congr {} fun name hn online => charger_eq_of_agree h hn online]

/-- **A refresh depends on the files of its configuration alone.** -/
theorem run_eq_of_agree (h : ∀ p ∈ c.files, t₁.Agree t₂ p) : run t₁ c = run t₂ c := by
  unfold run
  rw [level_eq_of_agree h, status_eq_of_agree h, health_eq_of_agree h, technology_eq_of_agree h,
    chargers_eq_of_agree h,
    Attribute.readFlag_eq_of_agree
      (Configuration.forall_of_entry h "present" (by simp [AttributePaths.entries])),
    Attribute.readInt_eq_of_agree
      (Configuration.forall_of_entry h "voltage" (by simp [AttributePaths.entries])),
    Attribute.readInt_eq_of_agree
      (Configuration.forall_of_entry h "temperature" (by simp [AttributePaths.entries]))]

/-- **Two refreshes over trees that agree on the files of the configuration** cannot be
told apart, whatever else differs between the trees and whatever the two snapshots
hold.  They announce the same writes and notes in the same order and end in the same
way; so the two snapshots receive the same writes, and the logs are the same. -/
theorem refresh_of_agree (h : ∀ p ∈ c.files, t₁.Agree t₂ p) (root : Path) (k : Constants)
    (source : ConstantSource) (snapshot₁ snapshot₂ : Snapshot) :
    run t₁ c = run t₂ c ∧
      let done₁ := Service.refresh (.ofRoot root) ⟨source, snapshot₁, .started k c⟩ t₁
      let done₂ := Service.refresh (.ofRoot root) ⟨source, snapshot₂, .started k c⟩ t₂
      (∃ ws, done₁.1.snapshot = snapshot₁.writeAll k ws ∧
        done₂.1.snapshot = snapshot₂.writeAll k ws) ∧
      done₁.2.2.events = done₂.2.2.events ∧ done₁.2.2.result = done₂.2.2.result := by
  have hr : run t₁ c = run t₂ c := run_eq_of_agree h
  have hw : Action.writes (run t₁ c).events = Action.writes (run t₂ c).events := by rw [hr]
  refine ⟨hr, ⟨Action.writes (run t₁ c).events, rfl, ?_⟩, ?_, ?_⟩
  · rw [hw]
    rfl
  · show Action.notes (run t₁ c).events = Action.notes (run t₂ c).events
    rw [hr]
  · show (run t₁ c).result = (run t₂ c).result
    rw [hr]

/-- Two trees that differ in a device, in an attribute and in the end of a long file. -/
theorem refresh_of_grown_tree :
    let c : Configuration :=
      { root := "ps", chargers := ["AC"],
        paths := { present := some "ps/BAT0/present", capacity := some "ps/BAT0/capacity" } }
    let t₁ := FileTree.empty.changes
      [.device "ps/AC" [("type", "Mains"), ("online", "1")],
        .device "ps/BAT0" [("type", "Battery"), ("capacity", "55")],
        .file "ps/BAT0/present" (List.replicate 130 49)]
    let t₂ := t₁.changes
      [.device "ps/BAT1" [("type", "Battery"), ("capacity", "7")],
        .device "ps/BAT0" [("status", "Full")], .file "ps/BAT0/present" (List.replicate 129 49)]
    (∀ p ∈ c.files, t₁.Agree t₂ p) ∧ run t₁ c = run t₂ c := by
  intro c t₁ t₂
  have h : ∀ p ∈ c.files, t₁.Agree t₂ p := by
    decide +kernel
  exact ⟨h, (refresh_of_agree h "ps" ⟨fun _ => 0, fun _ => 0⟩ .standard .initial .initial).1⟩

end Refresh
end PowerSupply
