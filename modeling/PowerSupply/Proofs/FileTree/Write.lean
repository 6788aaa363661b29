/-
# What was written is there

A file that was written is found under its path and has the bytes that were written
(`stat_of_write`, `read_of_write`).  The way to it is the same before and after
(`keepsWays_put`): it goes through directories and links, and the file stands where there was
neither.  Writing asks more of a path than using it, so what could be written can be used.
-/

import PowerSupply.FileTree.Change
import PowerSupply.Proofs.FileTree.Ways

namespace PowerSupply
namespace FileTree

/-- Whether a location is free or has a file. -/
def TakesFile (t : FileTree) (l : Location) : Prop :=
  ∀ n, t.node? l = some n → ∃ bytes, n = .file bytes

variable {t : FileTree} {l : Location} {bytes : List UInt8}

/-- A directory is somewhere else than a file that is put into the tree, and stays. -/
theorem node?_put_of_directory (hl : t.TakesFile l) {k : Location}
    (hk : t.node? k = some .directory) :
    (t.put l (.file bytes)).node? k = some .directory := by
  rw [node?_put_of_ne, hk]
  rintro rfl
  obtain ⟨b, hb⟩ := hl _ hk
  cases hb

/-- Whether there is a link at a location does not depend on a file that is put into the
tree. -/
theorem node?_put_eq_link (hl : t.TakesFile l) {k : Location} {target : LinkTarget} :
    (t.put l (.file bytes)).node? k = some (.link target) ↔ t.node? k = some (.link target) := by
  by_cases h : k = l
  · subst h
    constructor
    · intro hk
      by_cases hr : k = []
      · subst hr; cases hk
      · rw [node?_put_self t _ hr] at hk
        cases hk
    · intro hk
      obtain ⟨b, hb⟩ := hl _ hk
      cases hb
  · rw [node?_put_of_ne t _ h]

/-- A file that is put into a tree keeps the ways. -/
theorem keepsWays_put (hl : t.TakesFile l) : KeepsWays t (t.put l (.file bytes)) where
  here := rfl
  directory _ hk := node?_put_of_directory hl hk
  link _ _ := node?_put_eq_link hl

/-- **A write succeeds** where the location of the path takes a file, and puts it there. -/
theorem write_eq_ok {t' : FileTree} {p : Path} :
    t.write p bytes = .ok t' ↔
      ∃ l, t.locate p .write = .ok l ∧ t.TakesFile l ∧ t.put l (.file bytes) = t' := by
  unfold write
  rw [bind_eq_ok]
  refine exists_congr fun l => and_congr_right fun _ => ?_
  unfold TakesFile
  cases t.node? l with
  | none => simp
  | some n => cases n <;> simp

/-- Whether a file can be written does not depend on its bytes. -/
theorem exists_write_of_write {t' : FileTree} {p : Path} (h : t.write p bytes = .ok t')
    (other : List UInt8) : ∃ t'', t.write p other = .ok t'' := by
  obtain ⟨l, hl, hfile, -⟩ := write_eq_ok.1 h
  exact ⟨_, write_eq_ok.2 ⟨l, hl, hfile, rfl⟩⟩

/-- **A file that was written is there.** -/
theorem stat_of_write {t' : FileTree} {p : Path} (h : t.write p bytes = .ok t') :
    t'.stat p = .ok (.file bytes) := by
  obtain ⟨l, hl, hfile, rfl⟩ := write_eq_ok.1 h
  have root : l ≠ [] := by
    rintro rfl
    obtain ⟨b, hb⟩ := hfile .directory rfl
    cases hb
  exact stat_eq_ok.2 ⟨l, locate_of_keepsWays (keepsWays_put hfile) hl, node?_put_self t _ root⟩

/-- **A file that was written is read back.** -/
theorem read_of_write {t' : FileTree} {p : Path} (h : t.write p bytes = .ok t') :
    t'.read p = .ok bytes := by
  unfold read
  rw [stat_of_write h]
  rfl

end FileTree
end PowerSupply
