/-
# Saving settings and loading them

Settings that were saved are loaded again (`load_of_save`).  The text of the file is the
text of the settings (`Json.read_print`), its bytes hold that text
(`Utf8.decode_encode`), it has no line ends that would change on the way
(`lineFeeds_of_not_mem`), and the file is where it was written
(`FileTree.read_of_write`).  What is loaded is laid over the defaults, which changes
nothing about settings that were loaded before, for they cover the defaults
(`covers_of_load`).
-/

import PowerSupply.Proofs.FileTree.Write
import PowerSupply.Proofs.Json.Distinct
import PowerSupply.Proofs.Json.Merge
import PowerSupply.Proofs.Json.Visible
import PowerSupply.Proofs.Text.Utf8
import PowerSupply.Settings

namespace PowerSupply
namespace Settings

/-- A text without carriage returns has its line ends already. -/
theorem lineFeeds_of_not_mem {s : List Char} (h : '\r' ∉ s) : lineFeeds s = s := by
  induction s with
  | nil => rfl
  | cons c s ih =>
    rw [List.mem_cons, not_or] at h
    rw [lineFeeds, ih h.2]
    · exact fun _ hc _ => h.1 hc.symm
    · exact Ne.symm h.1

/-- **The text of settings is read back** from the bytes of their file. -/
theorem readFile_of_text {t : FileTree} {p : Path} {c : Settings}
    (exact : (Json.obj c).every Json.notFloat = true)
    (distinct : (Json.obj c).every Json.distinctKeys = true)
    (h : t.read p = .ok (Utf8.encode (fileText c))) :
    readFile t p = pure (Json.mergeMembers defaults c) := by
  have text : lineFeeds (fileText c).toList = Json.print .indented 0 (.obj c) := by
    unfold fileText Json.indented
    rw [String.toList_ofList, lineFeeds_of_not_mem]
    exact Json.not_mem_print Json.Layout.blank_indented _ 0
  unfold readFile
  simp only [h, Utf8.decode_encode, text, Json.read_print Json.Layout.blank_indented exact distinct]

/-- A file that is there is loaded as it is. -/
theorem load_of_file (env : Environment) {t : FileTree} {p : Path} {bytes : List UInt8}
    (nul : p.hasNul = false) (file : t.stat p = .ok (.file bytes)) :
    load env t (some p) = (t, readFile t p) := by
  have there : isThere t p = .ok true := by
    unfold isThere
    rw [nul, file]
    rfl
  show loadFile t p = _
  unfold loadFile
  rw [there]

/-- **What was written is loaded.** -/
theorem load_of_write (env : Environment) {t t' : FileTree} {p : Path} {c : Settings}
    (exact : (Json.obj c).every Json.notFloat = true)
    (distinct : (Json.obj c).every Json.distinctKeys = true) (nul : p.hasNul = false)
    (h : t.write p (Utf8.encode (fileText c)) = .ok t') :
    load env t' (some p) = (t', pure (Json.mergeMembers defaults c)) := by
  rw [load_of_file env nul (FileTree.stat_of_write h),
    readFile_of_text exact distinct (FileTree.read_of_write h)]

/-- Settings that were read from a file cover the defaults. -/
theorem covers_of_readFile {t : FileTree} {p : Path} {c : Settings}
    (h : (readFile t p).result = .ok c) : Json.CoversMembers defaults c := by
  have self := Json.coversMembers_self defaults
  unfold readFile at h
  split at h
  · exact Except.ok.inj h ▸ self
  · split at h
    · cases h
    · simp only at h
      split at h
      · exact Except.ok.inj h ▸ self
      · rename_i own hown
        rw [← Except.ok.inj h]
        exact Json.coversMembers_mergeMembers (Json.distinctKeys_of_read hown)
      · exact Except.ok.inj h ▸ self

/-- **Settings that were loaded cover the defaults.** -/
theorem covers_of_load {env : Environment} {t : FileTree} {path : Option Path} {c : Settings}
    (h : (load env t path).2.result = .ok c) : Json.CoversMembers defaults c := by
  unfold load at h
  split at h
  · cases h
  · unfold loadFile at h
    split at h
    · cases h
    · exact covers_of_readFile h
    · obtain ⟨_, _, hc⟩ := Trace.result_bind_eq_ok.1 h
      exact Except.ok.inj hc ▸ Json.coversMembers_self defaults

/-- **Loading from a free place** gives the defaults, whether or not they can be put
there. -/
theorem load_of_free (env : Environment) {t : FileTree} {p : Path} (nul : p.hasNul = false)
    (free : isThere t p = .ok false) : (load env t (some p)).2.result = .ok defaults := by
  show (loadFile t p).2.result = _
  unfold loadFile saveFile
  rw [free, nul]
  cases t.write p (Utf8.encode (fileText defaults)) <;> rfl

theorem save_of_write (env : Environment) {t t' : FileTree} {p : Path} {c : Settings}
    (nul : p.hasNul = false) (h : t.write p (Utf8.encode (fileText c)) = .ok t') :
    save env t c (some p) = (t', pure true) := by
  show saveFile t p c = _
  unfold saveFile
  rw [nul, h]
  rfl

theorem save_of_refused (env : Environment) {t : FileTree} {p : Path} {c : Settings} {e : FileError}
    (nul : p.hasNul = false) (h : t.write p (Utf8.encode (fileText c)) = .error e) :
    save env t c (some p) = (t, do
      .emit (.settingsUnsaved p e)
      return false) := by
  show saveFile t p c = _
  unfold saveFile
  rw [nul, h]
  rfl

/-- **Settings that were saved are loaded.**  Saving always says whether it succeeded.  If
it did, loading gives the settings laid over the defaults, with nothing in the log, and
the settings themselves if they were loaded once; if not, nothing has changed and there is
one error in the log. -/
theorem load_of_save (env : Environment) (t : FileTree) {c : Settings} {p : Path}
    (exact : (Json.obj c).every Json.notFloat = true)
    (distinct : (Json.obj c).every Json.distinctKeys = true) (nul : p.hasNul = false) :
    ∃ saved, (save env t c (some p)).2.result = .ok saved ∧
      (saved = true → ∀ env',
        load env' (save env t c (some p)).1 (some p) =
          ((save env t c (some p)).1, pure (Json.mergeMembers defaults c)) ∧
        ((∃ env₀ t₀ path₀, (load env₀ t₀ path₀).2.result = .ok c) →
          load env' (save env t c (some p)).1 (some p) = ((save env t c (some p)).1, pure c))) ∧
      (saved = false → (save env t c (some p)).1 = t ∧
        ∃ note, (save env t c (some p)).2.events = [note] ∧ note.level = .error) := by
  cases hw : t.write p (Utf8.encode (fileText c)) with
  | ok t' =>
    rw [save_of_write env nul hw]
    refine ⟨true, rfl, fun _ env' => ?_, (nomatch ·)⟩
    have loaded := load_of_write env' exact distinct nul hw
    refine ⟨loaded, fun ⟨env₀, t₀, path₀, h₀⟩ => ?_⟩
    rwa [Json.mergeMembers_of_covers (covers_of_load h₀) distinct] at loaded
  | error e =>
    rw [save_of_refused env nul hw]
    exact ⟨false, rfl, (nomatch ·), fun _ => ⟨rfl, .settingsUnsaved p e, rfl, rfl⟩⟩

/-- Settings with an object, a list, an escaped key, a text beyond 16 bits and a negative
number are saved to a new file and loaded. -/
theorem load_of_save_new_file :
    let c : Settings :=
      [("polling", .obj [("interval_seconds", .int 5)]),
       ("\"naïve\"", .arr [.int (-120), .str "🔋\n", .bool true, .null, .arr [], .obj []])]
    let p : Path := "settings.json"
    (Json.obj c).every Json.notFloat = true ∧ (Json.obj c).every Json.distinctKeys = true ∧
      p.hasNul = false ∧ (save {} .empty c (some p)).2.result = .ok true ∧
      load {} (save {} .empty c (some p)).1 (some p) =
        ((save {} .empty c (some p)).1, pure (Json.mergeMembers defaults c)) := by
  intro c p
  have exact : (Json.obj c).every Json.notFloat = true := by decide
  have distinct : (Json.obj c).every Json.distinctKeys = true := by decide
  have nul : p.hasNul = false := by decide +kernel
  have saved : (save {} .empty c (some p)).2.result = .ok true := by
    rfl
  obtain ⟨_, hs, htrue, -⟩ := load_of_save {} .empty exact distinct nul
  obtain rfl : _ = true := Except.ok.inj (hs.symm.trans saved)
  exact ⟨exact, distinct, nul, saved, (htrue rfl {}).1⟩

end Settings
end PowerSupply
