/-
# Loading a file of any content

What becomes of a settings file depends on its bytes alone (`load_of_content`).

* Bytes of a text that reads as an object are laid over the defaults, in silence.  It is
  the text itself that is read: its line ends do not matter (`read_lineFeeds`).
* Bytes of any other text are worth one warning, and the defaults are used.
* Bytes that are those of no text are a fault, with nothing in the log
  (`fault_of_foreign_byte`); there are such bytes, since not every byte can start a
  character.

The file stays as it is.
-/

import PowerSupply.Proofs.Attribute
import PowerSupply.Proofs.Json.LineEnds
import PowerSupply.Proofs.Settings

namespace PowerSupply
namespace Settings

open Json (Alike)

/-- A text is alike to the text with every line end as a line feed. -/
theorem alike_lineFeeds (s : List Char) : Alike s (lineFeeds s) := by
  induction s using lineFeeds.induct with
  | case1 r ih => exact .left rfl rfl (.char '\n' ih)
  | case2 r _ ih =>
    rw [lineFeeds]
    · exact .ends rfl rfl ih
    · assumption
  | case3 c r _ hc ih =>
    rw [lineFeeds]
    · exact .char c ih
    · assumption
    · assumption
  | case4 => exact .nil

/-- **Line ends do not matter** to what a text reads as. -/
theorem read_lineFeeds {s : List Char} {v : Json} :
    Json.read (lineFeeds s) = .ok v ↔ Json.read s = .ok v :=
  ⟨fun h => Json.read_of_alike h (alike_lineFeeds s).symm,
    fun h => Json.read_of_alike h (alike_lineFeeds s)⟩

/-- **Loading a file of any content** leaves the file tree as it is.

Bytes of a text that reads as an object give its members laid over the defaults, and
nothing is noted.  Bytes of another text give the defaults and one warning.  Bytes of no
text at all are a fault, of which nothing is noted. -/
theorem load_of_content (env : Environment) {t : FileTree} {p : Path} {bytes : List UInt8}
    (nul : p.hasNul = false) (file : t.stat p = .ok (.file bytes)) :
    let loaded := load env t (some p)
    loaded.1 = t ∧
    (∀ text u, bytes = Utf8.encode text → Json.read text.toList = .ok (.obj u) →
      loaded.2 = pure (Json.mergeMembers defaults u)) ∧
    (∀ text, bytes = Utf8.encode text → (∀ u, Json.read text.toList ≠ .ok (.obj u)) →
      loaded.2.result = .ok defaults ∧
        ∃ note, loaded.2.events = [note] ∧ note.level = .warning) ∧
    ((∀ text, bytes ≠ Utf8.encode text) →
      loaded.2.events = [] ∧ ∃ d, loaded.2.result = .error (.undecodable d)) := by
  intro loaded
  have hread : t.read p = .ok bytes := FileTree.read_eq_ok_iff.2 file
  have hloaded : loaded = (t, readFile t p) := load_of_file env nul file
  rw [hloaded]
  refine ⟨rfl, fun text u hb hu => ?_, fun text hb hno => ?_, fun hno => ?_⟩
  · unfold readFile
    simp only [hread, Utf8.decode_eq_ok_iff.2 hb, read_lineFeeds.2 hu]
  · unfold readFile
    simp only [hread, Utf8.decode_eq_ok_iff.2 hb]
    cases hv : Json.read (lineFeeds text.toList) with
    | error d => exact ⟨rfl, _, rfl, rfl⟩
    | ok v =>
      cases v with
      | obj u => exact absurd (read_lineFeeds.1 hv) (hno u)
      | _ => exact ⟨rfl, _, rfl, rfl⟩
  · unfold readFile
    simp only [hread]
    cases hd : Utf8.decode bytes with
    | ok text => exact absurd (Utf8.decode_eq_ok_iff.1 hd) (hno text)
    | error d => exact ⟨rfl, d, rfl⟩

/-- A file whose lines end in three ways, with a key that is no default and comes twice. -/
theorem load_of_mixed_line_ends :
    let text := "\x7b\r\n\"polling\": \x7b\"interval_seconds\": 5\x7d,\r\"é\": [],\n\"é\": 0.5\x7d"
    let p : Path := "settings.json"
    let t := FileTree.empty.change (.file p (Utf8.encode text))
    p.hasNul = false ∧ t.stat p = .ok (.file (Utf8.encode text)) ∧
      ∃ u, Json.read text.toList = .ok (.obj u) ∧ u.map (·.1) = ["polling", "é"] ∧
        load {} t (some p) = (t, pure (Json.mergeMembers defaults u)) := by
  intro text p t
  have nul : p.hasNul = false := by decide +kernel
  have file : t.stat p = .ok (.file (Utf8.encode text)) := eq_ok_of_toOption (by decide +kernel)
  obtain ⟨htree, hobject, -, -⟩ := load_of_content {} nul file
  obtain ⟨v, hv, hkeys⟩ := exists_ok_of_any (x := Json.read text.toList)
    (p := fun v => v.keys? = some ["polling", "é"]) (by decide +kernel)
  obtain ⟨u, rfl, hu⟩ := Json.keys?_eq_some_iff.1 (of_decide_eq_true hkeys)
  exact ⟨nul, file, u, hv, hu, Prod.ext htree (hobject text u rfl hv)⟩

/-- **Not every file can be loaded:** there is a byte that no text has. -/
theorem fault_of_foreign_byte :
    let p : Path := "settings.json"
    let t := FileTree.empty.change (.file p [0xFF])
    t.stat p = .ok (.file [0xFF]) ∧ ¬∃ c, (load {} t (some p)).2.result = .ok c := by
  intro p t
  refine ⟨eq_ok_of_toOption (by decide +kernel), ?_⟩
  rintro ⟨c, hc⟩
  obtain ⟨f, hf⟩ := exists_error_of_isNone (x := (load {} t (some p)).2.result) (by decide +kernel)
  rw [hf] at hc
  cases hc

end Settings
end PowerSupply
