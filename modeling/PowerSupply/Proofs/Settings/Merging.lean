/-
# Settings that are merged

Settings of an owner are laid over a base, key by key.  What the result says under a dotted
key depends on how the key can be followed through the owner's settings (`get_of_merged`).

* It leads to a value: that is the answer, merged with what the base has there if both are
  objects.
* It stops where an object lacks a key: the answer is that of the base.
* It stops at a value that is no object: there is no answer, whatever the base has below.

Merging once is enough (`merged_again`).  So what is loaded from a file that holds merged
settings is what the file holds, however often it is loaded.
-/

import Mathlib.Logic.Function.Iterate
import PowerSupply.Proofs.Json.Absorption
import PowerSupply.Proofs.Settings.Lookup

namespace PowerSupply
namespace Settings

open Json (Members walk dotted)

variable {base upper : Settings}

/-! ### What merged settings say -/

/-- What merged settings say under a key. -/
theorem get_mergeMembers (hu : (Json.obj upper).every Json.distinctKeys = true) (key : String)
    (fallback : Json) :
    get (Json.mergeMembers base upper) key fallback =
      ((walk (dotted key) (.obj upper)).over ((Json.obj base).lookup (dotted key))).getD fallback :=
  congrArg (Option.getD · fallback) (Json.lookup_merge (dotted key) (.obj base) (.obj upper) hu)

/-- **What merged settings say**, under every dotted key and for every value to fall back on.

Where the key leads to a value in the upper settings, the answer is that value if it is no
object; if it is one, the answer is its merge over what the base has there if that is an object
too, and else the object itself.  Where an object lacks the next key, the answer is that of the
base, and where a value that is no object is in the way, it is the fallback.

Wherever both sides have an object, so has the merge, and its keys are those of the base in
their order and then the new ones in theirs, without repetition. -/
theorem get_of_merged (hb : (Json.obj base).every Json.distinctKeys = true)
    (hu : (Json.obj upper).every Json.distinctKeys = true) :
    let merged : Settings := Json.mergeMembers base upper
    (∀ (key : String) (fallback : Json),
      (∀ v, walk (dotted key) (.obj upper) = .found v → (∀ ms, v ≠ .obj ms) →
        get merged key fallback = v) ∧
      (∀ own, walk (dotted key) (.obj upper) = .found (.obj own) →
        (∀ below, (Json.obj base).lookup (dotted key) = some (.obj below) →
          get merged key fallback = .obj (Json.mergeMembers below own)) ∧
        ((∀ below, (Json.obj base).lookup (dotted key) ≠ some (.obj below)) →
          get merged key fallback = .obj own)) ∧
      (walk (dotted key) (.obj upper) = .lacking →
        get merged key fallback = get base key fallback) ∧
      (walk (dotted key) (.obj upper) = .blocked → get merged key fallback = fallback)) ∧
    ∀ ks bs us, (Json.obj base).lookup ks = some (.obj bs) →
      (Json.obj upper).lookup ks = some (.obj us) →
      ∃ ms, (Json.obj merged).lookup ks = some (.obj ms) ∧
        Members.keys ms = Members.keys bs ++ (Members.keys us).filter (· ∉ Members.keys bs) ∧
        (Members.keys ms).Nodup := by
  intro merged
  refine ⟨fun key fallback => ⟨fun v hv leaf => ?_, fun own hown => ⟨fun below hbelow => ?_,
    fun hnone => ?_⟩, fun hlacking => ?_, fun hblocked => ?_⟩, fun ks bs us hbs hus => ?_⟩
  · rw [get_mergeMembers hu, hv]
    cases (Json.obj base).lookup (dotted key) with
    | none => rfl
    | some b => exact Json.merge_of_not_obj leaf
  · rw [get_mergeMembers hu, hown, hbelow]
    rfl
  · rw [get_mergeMembers hu, hown]
    cases hl : (Json.obj base).lookup (dotted key) with
    | none => rfl
    | some b => exact Json.merge_of_leaf (fun ms hms => hnone ms (hms ▸ hl)) _
  · rw [get_mergeMembers hu, hlacking]
    rfl
  · rw [get_mergeMembers hu, hblocked]
    rfl
  · have inner := Json.every_of_lookup hu hus
    have found : (Json.obj merged).lookup ks = some (.obj (Json.mergeMembers bs us)) := by
      have law := Json.lookup_merge ks (.obj base) (.obj upper) hu
      rwa [Json.walk_eq_found_iff.2 hus, hbs] at law
    have distinct := Json.distinctKeys_merge (.obj us) (.obj bs) (Json.every_of_lookup hb hbs) inner
    exact ⟨_, found, Json.keys_mergeMembers (Json.every_distinctKeys_obj.1 inner).1 bs,
      (Json.every_distinctKeys_obj.1 distinct).1⟩

/-- A section that is laid over in part, one that is replaced by a text, a number that is
replaced by a section, and a section that is new. -/
theorem get_of_clashing_sections :
    let base : Settings :=
      [("polling", .obj [("interval", .int 30), ("jitter", .int 2)]),
       ("logging", .obj [("level", .str "INFO")]), ("root", .int 7)]
    let upper : Settings :=
      [("hooks", .obj [("start", .arr [])]), ("logging", .str "quiet"),
       ("polling", .obj [("jitter", .null), ("burst", .bool true)]),
       ("root", .obj [("path", .str "ps")])]
    let merged : Settings := Json.mergeMembers base upper
    (Json.obj base).every Json.distinctKeys = true ∧
    (Json.obj upper).every Json.distinctKeys = true ∧
    get merged "polling.jitter" (.int 0) = .null ∧
    get merged "polling" (.int 0) =
      .obj (Json.mergeMembers [("interval", .int 30), ("jitter", .int 2)]
        [("jitter", .null), ("burst", .bool true)]) ∧
    get merged "root" (.int 0) = .obj [("path", .str "ps")] ∧
    get merged "polling.interval" (.int 0) = get base "polling.interval" (.int 0) ∧
    get merged "logging.level" (.int 0) = .int 0 ∧
    ∃ ms, (Json.obj merged).lookup [] = some (.obj ms) ∧
      Members.keys ms = ["polling", "logging", "root", "hooks"] := by
  intro base upper merged
  have hb : (Json.obj base).every Json.distinctKeys = true := by decide +kernel
  have hu : (Json.obj upper).every Json.distinctKeys = true := by decide +kernel
  obtain ⟨hjitter, hpolling, hroot, hinterval, hlevel⟩ :
      dotted "polling.jitter" = ["polling", "jitter"] ∧ dotted "polling" = ["polling"] ∧
      dotted "root" = ["root"] ∧ dotted "polling.interval" = ["polling", "interval"] ∧
      dotted "logging.level" = ["logging", "level"] := by decide +kernel
  obtain ⟨said, sections⟩ := get_of_merged hb hu
  obtain ⟨ms, hms, hkeys, -⟩ := sections [] base upper rfl rfl
  refine ⟨hb, hu, ?_, ?_, ?_, ?_, ?_, ms, hms, hkeys.trans (by decide +kernel)⟩
  · exact (said "polling.jitter" (.int 0)).1 _ (by rw [hjitter]; rfl) fun _ h => nomatch h
  · exact ((said "polling" (.int 0)).2.1 _ (by rw [hpolling]; rfl)).1 _ (by rw [hpolling]; rfl)
  · refine ((said "root" (.int 0)).2.1 _ (by rw [hroot]; rfl)).2 fun below h => ?_
    rw [hroot] at h
    cases h
  · exact (said "polling.interval" (.int 0)).2.2.1 (by rw [hinterval]; rfl)
  · exact (said "logging.level" (.int 0)).2.2.2 (by rw [hlevel]; rfl)

/-! ### Merging again -/

/-- A file that holds an object is loaded as this object laid over the defaults. -/
theorem load_of_own? (env : Environment) {t : FileTree} {p : Path} {own : Settings}
    (nul : p.hasNul = false) (h : own? t p = some own) :
    load env t (some p) = (t, pure (Json.mergeMembers defaults own)) := by
  unfold own? at h
  split at h
  · cases h
  · rename_i bytes hread
    split at h
    · cases h
    · rename_i text htext
      split at h
      · rename_i u hu
        obtain rfl := Option.some.inj h
        rw [load_of_file env nul (FileTree.read_eq_ok_iff.1 hread)]
        unfold readFile
        simp only [hread, htext, read_lineFeeds.2 hu]
      · cases h

/-- A file to which settings were saved holds these settings. -/
theorem own?_of_write {t t' : FileTree} {p : Path} {c : Settings}
    (exact : (Json.obj c).every Json.notFloat = true)
    (distinct : (Json.obj c).every Json.distinctKeys = true)
    (h : t.write p (Utf8.encode (fileText c)) = .ok t') : own? t' p = some c := by
  have text : (fileText c).toList = Json.print .indented 0 (.obj c) := String.toList_ofList
  unfold own?
  simp only [FileTree.read_of_write h, Utf8.decode_encode, text,
    Json.read_print Json.Layout.blank_indented exact distinct]

theorem distinctKeys_defaults : (Json.obj defaults).every Json.distinctKeys = true := by decide

/-- **Merging once is enough**, for all settings in which no object has a key twice, and with
the order of the keys.

Nothing changes settings when it is laid over them or under them, and neither do the settings
themselves.  What was laid over a base can be laid over the result again, and the result can be
laid over the base any number of times.  So a file that holds settings that were merged over
the defaults is loaded as what it holds and stays as it is, and whatever was loaded can be laid
over the defaults again. -/
theorem merged_again (hb : (Json.obj base).every Json.distinctKeys = true)
    (hu : (Json.obj upper).every Json.distinctKeys = true) :
    Json.mergeMembers base [] = base ∧ Json.mergeMembers [] base = base ∧
    Json.mergeMembers base base = base ∧
    Json.mergeMembers (Json.mergeMembers base upper) upper = Json.mergeMembers base upper ∧
    Json.mergeMembers base (Json.mergeMembers base upper) = Json.mergeMembers base upper ∧
    (∀ n, (Json.mergeMembers base)^[n] (Json.mergeMembers base upper) =
      Json.mergeMembers base upper) ∧
    (∀ env t p, p.hasNul = false → own? t p = some (Json.mergeMembers defaults upper) →
      load env t (some p) = (t, pure (Json.mergeMembers defaults upper))) ∧
    ∀ env t path c, (load env t path).2.result = .ok c → Json.mergeMembers defaults c = c := by
  have again := Json.mergeMembers_base hb hu
  refine ⟨rfl, Json.mergeMembers_nil hb, Json.mergeMembers_self hb,
    Json.mergeMembers_mergeMembers_self hu base, again, fun n => Function.iterate_fixed again n,
    fun env t p nul hown => ?_, fun env t path c hc => ?_⟩
  · rw [load_of_own? env nul hown, Json.mergeMembers_base distinctKeys_defaults hu]
  · obtain ⟨t', p, -, rfl⟩ := eq_of_load hc
    cases hown : own? t' p with
    | none => exact Json.mergeMembers_self distinctKeys_defaults
    | some own => exact Json.mergeMembers_base distinctKeys_defaults (distinctKeys_of_own? hown)

/-- Sections and plain values that clash on both sides, a key that is new, and a file to which
the merge was saved. -/
theorem merged_again_with_clashes :
    let base : Settings :=
      [("polling", .obj [("interval", .int 30), ("jitter", .obj [("least", .int 1)])]),
       ("logging", .obj [("level", .str "INFO")]), ("root", .int 7)]
    let upper : Settings :=
      [("hooks", .obj [("start", .arr [])]), ("logging", .str "quiet"),
       ("polling", .obj [("jitter", .null), ("burst", .bool true)]),
       ("root", .obj [("path", .str "ps")])]
    let p : Path := "settings.json"
    (Json.obj base).every Json.distinctKeys = true ∧
    (Json.obj upper).every Json.distinctKeys = true ∧ p.hasNul = false ∧
    Json.mergeMembers (Json.mergeMembers base upper) upper = Json.mergeMembers base upper ∧
    (Json.mergeMembers base)^[3] (Json.mergeMembers base upper) = Json.mergeMembers base upper ∧
    ∃ t, own? t p = some (Json.mergeMembers defaults upper) ∧
      load {} t (some p) = (t, pure (Json.mergeMembers defaults upper)) := by
  intro base upper p
  have hb : (Json.obj base).every Json.distinctKeys = true := by decide +kernel
  have hu : (Json.obj upper).every Json.distinctKeys = true := by decide +kernel
  have nul : p.hasNul = false := by decide +kernel
  have exact : (Json.obj (Json.mergeMembers defaults upper)).every Json.notFloat = true := by
    decide +kernel
  have distinct := Json.distinctKeys_merge (.obj upper) (.obj defaults) distinctKeys_defaults hu
  obtain ⟨t, ht⟩ : ∃ t, FileTree.empty.write p
      (Utf8.encode (fileText (Json.mergeMembers defaults upper))) = .ok t := ⟨_, rfl⟩
  have hown := own?_of_write exact distinct ht
  obtain ⟨-, -, -, absorbed, -, often, loaded, -⟩ := merged_again hb hu
  exact ⟨hb, hu, nul, absorbed, often 3, t, hown, loaded {} t p nul hown⟩

end Settings
end PowerSupply
