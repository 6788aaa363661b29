/-
# Loading settings again

Loading settings twice is loading them once (`load_again`).  The first time may do something
to the file tree: it makes the directory of the settings file, and it puts the defaults where
there is nothing.  Neither touches a file that was there, for the tree only grows
(`growsBy_load`).  The second time finds the directory (`resolve_again`), and it finds either
what the first one found or the file with the defaults (`loadFile_again`): these laid over
themselves are the defaults.
-/

import PowerSupply.Proofs.FileTree.Growth
import PowerSupply.Proofs.Settings.Merging

namespace PowerSupply
namespace Settings

open FileTree (GrowsBy EndsInName)

variable {env : Environment} {t t' t'' : FileTree} {p : Path} {path : Option Path}

/-! ### The defaults in a file -/

/-- Whether bytes are a text that reads as the defaults. -/
def AreDefaults (bytes : List UInt8) : Prop :=
  ∃ text, bytes = Utf8.encode text ∧ Json.read text.toList = .ok (.obj defaults)

theorem notFloat_defaults : (Json.obj defaults).every Json.notFloat = true := by decide

/-- **What is written for the defaults** reads as the defaults. -/
theorem areDefaults_fileText : AreDefaults (Utf8.encode (fileText defaults)) := by
  refine ⟨fileText defaults, rfl, ?_⟩
  unfold fileText Json.indented
  rw [String.toList_ofList]
  exact Json.read_print Json.Layout.blank_indented notFloat_defaults distinctKeys_defaults

/-- What loading adds to a tree: directories, and files with the defaults. -/
inductive Added : Node → Prop
  | directory : Added .directory
  | file {bytes : List UInt8} (h : AreDefaults bytes) : Added (.file bytes)

theorem not_added_link (target : LinkTarget) : ¬Added (.link target) := fun h => nomatch h

/-! ### The path -/

/-- The directory of the settings file ends in a name. -/
theorem endsInName_directory {dir : Path} (h : directory env = .ok dir) : EndsInName dir := by
  have last (up : Path) : EndsInName (up / Path.ofText "batterystate") :=
    FileTree.endsInName_join up (by decide +kernel) (by decide +kernel)
  unfold directory at h
  split at h
  · obtain ⟨home, -, h⟩ := bind_eq_ok.1 h
    exact Except.ok.inj h ▸ last _
  · exact Except.ok.inj h ▸ last _

/-- Finding the path of the settings file makes directories at most. -/
theorem growsBy_resolve (env : Environment) (t : FileTree) (path : Option Path) :
    GrowsBy (· = .directory) t (resolve env t path).1 := by
  unfold resolve
  cases path with
  | some p => exact .refl t
  | none =>
    unfold prepare
    cases directory env with
    | error f => exact .refl t
    | ok dir =>
      have grown := FileTree.growsBy_makeDirectories t dir
      dsimp only
      split <;> rename_i h <;> rw [h] at grown <;> exact grown

/-- **The path is found again** in a tree that has grown since, and nothing is made then. -/
theorem resolve_again (h : resolve env t path = (t', .ok p)) (grown : GrowsBy Added t' t'') :
    resolve env t'' path = (t'', .ok p) := by
  unfold resolve at h ⊢
  cases path with
  | some q =>
    obtain rfl := Except.ok.inj (congrArg Prod.snd h)
    rfl
  | none =>
    unfold prepare at h ⊢
    cases hdir : directory env with
    | error f => rw [hdir] at h; cases h
    | ok dir =>
      rw [hdir] at h
      have ends := endsInName_directory hdir
      dsimp only at h ⊢
      split at h
      · rename_i made
        cases h
        have there := grown.stat not_added_link (FileTree.stat_of_makeDirectories ends made)
        rw [FileTree.makeDirectories_of_directory ends there]
      · cases h

/-! ### The file -/

theorem loadFile_of_write (nul : p.hasNul = false) (free : isThere t p = .ok false)
    (hw : t.write p (Utf8.encode (fileText defaults)) = .ok t') :
    loadFile t p = (t', pure defaults) := by
  unfold loadFile saveFile
  rw [free, nul, hw]
  rfl

/-- **Loading a file leaves the tree**, or puts the defaults where there is nothing. -/
theorem unchanged_or_made (t : FileTree) (p : Path) :
    (loadFile t p).1 = t ∨
      ∃ t', p.hasNul = false ∧ isThere t p = .ok false ∧
        t.write p (Utf8.encode (fileText defaults)) = .ok t' ∧
        loadFile t p = (t', pure defaults) := by
  unfold loadFile
  cases free : isThere t p with
  | error f => exact .inl rfl
  | ok there =>
    cases there with
    | true => exact .inl rfl
    | false =>
      unfold saveFile
      cases nul : p.hasNul with
      | true => exact .inl rfl
      | false =>
        cases hw : t.write p (Utf8.encode (fileText defaults)) with
        | error e => exact .inl rfl
        | ok t' => exact .inr ⟨t', rfl, rfl, rfl, rfl⟩

/-- Where nothing is found the path leads to nothing. -/
theorem stat_of_free (nul : p.hasNul = false) (free : isThere t p = .ok false) (n : Node) :
    t.stat p ≠ .ok n := by
  intro h
  unfold isThere at free
  rw [nul, h] at free
  cases free

/-- Loading a file adds the defaults at most. -/
theorem growsBy_loadFile (t : FileTree) (p : Path) : GrowsBy Added t (loadFile t p).1 := by
  rcases unchanged_or_made t p with h | ⟨t', nul, free, hw, h⟩
  · rw [h]
    exact .refl t
  · rw [h]
    refine (FileTree.growsBy_write (stat_of_free nul free) hw).mono ?_
    rintro _ rfl
    exact .file areDefaults_fileText

/-- **Loading a file again** gives what it gave, with the same notes, and changes nothing. -/
theorem loadFile_again (t : FileTree) (p : Path) :
    loadFile (loadFile t p).1 p = loadFile t p := by
  rcases unchanged_or_made t p with h | ⟨t', nul, free, hw, h⟩
  · rw [h]
  · rw [h]
    have loaded := load_of_write {} notFloat_defaults distinctKeys_defaults nul hw
    rwa [Json.mergeMembers_self distinctKeys_defaults] at loaded

/-- **Where there is nothing** a file with the defaults is put, if one can be. -/
theorem made_of_free (nul : p.hasNul = false) (free : isThere t p = .ok false) :
    ((∃ bytes t', t.write p bytes = .ok t') →
      (loadFile t p).1.read p = .ok (Utf8.encode (fileText defaults))) ∧
    ((¬∃ bytes t', t.write p bytes = .ok t') → (loadFile t p).1 = t) := by
  refine ⟨fun ⟨bytes, _, hw⟩ => ?_, fun hno => ?_⟩
  · obtain ⟨t', made⟩ := FileTree.exists_write_of_write hw (Utf8.encode (fileText defaults))
    rw [loadFile_of_write nul free made]
    exact FileTree.read_of_write made
  · rcases unchanged_or_made t p with h | ⟨t', -, -, hw, -⟩
    · exact h
    · exact absurd ⟨_, t', hw⟩ hno

/-- Where there is nothing, settings are loaded only if the path has no NUL. -/
theorem hasNul_of_loadFile {c : Settings} (free : isThere t p = .ok false)
    (hc : (loadFile t p).2.result = .ok c) : p.hasNul = false := by
  unfold loadFile at hc
  rw [free] at hc
  obtain ⟨_, hsaved, -⟩ := Trace.result_bind_eq_ok.1 hc
  exact hasNul_of_saveFile hsaved

/-! ### Both together -/

/-- **Loading adds** directories and files with the defaults to a tree, and nothing else,
whether or not it succeeds. -/
theorem growsBy_load (env : Environment) (t : FileTree) (path : Option Path) :
    GrowsBy Added t (load env t path).1 := by
  have grown : GrowsBy Added t (resolve env t path).1 := by
    refine (growsBy_resolve env t path).mono ?_
    rintro _ rfl
    exact .directory
  unfold load
  split <;> rename_i h <;> rw [h] at grown
  · exact grown
  · exact grown.trans (growsBy_loadFile _ _)

/-- **Loading settings again**, from a given path or from the settings file, gives the same
settings with the same notes, and leaves the tree as the first time left it.

The first time leaves every file that there was with its bytes, under all paths that lead to
it, even if it ends in a fault.  The files that are new have the defaults.

If there is nothing at the path, once the directory of the settings file is there, the
settings are the defaults.  If a file can be written there, it now has a text that reads as the
defaults; if not, nothing is put there. -/
theorem load_again (env : Environment) (t : FileTree) (path : Option Path) :
    let loaded := load env t path
    (∀ q bytes, t.read q = .ok bytes → loaded.1.read q = .ok bytes) ∧
    (∀ l bytes, t.node? l = some (.file bytes) → loaded.1.node? l = some (.file bytes)) ∧
    (∀ l bytes, loaded.1.node? l = some (.file bytes) →
      t.node? l = some (.file bytes) ∨ AreDefaults bytes) ∧
    ∀ c, loaded.2.result = .ok c →
      load env loaded.1 path = loaded ∧
      ∃ t' p, resolve env t path = (t', .ok p) ∧
        (isThere t' p = .ok false →
          c = defaults ∧
          ((∃ bytes t'', t'.write p bytes = .ok t'') →
            ∃ bytes, loaded.1.read p = .ok bytes ∧ AreDefaults bytes) ∧
          ((¬∃ bytes t'', t'.write p bytes = .ok t'') → loaded.1 = t')) := by
  intro loaded
  have grown : GrowsBy Added t loaded.1 := growsBy_load env t path
  refine ⟨fun q bytes h => grown.read not_added_link h, fun l bytes h => grown.kept l _ h,
    fun l bytes h => (grown.added l _ h).imp_right fun added => ?_, fun c hc => ?_⟩
  · cases added with
    | file h => exact h
  obtain ⟨t', p, hres, first⟩ := exists_resolve_of_load hc
  replace first : loaded = loadFile t' p := first
  have second := load_of_resolve (resolve_again hres (growsBy_loadFile t' p))
  rw [first] at hc ⊢
  refine ⟨second.trans (loadFile_again t' p), t', p, hres, fun free => ?_⟩
  have nul := hasNul_of_loadFile free hc
  have given := load_of_free env nul free
  obtain ⟨made, refused⟩ := made_of_free nul free
  exact ⟨Except.ok.inj (hc.symm.trans given), fun hw => ⟨_, made hw, areDefaults_fileText⟩, refused⟩

/-- The settings file is a link that leads to nothing yet, beside a file that is no text. -/
theorem load_again_through_dangling_link :
    let env : Environment := { configHome := "conf" }
    let p : Path := "conf/batterystate/config.json"
    let t := FileTree.empty.changes [.file "notes.txt" [0xFF], .link p (.ofText "stored.json")]
    let loaded := load env t none
    (∀ n, t.stat p ≠ .ok n) ∧ loaded.2.result = .ok defaults ∧ load env loaded.1 none = loaded ∧
      loaded.1.read "notes.txt" = .ok [0xFF] ∧
      ∃ bytes, loaded.1.read p = .ok bytes ∧ AreDefaults bytes := by
  intro env p t loaded
  have nul : p.hasNul = false := by decide +kernel
  have notes : t.read "notes.txt" = .ok [0xFF] := eq_ok_of_toOption (by decide +kernel)
  have nothing : isThere t p = .ok false := eq_ok_of_toOption (by decide +kernel)
  have found : resolve env t none = ((resolve env t none).1, .ok p) :=
    Prod.ext rfl (eq_ok_of_toOption (by decide +kernel))
  have free : isThere (resolve env t none).1 p = .ok false := eq_ok_of_toOption (by decide +kernel)
  have result : loaded.2.result = .ok defaults :=
    (congrArg (·.2.result) (load_of_resolve found)).trans (load_of_free env nul free)
  obtain ⟨kept, -, -, again⟩ := load_again env t none
  obtain ⟨second, t', p', found', given⟩ := again defaults result
  obtain ⟨rfl, hp⟩ := Prod.mk.inj (found.symm.trans found')
  obtain rfl := Except.ok.inj hp
  obtain ⟨t', made, -⟩ := exists_ok_of_any (x := (resolve env t none).1.write p [])
    (p := fun _ => true) (by decide +kernel)
  exact ⟨stat_of_free nul nothing, result, second, kept _ _ notes, (given free).2.1 ⟨_, t', made⟩⟩

end Settings
end PowerSupply
