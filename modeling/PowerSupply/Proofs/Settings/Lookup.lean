/-
# What loaded settings say under a key

Settings that were loaded are the object that their file holds laid over the defaults, or
the defaults where there is no file or no object in it (`eq_of_load`).  So under the two
keys of a default they say what the file says there, of whatever kind it is, and the
default where the file says nothing (`lookup_of_load`).  Wherever something is noted about a
file, its settings are the defaults (`silent_or_defaults_of_load`).
-/

import PowerSupply.Proofs.Json.Walk
import PowerSupply.Proofs.Settings.Content

namespace PowerSupply
namespace Settings

/-- The members of the object that a settings file holds, if it holds one. -/
def own? (t : FileTree) (p : Path) : Option Json.Members :=
  match t.read p with
  | .error _ => none
  | .ok bytes =>
    match Utf8.decode bytes with
    | .error _ => none
    | .ok text =>
      match Json.read text.toList with
      | .ok (.obj own) => some own
      | _ => none

/-- What a settings file says under nested keys, or a value to fall back on. -/
def said (t : FileTree) (p : Path) (keys : List String) (fallback : Json) : Json :=
  ((own? t p).bind fun own => (Json.obj own).lookup keys).getD fallback

variable {env : Environment} {t : FileTree} {p : Path} {path : Option Path} {s : Settings}

theorem own?_of_error {e : FileError} (h : t.read p = .error e) : own? t p = none := by
  unfold own?
  rw [h]

/-- The object in a settings file has no key twice. -/
theorem distinctKeys_of_own? {own : Json.Members} (h : own? t p = some own) :
    (Json.obj own).every Json.distinctKeys = true := by
  unfold own? at h
  split at h
  · cases h
  · split at h
    · cases h
    · split at h
      · rename_i u hu
        obtain rfl := Option.some.inj h
        exact Json.distinctKeys_of_read hu
      · cases h

/-- A file that is read gives its object laid over the defaults. -/
theorem eq_of_readFile (h : (readFile t p).result = .ok s) :
    s = (own? t p).elim defaults (Json.mergeMembers defaults) := by
  unfold readFile at h
  unfold own?
  cases hr : t.read p with
  | error e =>
    rw [hr] at h
    exact (Except.ok.inj h).symm
  | ok bytes =>
    simp only [hr] at h
    dsimp only
    cases hd : Utf8.decode bytes with
    | error d =>
      rw [hd] at h
      cases h
    | ok text =>
      simp only [hd] at h
      dsimp only
      cases hv : Json.read (lineFeeds text.toList) with
      | error d =>
        have hno : ∀ v, Json.read text.toList ≠ .ok v := by
          intro v hv'
          rw [read_lineFeeds.2 hv'] at hv
          cases hv
        rw [hv] at h
        obtain rfl := Except.ok.inj h
        cases hv' : Json.read text.toList with
        | error d' => rfl
        | ok v => exact absurd hv' (hno v)
      | ok v =>
        rw [hv] at h
        rw [read_lineFeeds.1 hv]
        cases v <;> exact (Except.ok.inj h).symm

/-- At a path that is free there is no object. -/
theorem own?_of_free (nul : p.hasNul = false) (free : isThere t p = .ok false) :
    own? t p = none := by
  unfold isThere at free
  rw [nul, if_neg Bool.false_ne_true] at free
  split at free
  · cases free
  · cases free
  · rename_i e _ hstat
    refine own?_of_error (e := e) ?_
    unfold FileTree.read
    rw [hstat]
    rfl

/-- A path that cannot be asked for cannot be written either. -/
theorem hasNul_of_saveFile {written : Bool} (h : (saveFile t p s).2.result = .ok written) :
    p.hasNul = false := by
  unfold saveFile at h
  by_cases hnul : p.hasNul = true
  · rw [if_pos hnul] at h
    cases h
  · exact Bool.eq_false_iff.2 hnul

/-- A path whose settings are loaded gives its object laid over the defaults; a free one
gives the defaults, once they could be saved. -/
theorem eq_of_loadFile (h : (loadFile t p).2.result = .ok s) :
    s = (own? t p).elim defaults (Json.mergeMembers defaults) := by
  unfold loadFile at h
  split at h
  · cases h
  · exact eq_of_readFile h
  · rename_i free
    obtain ⟨_, hsaved, hs⟩ := Trace.result_bind_eq_ok.1 h
    rw [own?_of_free (hasNul_of_saveFile hsaved) free]
    exact (Except.ok.inj hs).symm

/-- Settings are loaded from the path that is found. -/
theorem load_of_resolve {t' : FileTree} (h : resolve env t path = (t', .ok p)) :
    load env t path = loadFile t' p := by
  unfold load
  rw [h]

/-- Settings are loaded only if a path is found. -/
theorem exists_resolve_of_load (h : (load env t path).2.result = .ok s) :
    ∃ t' p, resolve env t path = (t', .ok p) ∧ load env t path = loadFile t' p := by
  cases hres : resolve env t path with
  | mk t' found =>
    cases found with
    | error f =>
      unfold load at h
      rw [hres] at h
      cases h
    | ok p => exact ⟨t', p, rfl, load_of_resolve hres⟩

/-- **What is loaded** is the object of the file laid over the defaults. -/
theorem eq_of_load (h : (load env t path).2.result = .ok s) :
    ∃ t' p, resolve env t path = (t', .ok p) ∧
      s = (own? t' p).elim defaults (Json.mergeMembers defaults) := by
  obtain ⟨t', p, hp, loaded⟩ := exists_resolve_of_load h
  rw [loaded] at h
  exact ⟨t', p, hp, eq_of_loadFile h⟩

/-- A file that something was noted about gives the defaults. -/
theorem silent_or_defaults_of_readFile (h : (readFile t p).result = .ok s) :
    (readFile t p).events = [] ∨ s = defaults := by
  unfold readFile at h ⊢
  split at h
  · exact .inr (Except.ok.inj h).symm
  · split at h
    · cases h
    · dsimp only at h ⊢
      split at h
      · exact .inr (Except.ok.inj h).symm
      · exact .inl rfl
      · exact .inr (Except.ok.inj h).symm

/-- **Settings that something was noted about are the defaults.** -/
theorem silent_or_defaults_of_load (h : (load env t path).2.result = .ok s) :
    (load env t path).2.events = [] ∨ s = defaults := by
  obtain ⟨t', p, -, loaded⟩ := exists_resolve_of_load h
  rw [loaded] at h ⊢
  unfold loadFile at h ⊢
  split at h
  · cases h
  · exact silent_or_defaults_of_readFile h
  · obtain ⟨_, -, hs⟩ := Trace.result_bind_eq_ok.1 h
    exact .inr (Except.ok.inj hs).symm

/-- **What loaded settings say under the keys of a default** is what the file says there, or
else the default. -/
theorem lookup_of_load {k₁ k₂ : String} {inner : Json.Members} {leaf : Json}
    (h₁ : Json.Members.get? k₁ defaults = some (.obj inner))
    (h₂ : Json.Members.get? k₂ inner = some leaf) (hleaf : ∀ ms, leaf ≠ .obj ms)
    (h : (load env t path).2.result = .ok s) :
    ∃ t' p, resolve env t path = (t', .ok p) ∧
      ((Json.obj s).lookup [k₁, k₂]).getD leaf = said t' p [k₁, k₂] leaf := by
  obtain ⟨t', p, hp, rfl⟩ := eq_of_load h
  have hdefault : (Json.obj defaults).lookup [k₁, k₂] = some leaf := by
    show (Json.Members.get? k₁ defaults).bind (fun v => (v.member? k₂).bind some) = _
    rw [h₁]
    show (Json.Members.get? k₂ inner).bind some = _
    rw [h₂]
    rfl
  refine ⟨t', p, hp, ?_⟩
  unfold said
  cases ho : own? t' p with
  | none =>
    show ((Json.obj defaults).lookup [k₁, k₂]).getD leaf = leaf
    rw [hdefault]
    rfl
  | some own => exact Json.lookup_mergeMembers (distinctKeys_of_own? ho) hdefault hleaf

end Settings
end PowerSupply
