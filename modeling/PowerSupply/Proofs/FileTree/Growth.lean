/-
# Trees that grow

A tree grows where everything that was there stays and only nodes of a certain kind are added
(`GrowsBy`).  Making directories only adds directories, whether or not it succeeds
(`growsBy_makeDirectories`), so all files keep their bytes, and all paths that led somewhere
lead there still (`GrowsBy.stat`, `GrowsBy.read`).  So does writing to a path where there is
nothing, also through a link (`growsBy_write`).

If it succeeds there is a directory (`stat_of_makeDirectories`), and to make a directory that
is there changes nothing (`makeDirectories_of_directory`).
-/

import PowerSupply.Proofs.FileTree.Write

namespace PowerSupply
namespace FileTree

/-- Whether a tree has everything that another one has, and beside it only new nodes. -/
structure GrowsBy (new : Node → Prop) (t t' : FileTree) : Prop where
  here : t'.here = t.here
  kept (l : Location) (n : Node) (h : t.node? l = some n) : t'.node? l = some n
  added (l : Location) (n : Node) (h : t'.node? l = some n) : t.node? l = some n ∨ new n

namespace GrowsBy

variable {new : Node → Prop} {t t' t'' : FileTree}

theorem refl (t : FileTree) : GrowsBy new t t := ⟨rfl, fun _ _ h => h, fun _ _ h => .inl h⟩

theorem trans (h : GrowsBy new t t') (h' : GrowsBy new t' t'') : GrowsBy new t t'' where
  here := h'.here.trans h.here
  kept l n hn := h'.kept l n (h.kept l n hn)
  added l n hn := (h'.added l n hn).elim (h.added l n) .inr

theorem mono {more : Node → Prop} (h : GrowsBy new t t') (hmore : ∀ n, new n → more n) :
    GrowsBy more t t' :=
  ⟨h.here, h.kept, fun l n hn => (h.added l n hn).imp_right (hmore n)⟩

/-- A node that is put where there was none is all that is added. -/
theorem put {l : Location} {n : Node} (hfree : t.node? l = none) (hnew : new n) :
    GrowsBy new t (t.put l n) where
  here := rfl
  kept k m hk := by
    rw [node?_put_of_ne, hk]
    rintro rfl
    rw [hfree] at hk
    cases hk
  added k m hk := by
    by_cases hkl : k = l
    · subst hkl
      have root : k ≠ [] := by
        rintro rfl
        cases hfree
      rw [node?_put_self t n root] at hk
      exact .inr (Option.some.inj hk ▸ hnew)
    · rw [node?_put_of_ne t n hkl] at hk
      exact .inl hk

/-- A tree to which no link is added keeps the ways. -/
theorem keepsWays (h : GrowsBy new t t') (hlink : ∀ target, ¬new (.link target)) :
    KeepsWays t t' where
  here := h.here
  directory l hl := h.kept l _ hl
  link l target := ⟨fun hl => (h.added l _ hl).resolve_right (hlink target), h.kept l _⟩

/-- **Paths lead where they led.** -/
theorem stat (h : GrowsBy new t t') (hlink : ∀ target, ¬new (.link target)) {p : Path} {n : Node}
    (hn : t.stat p = .ok n) : t'.stat p = .ok n := by
  obtain ⟨l, hl, hn⟩ := stat_eq_ok.1 hn
  exact stat_eq_ok.2 ⟨l, locate_of_keepsWays (h.keepsWays hlink) hl, h.kept l n hn⟩

/-- **Files keep their bytes.** -/
theorem read (h : GrowsBy new t t') (hlink : ∀ target, ¬new (.link target)) {p : Path}
    {bytes : List UInt8} (hp : t.read p = .ok bytes) : t'.read p = .ok bytes := by
  unfold FileTree.read at hp ⊢
  obtain ⟨n, hn, hbytes⟩ := bind_eq_ok.1 hp
  rw [h.stat hlink hn]
  exact hbytes

end GrowsBy

variable {t t' : FileTree} {p : Path}

/-- **A file that is written where there is nothing** is all that is added. -/
theorem growsBy_write {bytes : List UInt8} (hfree : ∀ n, t.stat p ≠ .ok n)
    (h : t.write p bytes = .ok t') : GrowsBy (· = .file bytes) t t' := by
  obtain ⟨l, hl, -, rfl⟩ := write_eq_ok.1 h
  refine .put (Option.eq_none_iff_forall_ne_some.2 fun n hn => hfree n ?_) rfl
  exact stat_eq_ok.2 ⟨l, locate_of_keepsWays (.refl t) hl, hn⟩

/-! ### One directory -/

/-- What becomes of a directory that is to be made in a directory. -/
theorem makeDirectory_in_directory {name : String} {l : Location}
    (hname : p.names.getLast? = some name) (hlimit : p.text.utf8ByteSize < pathLimit)
    (hl : t.locate p.parent = .ok l) (hd : t.node? l = some .directory) :
    t.makeDirectory p =
      if name = ".." then .error .exists
      else if nameLimit < name.utf8ByteSize then .error .nameTooLong
      else if (t.node? (name :: l)).isSome then .error .exists
      else .ok (t.put (name :: l) .directory) := by
  unfold makeDirectory
  simp only [hname, if_neg (Nat.not_le.2 hlimit), hl, bind, Except.bind, hd]

/-- A directory is made in a directory only. -/
theorem exists_of_makeDirectory (h : t.makeDirectory p = .ok t') :
    ∃ name l, p.names.getLast? = some name ∧ p.text.utf8ByteSize < pathLimit ∧
      t.locate p.parent = .ok l ∧ t.node? l = some .directory := by
  unfold makeDirectory at h
  split at h
  · cases h
  · rename_i name hname
    by_cases hlimit : pathLimit ≤ p.text.utf8ByteSize
    · simp only [if_pos hlimit] at h
      cases h
    simp only [if_neg hlimit] at h
    obtain ⟨l, hl, h⟩ := bind_eq_ok.1 h
    refine ⟨name, l, hname, Nat.lt_of_not_le hlimit, hl, ?_⟩
    split at h
    · assumption
    · cases h
    · cases h

/-- **A directory that is made** is put into a directory, where there was nothing. -/
theorem put_of_makeDirectory (h : t.makeDirectory p = .ok t') :
    ∃ name l, p.names.getLast? = some name ∧ p.text.utf8ByteSize < pathLimit ∧
      t.locate p.parent = .ok l ∧ t.node? l = some .directory ∧ name ≠ ".." ∧
      name.utf8ByteSize ≤ nameLimit ∧ t.node? (name :: l) = none ∧
      t' = t.put (name :: l) .directory := by
  obtain ⟨name, l, hname, hlimit, hl, hd⟩ := exists_of_makeDirectory h
  rw [makeDirectory_in_directory hname hlimit hl hd] at h
  split at h
  · cases h
  split at h
  · cases h
  split at h
  · cases h
  rename_i hup hshort hfree
  exact ⟨name, l, hname, hlimit, hl, hd, hup, Nat.le_of_not_lt hshort,
    Option.not_isSome_iff_eq_none.1 hfree, (Except.ok.inj h).symm⟩

theorem growsBy_makeDirectory (h : t.makeDirectory p = .ok t') :
    GrowsBy (· = .directory) t t' := by
  obtain ⟨name, l, -, -, -, -, -, -, hfree, rfl⟩ := put_of_makeDirectory h
  exact .put hfree rfl

/-- Whether a path does not end in a component that is no name. -/
def EndsInName (p : Path) : Prop := ∀ name, p.names.getLast? = some name → name ≠ "" ∧ name ≠ "."

theorem endsInName_join (up : Path) {text : String} (hrel : (Path.ofText text).anchor = .relative)
    (hnames : (Path.ofText text).names ≠ []) : EndsInName (up / Path.ofText text) := by
  intro name hname
  have names : (up / Path.ofText text).names = up.names ++ (Path.ofText text).names :=
    congrArg Path.names (Path.join_relative hrel)
  rw [names, List.getLast?_append, List.getLast?_eq_some_getLast hnames] at hname
  exact Path.names_ofText (Option.some.inj hname ▸ List.getLast_mem hnames)

/-- **A directory that was made is there.** -/
theorem stat_of_makeDirectory (hp : EndsInName p) (h : t.makeDirectory p = .ok t') :
    t'.stat p = .ok .directory := by
  have grown := growsBy_makeDirectory h
  obtain ⟨name, l, hname, hlimit, hl, hd, hup, hshort, hfree, rfl⟩ := put_of_makeDirectory h
  have ways := grown.keepsWays fun target h => nomatch h
  have hnode := node?_put_self t .directory (List.cons_ne_nil name l)
  have hplain : Plain name := ⟨(hp name hname).1, (hp name hname).2, hup, hshort⟩
  exact stat_eq_ok.2 ⟨_, locate_of_parent hname hlimit (locate_of_keepsWays ways hl)
    (ways.directory l hd) hplain fun target ht => (by rw [hnode] at ht; cases ht), hnode⟩

/-- **A directory that is there** cannot be made, and not because its place is lacking. -/
theorem makeDirectory_of_directory (hp : EndsInName p) (h : t.stat p = .ok .directory) :
    ∃ e, t.makeDirectory p = .error e ∧ e ≠ .noEntry := by
  obtain ⟨r, hr, hdirectory⟩ := stat_eq_ok.1 h
  cases hname : p.names.getLast? with
  | none =>
    refine ⟨.exists, ?_, fun h => nomatch h⟩
    unfold makeDirectory
    rw [hname]
  | some name =>
    have hlimit := (locate_eq_ok.1 hr).1
    rcases locate_parent hname hr with hlong | ⟨l, hl, hd⟩
    · refine ⟨.nameTooLong, ?_, fun h => nomatch h⟩
      unfold makeDirectory
      simp only [hname, if_neg (Nat.not_le.2 hlimit), hlong, bind, Except.bind]
    · rw [makeDirectory_in_directory hname hlimit hl hd]
      split
      · exact ⟨_, rfl, fun h => nomatch h⟩
      split
      · exact ⟨_, rfl, fun h => nomatch h⟩
      split
      · exact ⟨_, rfl, fun h => nomatch h⟩
      -- there is nothing at the name, so the path does not lead to a directory
      rename_i hup hshort hfree
      have hnone := Option.not_isSome_iff_eq_none.1 hfree
      have hplain : Plain name :=
        ⟨(hp name hname).1, (hp name hname).2, hup, Nat.le_of_not_lt hshort⟩
      have way := locate_of_parent hname hlimit hl hd hplain fun target ht => by
        rw [hnone] at ht
        cases ht
      obtain rfl := Except.ok.inj (hr.symm.trans way)
      rw [hnone] at hdirectory
      cases hdirectory

/-! ### With the directories above it -/

/-- How an attempt to have a directory in a tree can end. -/
inductive Attempt (p : Path) (t : FileTree) : FileTree × Except (FileError × Path) Unit → Prop
  | made {t' : FileTree} (h : t.makeDirectory p = .ok t') : Attempt p t (t', .ok ())
  | there (h : t.stat p = .ok .directory) : Attempt p t (t, .ok ())
  | refused (f : FileError × Path) : Attempt p t (t, .error f)

theorem Attempt.growsBy {made : FileTree × Except (FileError × Path) Unit}
    (h : Attempt p t made) : GrowsBy (· = .directory) t made.1 := by
  cases h with
  | made h => exact growsBy_makeDirectory h
  | there | refused => exact .refl t

/-- An attempt that leaves the tree may succeed where there is a directory. -/
theorem Attempt.of_result {r : Except (FileError × Path) Unit}
    (h : r = .ok () → t.stat p = .ok .directory) : Attempt p t (t, r) := by
  cases r with
  | ok _ => exact .there (h rfl)
  | error f => exact .refused f

/-- **Directories are made by one attempt**, after those above were made if one is lacking. -/
theorem attempt_makeDirectoriesAt {anchor : Anchor} {names : List String}
    {made : FileTree × Except (FileError × Path) Unit}
    (h : makeDirectoriesAt anchor names t = made) :
    Attempt ⟨anchor, names.reverse⟩ t made ∨
      ∃ name up, names = name :: up ∧
        Attempt ⟨anchor, names.reverse⟩ (makeDirectoriesAt anchor up t).1 made := by
  unfold makeDirectoriesAt at h
  dsimp only at h
  split at h
  · rename_i t' hmade
    exact .inl (h ▸ .made hmade)
  · split at h
    · exact .inl (h ▸ .refused _)
    · rename_i name up _
      refine .inr ⟨name, up, rfl, ?_⟩
      split at h
      · rename_i habove
        rw [habove, ← h]
        exact .refused _
      · rename_i habove
        rw [habove, ← h]
        split
        · rename_i hmade
          exact .made hmade
        · exact .refused _
        · refine .of_result fun hr => ?_
          split at hr
          · assumption
          all_goals cases hr
  · refine .inl (h ▸ .of_result fun hr => ?_)
    split at hr
    · assumption
    all_goals cases hr

/-- Only directories are added, also by an attempt that is refused. -/
theorem growsBy_makeDirectoriesAt (anchor : Anchor) (names : List String) (t : FileTree) :
    GrowsBy (· = .directory) t (makeDirectoriesAt anchor names t).1 := by
  induction names with
  | nil =>
    rcases attempt_makeDirectoriesAt rfl with h | ⟨_, _, hnames, -⟩
    · exact h.growsBy
    · cases hnames
  | cons name up ih =>
    rcases attempt_makeDirectoriesAt rfl with h | ⟨_, _, hnames, h⟩
    · exact h.growsBy
    · cases hnames
      exact ih.trans h.growsBy

/-- **Making directories adds directories** and nothing else. -/
theorem growsBy_makeDirectories (t : FileTree) (p : Path) :
    GrowsBy (· = .directory) t (t.makeDirectories p).1 :=
  growsBy_makeDirectoriesAt ..

/-- **If directories were made, there is one.** -/
theorem stat_of_makeDirectories (hp : EndsInName p) (h : t.makeDirectories p = (t', .ok ())) :
    t'.stat p = .ok .directory := by
  have there {u : FileTree} {made : FileTree × Except (FileError × Path) Unit}
      (ha : Attempt p u made) (hok : made.2 = .ok ()) : made.1.stat p = .ok .directory := by
    cases ha with
    | made h => exact stat_of_makeDirectory hp h
    | there h => exact h
    | refused => cases hok
  have path : (⟨p.anchor, p.names.reverse.reverse⟩ : Path) = p := by rw [List.reverse_reverse]
  rcases attempt_makeDirectoriesAt h with ha | ⟨_, _, -, ha⟩
  · exact there (path ▸ ha) rfl
  · exact there (path ▸ ha) rfl

/-- **Where there is a directory** nothing is made. -/
theorem makeDirectories_of_directory (hp : EndsInName p) (h : t.stat p = .ok .directory) :
    t.makeDirectories p = (t, .ok ()) := by
  obtain ⟨e, he, hentry⟩ := makeDirectory_of_directory hp h
  unfold makeDirectories makeDirectoriesAt
  dsimp only
  rw [List.reverse_reverse, he, h]
  cases e with
  | noEntry => exact absurd rfl hentry
  | _ => rfl

end FileTree
end PowerSupply
