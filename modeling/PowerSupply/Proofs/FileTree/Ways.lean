/-
# Ways through a tree

What one step of a walk can be is said once (`walkWith_cons_eq_ok`).  From it follow the
three facts about walks that the rest needs, each by induction on the components, with the
links that are followed taken along as a hypothesis and then bounded by induction on their
number.

* A walk goes the same way in every tree with the same directories and links (`KeepsWays`),
  whatever becomes of the files (`walk_of_keepsWays`).
* A walk can go on by one name from the directory where it ends (`walk_concat`).
* A walk by one name more has passed through a directory (`exists_of_walk_concat`).

For a path the last two relate it to its parent (`locate_of_parent`, `locate_parent`).
-/

import PowerSupply.FileTree.Basic
import PowerSupply.Proofs.Trace

namespace PowerSupply
namespace FileTree

variable {t t' : FileTree} {purpose : Purpose} {m l r : Location} {name : String}
variable {follow follow' : Location → List String → Except FileError Location}

/-- Whether a component is the name of something in a directory. -/
structure Plain (name : String) : Prop where
  notEmpty : name ≠ ""
  notDot : name ≠ "."
  notUp : name ≠ ".."
  short : name.utf8ByteSize ≤ nameLimit

/-- A step of a walk by one component, from the directory `m`, and the rest of the walk.  It
stays, or goes up, or takes a name: then it goes to where a link leads, or to the name. -/
inductive Step (t : FileTree) (purpose : Purpose)
    (follow : Location → List String → Except FileError Location) (m : Location) (name : String)
    (rest : List String) (r : Location) : Prop
  | stay (hself : name = "" ∨ name = ".") (h : t.walkWith purpose follow m rest = .ok r)
  | up (hup : name = "..") (h : t.walkWith purpose follow m.tail rest = .ok r)
  | link {target : LinkTarget} (hname : Plain name)
      (hask : ¬(purpose = .write ∧ asksForDirectory rest))
      (hlink : t.node? (name :: m) = some (.link target))
      (h : follow (if target.absolute then [] else m) (target.components ++ rest) = .ok r)
  | enter (hname : Plain name) (hask : ¬(purpose = .write ∧ asksForDirectory rest))
      (hno : ∀ target, t.node? (name :: m) ≠ some (.link target))
      (h : t.walkWith purpose follow (name :: m) rest = .ok r)

/-- **A walk succeeds** where it is in a directory and makes a step. -/
theorem walkWith_cons_eq_ok {rest : List String} :
    t.walkWith purpose follow m (name :: rest) = .ok r ↔
      t.node? m = some .directory ∧ Step t purpose follow m name rest r := by
  rw [walkWith]
  constructor
  · intro h
    split at h
    · cases h
    · rename_i hm
      refine ⟨hm, ?_⟩
      split at h
      · rename_i hself
        exact .stay hself h
      split at h
      · rename_i hup
        exact .up hup h
      split at h
      · cases h
      split at h
      · cases h
      · rename_i hself hup hask hlimit
        have hname : Plain name :=
          ⟨fun h => hself (.inl h), fun h => hself (.inr h), hup, Nat.le_of_not_lt hlimit⟩
        split at h
        · rename_i target hlink
          exact .link hname hask hlink h
        · rename_i hno
          exact .enter hname hask hno h
    · cases h
  · rintro ⟨hm, hstep⟩
    rw [hm]
    dsimp only
    cases hstep with
    | stay hself h => rw [if_pos hself, h]
    | up hup h =>
      subst hup
      exact h
    | link hname hask hlink h =>
      rw [if_neg (not_or.2 ⟨hname.notEmpty, hname.notDot⟩), if_neg hname.notUp, if_neg hask,
        if_neg (Nat.not_lt.2 hname.short), hlink]
      exact h
    | enter hname hask hno h =>
      rw [if_neg (not_or.2 ⟨hname.notEmpty, hname.notDot⟩), if_neg hname.notUp, if_neg hask,
        if_neg (Nat.not_lt.2 hname.short)]
      split
      · rename_i target hlink
        exact absurd hlink (hno target)
      · exact h

/-! ### The same way in another tree -/

/-- Whether a tree has the directories and the links of another one, and no links beside
them. -/
structure KeepsWays (t t' : FileTree) : Prop where
  here : t'.here = t.here
  directory (l : Location) (h : t.node? l = some .directory) : t'.node? l = some .directory
  link (l : Location) (target : LinkTarget) :
    t'.node? l = some (.link target) ↔ t.node? l = some (.link target)

theorem KeepsWays.refl (t : FileTree) : KeepsWays t t := ⟨rfl, fun _ h => h, fun _ _ => Iff.rfl⟩

theorem walkWith_of_keepsWays (hk : KeepsWays t t')
    (hfollow : ∀ m cs, follow m cs = .ok r → follow' m cs = .ok r) (cs : List String)
    (h : t.walkWith purpose follow m cs = .ok r) : t'.walkWith .use follow' m cs = .ok r := by
  induction cs generalizing m with
  | nil => exact h
  | cons name rest ih =>
    obtain ⟨hm, hstep⟩ := walkWith_cons_eq_ok.1 h
    refine walkWith_cons_eq_ok.2 ⟨hk.directory m hm, ?_⟩
    have hask : ¬(Purpose.use = .write ∧ asksForDirectory rest) := fun h => nomatch h.1
    cases hstep with
    | stay hself h => exact .stay hself (ih h)
    | up hup h => exact .up hup (ih h)
    | link hname _ hlink h => exact .link hname hask ((hk.link _ _).2 hlink) (hfollow _ _ h)
    | enter hname _ hno h =>
      exact .enter hname hask (fun target ht => hno target ((hk.link _ _).1 ht)) (ih h)

/-- **A walk goes the same way** in a tree that keeps the ways, however many links it follows
and whatever it was made for. -/
theorem walk_of_keepsWays (hk : KeepsWays t t') (n : Nat) (m : Location) (cs : List String)
    (h : t.walk purpose n m cs = .ok r) : t'.walk .use n m cs = .ok r := by
  induction n generalizing m cs with
  | zero => exact walkWith_of_keepsWays hk (fun _ _ h => by cases h) cs h
  | succ n ih => exact walkWith_of_keepsWays hk ih cs h

/-! ### One name more -/

theorem walkWith_concat (hl : t.node? l = some .directory) (hname : Plain name)
    (hno : ∀ target, t.node? (name :: l) ≠ some (.link target))
    (hfollow : ∀ m cs, follow m cs = .ok l → follow m (cs ++ [name]) = .ok (name :: l))
    (cs : List String) (h : t.walkWith .use follow m cs = .ok l) :
    t.walkWith .use follow m (cs ++ [name]) = .ok (name :: l) := by
  have hask (rest : List String) : ¬(Purpose.use = .write ∧ asksForDirectory rest) :=
    fun h => nomatch h.1
  induction cs generalizing m with
  | nil =>
    obtain rfl := Except.ok.inj h
    exact walkWith_cons_eq_ok.2 ⟨hl, .enter hname (hask _) hno rfl⟩
  | cons first rest ih =>
    obtain ⟨hm, hstep⟩ := walkWith_cons_eq_ok.1 h
    rw [List.cons_append]
    refine walkWith_cons_eq_ok.2 ⟨hm, ?_⟩
    cases hstep with
    | stay hself h => exact .stay hself (ih h)
    | up hup h => exact .up hup (ih h)
    | link hfirst _ hlink h =>
      refine .link hfirst (hask _) hlink ?_
      rw [← List.append_assoc]
      exact hfollow _ _ h
    | enter hfirst _ hno h => exact .enter hfirst (hask _) hno (ih h)

/-- **A walk can go on by one name** from the directory where it ends, unless there is a link. -/
theorem walk_concat (hl : t.node? l = some .directory) (hname : Plain name)
    (hno : ∀ target, t.node? (name :: l) ≠ some (.link target)) (n : Nat) (m : Location)
    (cs : List String) (h : t.walk .use n m cs = .ok l) :
    t.walk .use n m (cs ++ [name]) = .ok (name :: l) := by
  induction n generalizing m cs with
  | zero => exact walkWith_concat hl hname hno (fun _ _ h => by cases h) cs h
  | succ n ih => exact walkWith_concat hl hname hno ih cs h

theorem exists_of_walkWith_concat
    (hfollow : ∀ m cs, follow m (cs ++ [name]) = .ok r →
      ∃ l, follow m cs = .ok l ∧ t.node? l = some .directory)
    (cs : List String) (h : t.walkWith purpose follow m (cs ++ [name]) = .ok r) :
    ∃ l, t.walkWith .use follow m cs = .ok l ∧ t.node? l = some .directory := by
  induction cs generalizing m with
  | nil => exact ⟨m, rfl, (walkWith_cons_eq_ok.1 h).1⟩
  | cons first rest ih =>
    rw [List.cons_append] at h
    obtain ⟨hm, hstep⟩ := walkWith_cons_eq_ok.1 h
    have hask : ¬(Purpose.use = .write ∧ asksForDirectory rest) := fun h => nomatch h.1
    suffices hrest : ∃ l, Step t .use follow m first rest l ∧ t.node? l = some .directory by
      obtain ⟨l, hl, hd⟩ := hrest
      exact ⟨l, walkWith_cons_eq_ok.2 ⟨hm, hl⟩, hd⟩
    cases hstep with
    | stay hself h => exact (ih h).imp fun l hl => ⟨.stay hself hl.1, hl.2⟩
    | up hup h => exact (ih h).imp fun l hl => ⟨.up hup hl.1, hl.2⟩
    | link hfirst _ hlink h =>
      rw [← List.append_assoc] at h
      exact (hfollow _ _ h).imp fun l hl => ⟨.link hfirst hask hlink hl.1, hl.2⟩
    | enter hfirst _ hno h => exact (ih h).imp fun l hl => ⟨.enter hfirst hask hno hl.1, hl.2⟩

/-- **A walk by one name more** has passed through a directory. -/
theorem exists_of_walk_concat (n : Nat) (m : Location) (cs : List String)
    (h : t.walk .use n m (cs ++ [name]) = .ok r) :
    ∃ l, t.walk .use n m cs = .ok l ∧ t.node? l = some .directory := by
  induction n generalizing m cs with
  | zero => exact exists_of_walkWith_concat (fun _ _ h => by cases h) cs h
  | succ n ih => exact exists_of_walkWith_concat ih cs h

/-! ### Paths -/

variable {p : Path} {n : Node}

/-- A path leads to the end of a walk from its anchor, unless it is too long. -/
theorem locate_eq_ok :
    t.locate p purpose = .ok l ↔ p.text.utf8ByteSize < pathLimit ∧
      t.walk purpose linkLimit (if p.anchor = .relative then t.here else []) p.names = .ok l := by
  unfold locate
  split
  · rename_i hlimit
    exact ⟨(nomatch ·), fun h => absurd h.1 (Nat.not_lt.2 hlimit)⟩
  · rename_i hlimit
    exact ⟨fun h => ⟨Nat.lt_of_not_le hlimit, h⟩, fun h => h.2⟩

theorem stat_eq_ok : t.stat p = .ok n ↔ ∃ l, t.locate p = .ok l ∧ t.node? l = some n := by
  unfold stat
  rw [bind_eq_ok]
  refine exists_congr fun l => and_congr_right fun _ => ?_
  cases t.node? l <;> simp

theorem locate_of_keepsWays (hk : KeepsWays t t') (h : t.locate p purpose = .ok l) :
    t'.locate p = .ok l := by
  obtain ⟨hlimit, hwalk⟩ := locate_eq_ok.1 h
  rw [← hk.here] at hwalk
  exact locate_eq_ok.2 ⟨hlimit, walk_of_keepsWays hk _ _ _ hwalk⟩

/-- The names of a path are those of its parent and the last one. -/
theorem names_parent_concat (h : p.names.getLast? = some name) :
    p.parent.names ++ [name] = p.names := by
  obtain ⟨up, hup⟩ := List.getLast?_eq_some_iff.1 h
  unfold Path.parent
  rw [hup, List.dropLast_concat]

/-- **A path leads to its last name** in the directory that its parent leads to, unless there is
a link. -/
theorem locate_of_parent (h : p.names.getLast? = some name)
    (hlimit : p.text.utf8ByteSize < pathLimit) (hl : t.locate p.parent = .ok l)
    (hd : t.node? l = some .directory) (hname : Plain name)
    (hno : ∀ target, t.node? (name :: l) ≠ some (.link target)) : t.locate p = .ok (name :: l) := by
  refine locate_eq_ok.2 ⟨hlimit, ?_⟩
  rw [← names_parent_concat h]
  exact walk_concat hd hname hno _ _ _ (locate_eq_ok.1 hl).2

/-- A path that leads somewhere has a parent that leads to a directory, unless it is too long. -/
theorem locate_parent (h : p.names.getLast? = some name) (hr : t.locate p = .ok r) :
    t.locate p.parent = .error .nameTooLong ∨
      ∃ l, t.locate p.parent = .ok l ∧ t.node? l = some .directory := by
  by_cases hlimit : pathLimit ≤ p.parent.text.utf8ByteSize
  · exact .inl (if_pos hlimit)
  · have hwalk := (locate_eq_ok.1 hr).2
    rw [← names_parent_concat h] at hwalk
    obtain ⟨l, hl, hd⟩ := exists_of_walk_concat _ _ _ hwalk
    exact .inr ⟨l, locate_eq_ok.2 ⟨Nat.lt_of_not_le hlimit, hl⟩, hd⟩

end FileTree
end PowerSupply
