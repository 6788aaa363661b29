/-
# How discovery ends

Discovery asks for files without guarding itself against the answer, and one answer is a
fault: a name on the way to a file that is longer than a name may be.  Nothing else in a
tree is.  Missing files, files in place of directories, directories in place of files,
links that dangle or loop and a root that cannot be listed all have an answer.

So discovery ends well exactly where no file that it asks for has too long a name, and
otherwise with the fault of the first such file (`outcome_of_run`).  A link is enough for
that, since its target may have any name (`fault_of_long_target`).
-/

import PowerSupply.FileTree.Change
import PowerSupply.Proofs.Discovery.Files

namespace PowerSupply

/-! ### Names without a NUL character -/

/-- No name in the tree has a NUL character, as no file name can. -/
def FileTree.NulFree (t : FileTree) : Prop :=
  ∀ x ∈ t.nodes, ∀ name ∈ x.1, Char.ofNat 0 ∉ name.toList

instance (t : FileTree) : Decidable t.NulFree := inferInstanceAs (Decidable (∀ x ∈ t.nodes, _))

/-- The names in a directory are names of nodes. -/
theorem FileTree.exists_of_mem_names {t : FileTree} {l : Location} {name : String}
    (h : name ∈ t.names l) : ∃ x ∈ t.nodes, name ∈ x.1 := by
  have unfolded : ∀ ns : List String, name ∈ ns.foldr insertName [] → name ∈ ns := by
    intro ns
    induction ns with
    | nil => exact id
    | cons n ns ih =>
      intro hn
      rcases mem_insertName.1 hn with rfl | hn
      · exact List.mem_cons_self ..
      · exact List.mem_cons_of_mem _ (ih hn)
  obtain ⟨x, hx, hname⟩ := List.mem_filterMap.1 (unfolded _ h)
  refine ⟨x, hx, ?_⟩
  split at hname
  · split at hname
    · obtain rfl := Option.some.inj hname
      rename_i hl _
      rw [hl]
      exact List.mem_cons_self ..
    · cases hname
  · cases hname

/-- The parts that a text is split into have no other characters. -/
theorem mem_of_mem_splitOn {c d : Char} {s part : List Char} (hp : part ∈ s.splitOn d)
    (hc : c ∈ part) : c ∈ s := by
  induction s generalizing part with
  | nil =>
    rw [List.splitOn_nil] at hp
    exact List.mem_singleton.1 hp ▸ hc
  | cons a s ih =>
    rw [List.splitOn_cons_eq_if_modifyHead] at hp
    split at hp
    · rcases List.mem_cons.1 hp with rfl | hp
      · cases hc
      · exact List.mem_cons_of_mem _ (ih hp hc)
    cases hs : s.splitOn d with
    | nil => exact absurd hs (List.splitOn_ne_nil d s)
    | cons first rest =>
      rw [hs] at hp ih
      rcases List.mem_cons.1 hp with rfl | hp
      · rcases List.mem_cons.1 hc with rfl | hc
        · exact List.mem_cons_self ..
        · exact List.mem_cons_of_mem _ (ih (List.mem_cons_self ..) hc)
      · exact List.mem_cons_of_mem _ (ih (List.mem_cons_of_mem _ hp) hc)

theorem Path.hasNul_ofText {s : String} (h : Char.ofNat 0 ∉ s.toList) :
    (Path.ofText s).hasNul = false := by
  refine List.any_eq_false.2 fun name hname hc => h ?_
  obtain ⟨part, hpart, rfl⟩ := List.mem_map.1 (List.mem_filter.1 hname).1
  rw [String.toList_ofList] at hc
  exact mem_of_mem_splitOn hpart (List.contains_iff_mem.1 hc)

namespace Discovery

variable {t : FileTree} {root : Path}

/-- **In a tree without NUL characters**, those of a path come from its root. -/
theorem hasNul_device (ht : t.NulFree) (hr : root.hasNul = false) {name : String}
    (hn : name ∈ devices t root) : (root / name / "type" : Path).hasNul = false := by
  have names : ∀ {l : Location}, name ∈ t.names l → Char.ofNat 0 ∉ name.toList := by
    intro l h
    obtain ⟨x, hx, hname⟩ := FileTree.exists_of_mem_names h
    exact ht x hx name hname
  have hname : Char.ofNat 0 ∉ name.toList := by
    unfold devices FileTree.list at hn
    cases hl : t.locate root with
    | error e =>
      rw [hl] at hn
      cases hn
    | ok l =>
      rw [hl] at hn
      simp only [bind, Except.bind] at hn
      split at hn
      · exact names hn
      · cases hn
      · cases hn
  exact Path.hasNul_join (Path.hasNul_join hr (Path.hasNul_ofText hname)) (by decide +kernel)

/-! ### The whole scan -/

/-- The files that are asked for at the devices of a supply root, in order. -/
def asked (t : FileTree) (root : Path) : List Path :=
  (devices t root).flatMap fun name : String => askedAt t (root / name)

/-- **The visits in turn** ask for the files of each device. -/
theorem asks_visits (names : List String)
    (hn : ∀ name ∈ names, (root / name / "type" : Path).hasNul = false) (found : Findings) :
    Asks t (names.flatMap fun name : String => askedAt t (root / name))
      (names.foldlM (visit t root) found).result (names.foldl (after t root) found) := by
  induction names generalizing found with
  | nil => exact Asks.pure found
  | cons name names ih =>
    rw [List.flatMap_cons, List.foldlM_cons, List.foldl_cons, Trace.result_bind]
    refine (asks_visit (hn name (List.mem_cons_self ..)) found).bind ?_
    exact ih (fun n h => hn n (List.mem_cons_of_mem _ h)) _

/-- A report ends well and has nothing to say that is an error. -/
theorem level_report (c : Configuration) : ∀ n ∈ (report c).events, n.level ≠ .error := by
  unfold report
  have rest : ∀ n ∈ ((c.paths.missing.forM fun q => Trace.emit (Note.missing q)) >>= fun _ =>
      (Trace.emit (Note.resolved c) : Logged Unit)).events, n.level ≠ .error := by
    refine Trace.forall_events_bind ?_ fun _ _ n hn => ?_
    · rw [Trace.events_forM_emit]
      intro n hn
      obtain ⟨q, -, rfl⟩ := List.mem_map.1 hn
      exact nofun
    · obtain rfl := List.mem_singleton.1 hn
      exact nofun
  cases c.chargers.isEmpty with
  | false => exact rest
  | true =>
    refine Trace.forall_events_bind (fun n hn => ?_) fun _ _ => rest
    obtain rfl := List.mem_singleton.1 hn
    exact nofun

/-- **A root that cannot be listed** has the empty configuration, and that is the one
error in the log. -/
theorem run_of_unlisted (hr : root.hasNul = false) {e : FileError} (hl : t.list root = .error e) :
    (run t root).result = .ok (.empty root) ∧
      (run t root).events.filter (fun n => n.level = .error) = [.unlisted root e] := by
  have hrun : run t root = (do
      .emit (.unlisted root e)
      report (.empty root)
      return .empty root) := by
    unfold run
    rw [hr, hl]
    rfl
  have none : (report (.empty root)).events.filter (fun n => n.level = .error) = [] :=
    List.filter_eq_nil_iff.2 fun n hn h => level_report _ n hn (of_decide_eq_true h)
  rw [hrun]
  constructor
  · rw [Trace.result_bind_ok _ (Trace.result_emit _), Trace.result_bind_ok _ (result_report _)]
    rfl
  · rw [Trace.events_bind_ok _ (Trace.result_emit _), Trace.events_bind_ok _ (result_report _),
      List.filter_append, List.filter_append, none]
    rfl

/-- **Discovery** asks for the files of each device, and then has its configuration. -/
theorem asks_run (ht : t.NulFree) (hr : root.hasNul = false) :
    Asks t (asked t root) (run t root).result
      (configuration root ((devices t root).foldl (after t root) {})) := by
  have visits := asks_visits (t := t) (devices t root) (fun name => hasNul_device ht hr) {}
  unfold asked
  cases hl : t.list root with
  | error e =>
    have none : devices t root = [] := by
      unfold devices
      rw [hl]
      rfl
    rw [none, (run_of_unlisted hr hl).1]
    exact Asks.pure _
  | ok names =>
    have some : devices t root = names := by
      unfold devices
      rw [hl]
      rfl
    rw [some] at visits ⊢
    unfold run
    rw [hr, hl]
    show Asks t _ (names.foldlM (visit t root) {} >>= _).result _
    rw [Trace.result_bind]
    refine visits.bind_ok ?_
    exact Trace.result_bind_ok _ (result_report _)

/-- **How discovery ends** in a tree, and at a root, without NUL characters.

There is a configuration exactly where none of the files that it asks for has too long a
name on the way; otherwise the first such file is the fault.  Where the root cannot be
listed there is nothing to ask for: the configuration is the empty one, and the log has
one error. -/
theorem outcome_of_run (ht : t.NulFree) (hr : root.hasNul = false) :
    let found := (run t root).result
    ((∃ c, found = .ok c) ↔ ∀ p ∈ asked t root, ¬TooLong t p) ∧
    (∀ f, found = .error f ↔ ∃ before p after, asked t root = before ++ p :: after ∧
      TooLong t p ∧ (∀ q ∈ before, ¬TooLong t q) ∧ f = .file .nameTooLong p) ∧
    ∀ e, t.list root = .error e → found = .ok (.empty root) ∧
      (run t root).events.filter (fun n => n.level = .error) = [.unlisted root e] := by
  have asks := asks_run ht hr
  exact ⟨Asks.exists_ok_iff asks, fun _ => Asks.eq_error_iff asks, fun _ => run_of_unlisted hr⟩

/-- A file in place of a device, and a battery with a directory in place of an attribute,
a link that dangles, one that loops, and at last one to a name that is too long. -/
def longTargetTree : FileTree :=
  FileTree.empty.changes
    [.file "ps/stray" [],
      .device "ps/BAT0" [("type", "Battery"), ("capacity", "80")],
      .directory "ps/BAT0/status",
      .link "ps/BAT0/health" (.ofText "gone"),
      .link "ps/BAT0/present" (.ofText "present"),
      .link "ps/BAT0/technology" ⟨false, [String.ofList (List.replicate 256 'n')]⟩]

/-- The fourth question in that tree is the one whose answer is a fault. -/
theorem asked_longTargetTree : ∃ before after, asked longTargetTree "ps" =
    before ++ ("ps/BAT0/technology" : Path) :: after ∧
      (∀ q ∈ before, ¬TooLong longTargetTree q) ∧ TooLong longTargetTree "ps/BAT0/technology" := by
  have hdevices : devices longTargetTree "ps" = ["BAT0", "stray"] := by decide +kernel
  have hkind : kind longTargetTree (("ps" : Path) / "BAT0") = .battery := by decide +kernel
  have htechnology : ("ps" : Path) / "BAT0" / "technology" = "ps/BAT0/technology" := by
    decide +kernel
  have hasked : ∃ after, asked longTargetTree "ps" =
      [("ps" : Path) / "BAT0" / "status", ("ps" : Path) / "BAT0" / "health",
        ("ps" : Path) / "BAT0" / "present"] ++ ("ps" : Path) / "BAT0" / "technology" :: after := by
    unfold asked askedAt
    rw [hdevices, List.flatMap_cons, hkind]
    exact ⟨_, rfl⟩
  obtain ⟨after, hasked⟩ := hasked
  rw [htechnology] at hasked
  exact ⟨_, after, hasked, by decide +kernel, by decide +kernel⟩

/-- In that tree the fault is the fourth question, and at a root that is not there nothing
is asked. -/
theorem outcome_of_long_target :
    longTargetTree.NulFree ∧ Path.hasNul "ps" = false ∧ Path.hasNul "nowhere" = false ∧
      (run longTargetTree "ps").result = .error (.file .nameTooLong "ps/BAT0/technology") ∧
      (run longTargetTree "nowhere").result = .ok (.empty "nowhere") := by
  have htree : longTargetTree.NulFree := by decide +kernel
  have hps : Path.hasNul "ps" = false := by decide +kernel
  have hnowhere : Path.hasNul "nowhere" = false := by decide +kernel
  obtain ⟨-, hfault, -⟩ := outcome_of_run htree hps
  obtain ⟨-, -, hunlisted⟩ := outcome_of_run htree hnowhere
  obtain ⟨before, after, hasked, hbefore, hlong⟩ := asked_longTargetTree
  obtain ⟨e, he⟩ := exists_error_of_isNone (x := longTargetTree.list "nowhere") (by decide +kernel)
  exact ⟨htree, hps, hnowhere,
    (hfault _).2 ⟨before, _, after, hasked, hlong, hbefore, rfl⟩, (hunlisted e he).1⟩

/-- **A link can keep discovery from a configuration:** its target may have a name that no
file can have. -/
theorem fault_of_long_target : ¬∃ c, (run longTargetTree "ps").result = .ok c := by
  obtain ⟨before, after, hasked, -, hlong⟩ := asked_longTargetTree
  have asks := asks_run (t := longTargetTree) (by decide +kernel)
    (show Path.hasNul "ps" = false by decide +kernel)
  intro h
  refine (Asks.exists_ok_iff asks).1 h _ ?_ hlong
  rw [hasked]
  simp

end Discovery
end PowerSupply
