/-
# What a history of updates comes to

An update of a service without a configuration discovers one first.  Where discovery
fails the update ends there and the snapshot is as before; where it ends well the
configuration is kept for good and every update from then on is a refresh.

So a history of updates has two parts: the trees in which discovery failed, which leave
no trace in the snapshot, and the trees from the first one on in which it ended well
(`sinceFound`), which are refreshed over with one configuration (`updateOver_cases`).
After any history a field has what was seen of it last since discovery, or what was
there at the start (`get?_updateOver`).
-/

import PowerSupply.Proofs.Refresh.Discovered
import PowerSupply.Proofs.Refresh.History

namespace PowerSupply
namespace Service

open Refresh (seen)

/-- A service after an update over each of several trees in turn. -/
def updateOver (root : Path) (s : Service) (trees : List FileTree) : Service :=
  trees.foldl (fun s t => (s.update (.ofRoot root) t).1) s

/-- The trees of a history from the first one on in which discovery ends well. -/
def sinceFound (root : Path) (trees : List FileTree) : List FileTree :=
  trees.dropWhile fun t => (Discovery.run t root).result.toOption.isNone

variable {root : Path} {s : Service} {k : Constants} {c : Configuration} {f : Fault}
variable {t : FileTree} {trees : List FileTree}

theorem updateOver_cons (root : Path) (s : Service) (t : FileTree) (trees : List FileTree) :
    updateOver root s (t :: trees) = updateOver root (s.update (.ofRoot root) t).1 trees := rfl

theorem updateOver_concat (root : Path) (s : Service) (trees : List FileTree) (t : FileTree) :
    updateOver root s (trees ++ [t]) = ((updateOver root s trees).update (.ofRoot root) t).1 :=
  List.foldl_append

theorem sinceFound_cons_of_error (h : (Discovery.run t root).result = .error f)
    (trees : List FileTree) : sinceFound root (t :: trees) = sinceFound root trees := by
  unfold sinceFound
  rw [List.dropWhile_cons, h]
  rfl

theorem sinceFound_cons_of_ok (h : (Discovery.run t root).result = .ok c) (trees : List FileTree) :
    sinceFound root (t :: trees) = t :: trees := by
  unfold sinceFound
  rw [List.dropWhile_cons, h]
  rfl

/-- Where anything was discovered, the last tree of a history is among the trees since
then, and it is the last of them. -/
theorem exists_sinceFound_concat (h : sinceFound root (trees ++ [t]) ≠ []) :
    ∃ before, sinceFound root (trees ++ [t]) = before ++ [t] := by
  have hsuffix : sinceFound root (trees ++ [t]) <:+ trees ++ [t] := List.dropWhile_suffix _
  rcases List.suffix_concat_iff.1 hsuffix with hnil | ⟨before, hbefore, -⟩
  · exact absurd hnil h
  · exact ⟨before, hbefore⟩

/-! ### One update -/

/-- **An update of a service that cannot be bound** leaves it as it is. -/
theorem update_unbound {e : BindingError} (hs : s.configuration? = none)
    (hb : Constants.bind s.source s.snapshot = .error e) :
    (s.update (.ofRoot root) t).1 = s := by
  have hstart := start_unbound (p := .ofRoot root) (w := t) hs hb
  have hresult : (s.start (.ofRoot root) t).2.2.result = .error (.binding e) := by
    rw [hstart]
    rfl
  rw [update_failed hresult, hstart]

/-- **An update in which discovery fails** has the fault of the discovery, and leaves the
service bound with the snapshot that it had. -/
theorem update_undiscovered (hs : s.configuration? = none)
    (hb : Constants.bind s.source s.snapshot = .ok k)
    (hd : (Discovery.run t root).result = .error f) :
    (s.update (.ofRoot root) t).1 = { s with stage := .bound k } ∧
      (s.update (.ofRoot root) t).2.2.result = .error f := by
  have hstart : s.start (.ofRoot root) t = ({ s with stage := .bound k }, t, Discovery.run t root) :=
    start_failed hs hb hd
  have hresult : (s.start (.ofRoot root) t).2.2.result = .error f := by
    rw [hstart]
    exact hd
  rw [update_failed hresult, hstart]
  exact ⟨rfl, rfl⟩

/-- **An update in which discovery ends well** is a refresh with what was discovered. -/
theorem update_discovered (hs : s.configuration? = none)
    (hb : Constants.bind s.source s.snapshot = .ok k)
    (hd : (Discovery.run t root).result = .ok c) :
    (s.update (.ofRoot root) t).1 =
      (Service.refresh (.ofRoot root) ⟨s.source, s.snapshot, .started k c⟩ t).1 := by
  obtain ⟨hstart, hresult⟩ := start_found (p := .ofRoot root) (w := t) hs hb hd
  obtain ⟨hservice, htree⟩ := Prod.mk.inj hstart
  have hupdate := (Prod.mk.inj (update_started hresult)).1
  rw [hservice, htree] at hupdate
  exact hupdate

/-- A start that goes through leaves the service started with what it returns, whatever the
provider. -/
theorem stage_of_start {ω : Type} {p : Provider ω} {w : ω}
    (h : (s.start p w).2.2.result = .ok c) : ∃ k, (s.start p w).1.stage = .started k c := by
  cases hs : s.configuration? with
  | some c' =>
    obtain ⟨k, hk⟩ := configuration?_eq_some_iff.1 hs
    rw [start_of_started p w hk] at h ⊢
    exact ⟨k, Except.ok.inj h ▸ hk⟩
  | none =>
    cases hb : Constants.bind s.source s.snapshot with
    | error e =>
      rw [start_unbound hs hb] at h
      cases h
    | ok k =>
      cases hd : (p.discover w).2.result with
      | error f =>
        rw [start_failed hs hb hd] at h
        cases hd.symm.trans h
      | ok c' =>
        obtain ⟨hstart, hfound⟩ := start_found hs hb hd
        obtain rfl : c' = c := Except.ok.inj (hfound.symm.trans h)
        exact ⟨k, congrArg (fun x => x.1.stage) hstart⟩

/-- **An update that goes through** leaves the service with a configuration. -/
theorem exists_configuration_of_update {ω : Type} {p : Provider ω} {w : ω}
    (h : (s.update p w).2.2.result = .ok ()) : ∃ c, (s.update p w).1.configuration? = some c := by
  cases hr : (s.start p w).2.2.result with
  | error f =>
    rw [update_failed hr] at h
    cases h
  | ok c =>
    obtain ⟨k, hk⟩ := stage_of_start hr
    have hupdate : (s.update p w).1 = ((s.start p w).1.refresh p (s.start p w).2.1).1 :=
      (Prod.mk.inj (update_started hr)).1
    rw [refresh_started hk] at hupdate
    refine ⟨c, configuration?_eq_some_iff.2 ⟨k, ?_⟩⟩
    rw [hupdate]
    exact hk

/-! ### A history of updates -/

/-- Updates of a started service are refreshes. -/
theorem updateOver_of_started (h : s.stage = .started k c) (trees : List FileTree) :
    updateOver root s trees = refreshOver root s trees := by
  induction trees generalizing s with
  | nil => rfl
  | cons t trees ih =>
    have hstep : s.update (.ofRoot root) t = s.refresh (.ofRoot root) t := update_of_started h
    have hstage : (s.refresh (.ofRoot root) t).1.stage = .started k c := by
      rw [refresh_started h]
      exact h
    rw [updateOver_cons, hstep]
    exact ih hstage

/-- Refreshes keep the stage of a started service. -/
theorem stage_refreshOver (h : s.stage = .started k c) (trees : List FileTree) :
    (refreshOver root s trees).stage = .started k c := by
  induction trees generalizing s with
  | nil => exact h
  | cons t trees ih =>
    refine ih (s := (s.refresh (.ofRoot root) t).1) ?_
    rw [refresh_started h]
    exact h

/-- A service that cannot be bound is left as it is by every history. -/
theorem updateOver_unbound {e : BindingError} (hs : s.configuration? = none)
    (hb : Constants.bind s.source s.snapshot = .error e) (trees : List FileTree) :
    updateOver root s trees = s := by
  induction trees with
  | nil => rfl
  | cons t trees ih =>
    rw [updateOver_cons, update_unbound hs hb, ih]

/-- **What a history of updates comes to.**  Either discovery failed in every tree, and
there is no configuration and the snapshot is as at the start; or discovery ended well in
a first tree, and the service is as after refreshing over the trees from there on with
what was discovered then. -/
theorem updateOver_cases (hs : s.configuration? = none)
    (hb : Constants.bind s.source s.snapshot = .ok k) (root : Path) (trees : List FileTree) :
    (sinceFound root trees = [] ∧ (updateOver root s trees).configuration? = none ∧
        (updateOver root s trees).snapshot = s.snapshot) ∨
      ∃ t ts c, sinceFound root trees = t :: ts ∧ (Discovery.run t root).result = .ok c ∧
        updateOver root s trees =
          refreshOver root ⟨s.source, s.snapshot, .started k c⟩ (t :: ts) := by
  induction trees generalizing s with
  | nil => exact .inl ⟨rfl, hs, rfl⟩
  | cons t trees ih =>
    cases hd : (Discovery.run t root).result with
    | error f =>
      rw [sinceFound_cons_of_error hd, updateOver_cons, (update_undiscovered hs hb hd).1]
      exact ih (s := { s with stage := .bound k }) rfl hb
    | ok c =>
      refine .inr ⟨t, trees, c, sinceFound_cons_of_ok hd trees, hd, ?_⟩
      rw [updateOver_cons, update_discovered hs hb hd]
      exact updateOver_of_started (stage_refreshOver rfl [t]) trees

/-- A service that a history of updates leaves without a configuration has the snapshot
that it had. -/
theorem snapshot_updateOver (hs : s.configuration? = none)
    (h : (updateOver root s trees).configuration? = none) :
    (updateOver root s trees).snapshot = s.snapshot := by
  cases hb : Constants.bind s.source s.snapshot with
  | error e => rw [updateOver_unbound hs hb]
  | ok k =>
    rcases updateOver_cases hs hb root trees with ⟨-, -, hsnapshot⟩ | ⟨t, ts, c, -, -, heq⟩
    · exact hsnapshot
    · have hsome : (updateOver root s trees).configuration? = some c := by
        rw [heq]
        exact configuration?_eq_some_iff.2 ⟨k, stage_refreshOver rfl _⟩
      rw [h] at hsome
      cases hsome

/-- **A field after a history of updates** has what was seen of it last since discovery,
or what was there at the start if it was never seen. -/
theorem get?_updateOver (hs : s.configuration? = none)
    (hb : Constants.bind s.source s.snapshot = .ok k)
    (hc : (updateOver root s trees).configuration? = some c) (f : Field) :
    sinceFound root trees ≠ [] ∧
      (updateOver root s trees).snapshot.get? f.name =
        (last? (fun t => seen k c t f) (sinceFound root trees)).or (s.snapshot.get? f.name) := by
  rcases updateOver_cases hs hb root trees with
    ⟨-, hnone, -⟩ | ⟨t, ts, c', hsince, hrun, heq⟩
  · rw [hnone] at hc
    cases hc
  · have hstage : (updateOver root s trees).stage = .started k c' := by
      rw [heq]
      exact stage_refreshOver rfl _
    obtain ⟨k', hk'⟩ := configuration?_eq_some_iff.1 hc
    obtain ⟨-, rfl⟩ := Stage.started.inj (hstage.symm.trans hk')
    obtain ⟨d, hd, hz⟩ := Discovery.divisor_of_run hrun
    rw [hsince, heq]
    refine ⟨List.cons_ne_nil _ _, ?_⟩
    exact Refresh.get?_refreshOver hd hz (Discovery.hasNul_of_run hrun) root k s.source s.snapshot
      (t :: ts) f

/-- A field of which the last tree of a history gives a value has this value. -/
theorem get?_updateOver_concat (hs : s.configuration? = none)
    (hb : Constants.bind s.source s.snapshot = .ok k)
    (hc : (updateOver root s (trees ++ [t])).configuration? = some c) {f : Field} {v : Json}
    (hv : seen k c t f = some v) :
    (updateOver root s (trees ++ [t])).snapshot.get? f.name = some v := by
  obtain ⟨hsince, hlast⟩ := get?_updateOver hs hb hc f
  obtain ⟨before, hbefore⟩ := exists_sinceFound_concat hsince
  rw [hlast, hbefore, Last.last?_concat, hv]
  rfl

/-- A field that starts at zero and of which integers are seen has the last of them, or zero
if it was never seen. -/
theorem get?_updateOver_of_int (hs : s.configuration? = none)
    (hb : Constants.bind s.source s.snapshot = .ok k)
    (hc : (updateOver root s trees).configuration? = some c) {f : Field}
    (hzero : s.snapshot.get? f.name = some (.int 0)) {g : FileTree → Option Int}
    (hg : ∀ t, seen k c t f = (g t).map .int) :
    (updateOver root s trees).snapshot.get? f.name =
      some (.int ((last? g (sinceFound root trees)).getD 0)) := by
  rw [(get?_updateOver hs hb hc f).2, funext hg, Last.last?_map, hzero]
  cases last? g (sinceFound root trees) <;> rfl

end Service
end PowerSupply
