/-
# The names that are reported over a history

A snapshot holds integers of the owner for its status and health, and a report names them.
Over any history of starts and updates, each over the tree that there is then, the
integers come from texts of the trees that were refreshed over (`refreshedTrees`), through
the constants of the one binding that the service ever has (`Prepared`).

One step of a history either refreshes over its tree or leaves the snapshot as it is
(`apply_cases`), so after the history a field has what was seen of it last
(`get?_playOver`).  Where the integers of the owner are distinct, the names lead back to
the texts: the status of the last tree, and the last health that had a text
(`names_of_history`).
-/

import PowerSupply.Proofs.Binding
import PowerSupply.Proofs.Report
import PowerSupply.Proofs.Service.Updates

namespace PowerSupply
namespace Service

open Attribute (words?)
open Refresh (seen statusOf healthOf)

/-! ### Histories -/

/-- A service after several operations in order, each over the tree that there is then. -/
def playOver (root : Path) (s : Service) (steps : List (Operation × FileTree)) : Service :=
  steps.foldl (fun s step => (apply (.ofRoot root) (s, step.2) step.1).1) s

/-- The trees that were refreshed over: those of the updates that leave the service with a
configuration. -/
def refreshedTrees (root : Path) (s : Service) : List (Operation × FileTree) → List FileTree
  | [] => []
  | (op, t) :: steps =>
    let next := (apply (.ofRoot root) (s, t) op).1
    if op = .update ∧ next.configuration?.isSome then t :: refreshedTrees root next steps
    else refreshedTrees root next steps

variable {root : Path} {s : Service} {k : Constants} {c : Configuration} {t : FileTree}

theorem playOver_cons (root : Path) (s : Service) (op : Operation) (t : FileTree)
    (steps : List (Operation × FileTree)) :
    playOver root s ((op, t) :: steps) = playOver root (apply (.ofRoot root) (s, t) op).1 steps :=
  rfl

/-- A started service keeps its stage over a history. -/
theorem stage_playOver (h : s.stage = .started k c) (steps : List (Operation × FileTree)) :
    (playOver root s steps).stage = .started k c := by
  induction steps generalizing s with
  | nil => exact h
  | cons step steps ih => exact ih (stage_apply step.1 h)

/-! ### One step -/

/-- Whether the refreshes of a configuration go through: the divisor is an integer that is
not zero, and no file has a NUL character in its path. -/
structure Refreshable (c : Configuration) : Prop where
  divisor : ∃ d : Int, c.voltageDivisor = .int d ∧ d ≠ 0
  files : ∀ p ∈ c.files, p.hasNul = false

theorem refreshable_of_run (h : (Discovery.run t root).result = .ok c) : Refreshable c :=
  ⟨Discovery.divisor_of_run h, Discovery.hasNul_of_run h⟩

/-- What is known of a service at every point of a history: either it has no configuration
and binds to the constants `k`, or it was started with them. -/
inductive Prepared (k : Constants) (s : Service) : Prop where
  | waiting (hs : s.configuration? = none) (hb : Constants.bind s.source s.snapshot = .ok k)
  | started {c : Configuration} (hs : s.stage = .started k c) (hc : Refreshable c)

/-- What one step of a history comes to. -/
inductive Next (k : Constants) (s : Service) (op : Operation) (t : FileTree) (next : Service) :
    Prop where
  | kept (hprepared : Prepared k next) (hsnapshot : next.snapshot = s.snapshot)
      (hno : ¬(op = .update ∧ next.configuration?.isSome))
  | refreshed {c : Configuration} (hupdate : op = .update) (hs : next.stage = .started k c)
      (hc : Refreshable c)
      (hfields : ∀ f : Field,
        next.snapshot.get? f.name = (seen k c t f).or (s.snapshot.get? f.name))

/-- A refresh gives each field that is seen in the tree its new value. -/
theorem get?_refresh_of_started (hs : s.stage = .started k c) (hc : Refreshable c) (root : Path)
    (t : FileTree) (f : Field) :
    (s.refresh (.ofRoot root) t).1.snapshot.get? f.name =
      (seen k c t f).or (s.snapshot.get? f.name) := by
  obtain ⟨d, hd, hz⟩ := hc.divisor
  obtain ⟨source, snapshot, stage⟩ := s
  obtain rfl : stage = .started k c := hs
  exact (Refresh.get?_refresh hd hz hc.files root k source snapshot t).2 f

/-- A start leaves the snapshot as it is, whether it goes through or not. -/
theorem prepared_start (h : Prepared k s) (root : Path) (t : FileTree) :
    Prepared k (s.start (.ofRoot root) t).1 ∧
      (s.start (.ofRoot root) t).1.snapshot = s.snapshot := by
  cases h with
  | started hs hc =>
    rw [start_of_started _ t hs]
    exact ⟨.started hs hc, rfl⟩
  | waiting hs hb =>
    cases hd : (Discovery.run t root).result with
    | error f =>
      rw [start_failed (p := .ofRoot root) hs hb hd]
      exact ⟨.waiting rfl hb, rfl⟩
    | ok c =>
      have hstart := (Prod.mk.inj (start_found (p := .ofRoot root) (w := t) hs hb hd).1).1
      rw [hstart]
      exact ⟨.started rfl (refreshable_of_run hd), rfl⟩

/-- **One step of a history** leaves the snapshot as it is, unless it is an update that
refreshes. -/
theorem apply_cases (h : Prepared k s) (root : Path) (op : Operation) (t : FileTree) :
    Next k s op t (apply (.ofRoot root) (s, t) op).1 := by
  cases op with
  | close => exact .kept h rfl fun hop => nomatch hop.1
  | start =>
    obtain ⟨hprepared, hsnapshot⟩ := prepared_start h root t
    exact .kept hprepared hsnapshot fun hop => nomatch hop.1
  | update =>
    show Next k s .update t (s.update (.ofRoot root) t).1
    cases h with
    | started hs hc =>
      rw [update_of_started hs]
      refine .refreshed rfl ?_ hc (get?_refresh_of_started hs hc root t)
      rw [refresh_started hs]
      exact hs
    | waiting hs hb =>
      cases hd : (Discovery.run t root).result with
      | error f =>
        rw [(update_undiscovered hs hb hd).1]
        exact .kept (.waiting rfl hb) rfl fun hop => nomatch hop.2
      | ok c =>
        have hc := refreshable_of_run hd
        rw [update_discovered hs hb hd]
        exact .refreshed rfl rfl hc
          (get?_refresh_of_started (s := ⟨s.source, s.snapshot, .started k c⟩) rfl hc root t)

/-! ### A history -/

/-- **A field after a history** has what was seen of it last in the trees that were refreshed
over, or what was there at the start if it was never seen. -/
theorem get?_playOver (h : Prepared k s) (steps : List (Operation × FileTree))
    (hc : (playOver root s steps).configuration? = some c) (f : Field) :
    (playOver root s steps).snapshot.get? f.name =
      (last? (fun t => seen k c t f) (refreshedTrees root s steps)).or
        (s.snapshot.get? f.name) := by
  induction steps generalizing s with
  | nil => rfl
  | cons step steps ih =>
    obtain ⟨op, t⟩ := step
    rw [playOver_cons] at hc ⊢
    unfold refreshedTrees
    cases apply_cases h root op t with
    | kept hprepared hsnapshot hno =>
      rw [if_neg hno, ih hprepared hc, hsnapshot]
    | refreshed hupdate hs hsound hfields =>
      -- the configuration of this step is the one at the end
      obtain ⟨k', hk'⟩ := configuration?_eq_some_iff.1 hc
      obtain ⟨-, rfl⟩ := Stage.started.inj ((stage_playOver hs steps).symm.trans hk')
      have hsome := configuration?_eq_some_iff.2 ⟨k, hs⟩
      rw [if_pos ⟨hupdate, by rw [hsome]; rfl⟩, ih (.started hs hsound) hc, Last.last?_cons,
        Option.or_assoc, hfields]

theorem Next.prepared {op : Operation} {next : Service} (h : Next k s op t next) :
    Prepared k next := by
  cases h with
  | kept hprepared => exact hprepared
  | refreshed _ hs hc => exact .started hs hc

/-- What is known of a service at the start is known of it after every history. -/
theorem prepared_playOver (h : Prepared k s) (steps : List (Operation × FileTree)) :
    Prepared k (playOver root s steps) := by
  induction steps generalizing s with
  | nil => exact h
  | cons step steps ih => exact ih (apply_cases h root step.1 step.2).prepared

/-- With a configuration, such a service was started with the constants `k`. -/
theorem Prepared.stage (h : Prepared k s) (hc : s.configuration? = some c) :
    s.stage = .started k c := by
  cases h with
  | waiting hs => cases hs.symm.trans hc
  | started hs =>
    obtain ⟨k', hk'⟩ := configuration?_eq_some_iff.1 hc
    obtain ⟨-, rfl⟩ := Stage.started.inj (hs.symm.trans hk')
    exact hs

/-- The tree of an update at the end of a history is the last one that was refreshed over, if
the service has a configuration then. -/
theorem exists_refreshedTrees_concat {steps : List (Operation × FileTree)}
    (hc : (playOver root s (steps ++ [(.update, t)])).configuration? = some c) :
    ∃ before, refreshedTrees root s (steps ++ [(.update, t)]) = before ++ [t] := by
  induction steps generalizing s with
  | nil =>
    have hsome : (apply (.ofRoot root) (s, t) .update).1.configuration? = some c := hc
    refine ⟨[], if_pos ⟨rfl, ?_⟩⟩
    rw [hsome]
    rfl
  | cons step steps ih =>
    obtain ⟨op, u⟩ := step
    obtain ⟨before, hbefore⟩ := ih hc
    rw [List.cons_append]
    unfold refreshedTrees
    dsimp only
    rw [hbefore]
    split
    · exact ⟨u :: before, rfl⟩
    · exact ⟨before, rfl⟩

/-! ### The names -/

/-- **The names that are reported**, for every source of constants that a snapshot can be bound
to, whatever its integers are.

An integer has the label of the first variant that it stands for, and `unknown` if it stands
for none; so all variants have their own labels back exactly where their integers are
distinct.  After any history of operations that leaves the service with a configuration
there is a report of the snapshot.  With distinct integers for the statuses, and an update as
the last operation, the name of its status is the label for the status of the last tree; with
distinct integers for the healths, the name of its health is the label for the last text
that was there among the trees that were refreshed over. -/
theorem names_of_history {source : ConstantSource} {snapshot : Snapshot}
    (hb : Constants.bind source snapshot = .ok k) :
    let new : Service := .idle source snapshot
    ((∀ s : Status, Json.Members.get? s.constantName source = some (.int (k.status s))) ∧
      ∀ h : Health, Json.Members.get? h.constantName source = some (.int (k.health h))) ∧
    NamedByFirst Status.all Status.name Status.label k.status k.statusLabel ∧
    NamedByFirst Health.all Health.name Health.label k.health k.healthLabel ∧
    ∀ (root : Path) (steps : List (Operation × FileTree)) (c : Configuration),
      (playOver root new steps).configuration? = some c →
      ∃ ms, Report.ofSnapshot (playOver root new steps) = .ok ms ∧
        (Function.Injective k.status → ∀ earlier latest, steps = earlier ++ [(.update, latest)] →
          Json.Members.get? "status_name" ms =
            some (.str (statusOf latest c.paths.status).label)) ∧
        (Function.Injective k.health → ∀ text,
          last? (fun t => words? t c.paths.health) (refreshedTrees root new steps) = some text →
            Json.Members.get? "health_name" ms = some (.str (healthOf text).label)) := by
  intro new
  refine ⟨Constants.get?_of_ofSource (Constants.ofSource_of_bind hb), k.namedByFirst_status,
    k.namedByFirst_health, fun root steps c hc => ?_⟩
  have hnew : Prepared k new := .waiting rfl hb
  have hstage := (prepared_playOver hnew steps).stage hc
  have hfield := get?_playOver hnew steps hc
  obtain ⟨-, hstatus, hhealth⟩ := Report.get?_snapshotMembers k (playOver root new steps).snapshot
  refine ⟨Report.snapshotMembers k (playOver root new steps).snapshot, ?_,
    fun hinj earlier latest hsteps => ?_, fun hinj text htext => ?_⟩
  · unfold Report.ofSnapshot constants?
    rw [hstage]
  · obtain ⟨before, hbefore⟩ : ∃ before, refreshedTrees root new steps = before ++ [latest] := by
      subst hsteps
      exact exists_refreshedTrees_concat hc
    have hvalue : (playOver root new steps).snapshot.get? Field.status.name =
        some (.int (k.status (statusOf latest c.paths.status))) := by
      rw [hfield .status, hbefore, Last.last?_concat]
      rfl
    rw [hstatus, hvalue, Option.getD_some, k.namedByFirst_status.roundTrip.2 hinj]
  · have hvalue : (playOver root new steps).snapshot.get? Field.health.name =
        some (.int (k.health (healthOf text))) := by
      rw [hfield .health]
      show (last? (fun t => (words? t c.paths.health).map _) _).or _ = _
      rw [Last.last?_map, htext]
      rfl
    rw [hhealth, hvalue, Option.getD_some, k.namedByFirst_health.roundTrip.2 hinj]

/-- Constants from 40 on, a start over a battery that charges and is over its voltage, an update
and a second one over a tree without a health: the report names the new status and keeps
the health. -/
theorem names_of_start_and_updates :
    let source : ConstantSource := (ConstantSource.names.zipIdx 40).map fun x => (x.1, .int x.2)
    let k : Constants :=
      ⟨fun s => source.integer s.constantName, fun h => source.integer h.constantName⟩
    let t := FileTree.empty.changes
      [.device "ps/BAT0" [("type", "Battery"), ("status", "Charging"), ("health", "Over voltage")]]
    let t' := t.changes
      [.device "ps/BAT0" [("status", "Not charging")], .remove "ps/BAT0/health"]
    let final := playOver "ps" (.idle source .initial) [(.start, t), (.update, t), (.update, t')]
    Constants.bind source .initial = .ok k ∧
      Function.Injective k.status ∧ Function.Injective k.health ∧
      ∃ ms, Report.ofSnapshot final = .ok ms ∧
        Json.Members.get? "status_name" ms = some (.str "not_charging") ∧
        Json.Members.get? "health_name" ms = some (.str "over_voltage") := by
  intro source k t t' final
  have hb : Constants.bind source .initial = .ok k := rfl
  obtain ⟨statuses, healths⟩ :
      (∀ a ∈ Status.all, ∀ b ∈ Status.all, k.status a = k.status b → a = b) ∧
      ∀ a ∈ Health.all, ∀ b ∈ Health.all, k.health a = k.health b → a = b := by
    decide +kernel
  have hstatus : Function.Injective k.status := fun a b h =>
    statuses a (Status.mem_all a) b (Status.mem_all b) h
  have hhealth : Function.Injective k.health := fun a b h =>
    healths a (Health.mem_all a) b (Health.mem_all b) h
  -- evaluated together, so that each tree is built once
  obtain ⟨hpaths, status, health⟩ :
      (final.configuration?.map fun c => (c.paths.status, c.paths.health)) =
        some (some ("ps/BAT0/status" : Path), some ("ps/BAT0/health" : Path)) ∧
      (statusOf t' (some "ps/BAT0/status")).label = "not_charging" ∧
      last? (fun t => words? t (some "ps/BAT0/health"))
        (refreshedTrees "ps" (.idle source .initial) [(.start, t), (.update, t), (.update, t')]) =
        some "Over voltage" := by
    decide +kernel
  obtain ⟨c, hc, hsame⟩ := Option.map_eq_some_iff.1 hpaths
  obtain ⟨hs, hh⟩ := Prod.mk.inj hsame
  obtain ⟨-, -, -, report⟩ := names_of_history hb
  obtain ⟨ms, hms, hstatusName, hhealthName⟩ := report "ps" _ c hc
  refine ⟨hb, hstatus, hhealth, ms, hms, ?_, ?_⟩
  · rw [hstatusName hstatus [(.start, t), (.update, t)] t' rfl, hs, status]
  · exact hhealthName hhealth "Over voltage" (hh ▸ health)

end Service
end PowerSupply
